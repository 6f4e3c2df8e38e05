import PolicyEditor.Proofs.Job.Hosts
import PolicyEditor.Proofs.Job.Removals

/-!
# Jobs that fail

A job that does not consist of other jobs and is not about hosts changes one definition at most.  If
it fails, it has changed nothing: whatever may go wrong is looked at before the first change.  Only
the removals from rules and users end at the first item that is missing, when the items in front of
it are gone.  They leave one service in which some lists have lost items.  In no case is a file
marked as changed.

A job on hosts changes nothing either if it finds no network.  But if it ends at a network that
stops it, the networks in front of this one are changed, and nothing is rolled back: a failed job
ends the whole run before any file is written.

## Main definitions

* `Service.LosesUsers`, `Service.DiffersInRule` : a service in which users or one rule differ.
* `Job.Drops` : the jobs that may lose items although they fail, and what they lose.

## Main results

* `Job.Performs.error` : what a failed edit leaves.
* `Repository.unchanged_of_error` : a failed job that is not about hosts changes nothing but the
  lists that it removes items from.
* `Repository.stopsAt_of_error` : a failed job on hosts changes the networks in front of the one
  that stops it.
-/

namespace PolicyEditor

open Edit Repository

/-! ### Services that lose items -/

/-- The service `s'` is `s` with some of its users. -/
def Service.LosesUsers (s s' : Service) : Prop :=
  ∃ user, s.user.Loses user ∧ s' = { s with user }

/-- The service `s'` is `s` with another rule of the given number, and `rel` relates the two. -/
def Service.DiffersInRule (number : Int) (rel : Rule → Rule → Prop) (s s' : Service) : Prop :=
  ∃ i r r', Job.ruleIndex? s.rules.length number = some i ∧ s.rules[i]? = some r ∧ rel r r' ∧
    s' = { s with rules := s.rules.set i r' }

namespace Job

/-- The jobs that may lose items of a service although they fail, with the name of the service and
what they do to it then. -/
inductive Drops (job : Job) : (service : String) → (Service → Service → Prop) → Prop
  | parts {p : Params.RuleEdit} (hmethod : job.method = "remove_from_rule")
      (hparams : job.decode Params.RuleEdit.ofJson = .ok p) :
      Drops job (qualify "service" p.service) (Service.DiffersInRule p.ruleNum Rule.Loses)
  | users {p : Params.UserEdit} (hmethod : job.method = "remove_from_user")
      (hparams : job.decode Params.UserEdit.ofJson = .ok p) :
      Drops job (qualify "service" p.service) Service.LosesUsers
  | objects {p : Params.ServiceObject} (hmethod : job.method = "delete_service_user")
      (hparams : job.decode Params.ServiceObject.ofJson = .ok p) :
      Drops job (qualify "service" p.name) Service.LosesUsers
  | protocols {p : Params.ServiceRuleProtocol} (hmethod : job.method = "delete_service_protocol")
      (hparams : job.decode Params.ServiceRuleProtocol.ofJson = .ok p) :
      Drops job (qualify "service" p.name) (Service.DiffersInRule p.ruleNum Rule.LosesProtocols)

variable {job : Job} {service : String} {e : PolicyError}

/-! ### Edits of rules -/

/-- An edit of the protocols restores the rule if it restores the list. -/
theorem restores_editProtocols {context : Context} {edit : Edit (List Value) Unit}
    (h : Restores edit) : Restores (editProtocols context edit) := by
  intro r e r' hr
  rw [editProtocols] at hr
  split at hr
  · next vs hvalue =>
    dsimp only at hr
    split at hr
    · cases hr
    · next hedit =>
      cases hr
      obtain rfl := h hedit
      rw [← hvalue]
      -- An attribute is recursive, so it is equal to its parts only after a case split.
      cases r with
      | mk _ _ _ prt => cases prt; rfl
  · cases hr
    rfl

theorem restores_addProtocols (context : Context) (texts : List String) :
    Restores (addProtocols context texts) :=
  restores_editProtocols (succeeds_modify _).restores

/-- Protocols are added first, and only they can fail. -/
theorem restores_addParts (context : Context) (prt : Option Phrase)
    (src dst : Option (List Element)) : Restores (addParts context prt src dst) := by
  refine (restores_editIfSome fun _ => restores_addProtocols context _).bind fun _ =>
    (succeeds_editIfSome fun es => ?_).bind fun _ => succeeds_editIfSome fun es => ?_
  · exact (succeeds_modify _).focus
  · exact (succeeds_modify _).focus

/-- A failed edit of a rule leaves it as it was, or has lost some of its items. -/
theorem EditsRule.error {number : Int} {edit : Edit Rule Unit} {r r' : Rule}
    (h : job.EditsRule service number edit) (hr : edit r = .error e r') :
    r' = r ∨ ∃ rel, job.Drops service (Service.DiffersInRule number rel) ∧ rel r r' := by
  cases h with
  | addParts => exact .inl (restores_addParts _ _ _ _ hr)
  | removeParts hmethod hparams =>
    exact .inr ⟨_, .parts hmethod hparams, (leads_removeParts _ _ _).of_error hr⟩
  | addProtocols => exact .inl (restores_addProtocols _ _ hr)
  | removeProtocols hmethod hparams =>
    exact .inr ⟨_, .protocols hmethod hparams, (leads_removeRuleProtocols _).of_error hr⟩
  | addServers => exact .inl ((succeeds_modify _).restores hr)
  | removeServers => exact .inl (restores_removeServers _ _ hr)

/-! ### Edits of services -/

variable {s s' : Service}

/-- A failed edit of the rule with a number changes this rule alone. -/
theorem editRule_error {number : Int} {edit : Edit Rule Unit}
    (h : editRule service number edit s = .error e s') :
    s' = s ∨ Service.DiffersInRule number (fun r r' => edit r = .error e r') s s' := by
  simp only [editRule, bind, EStateM.bind, get_apply] at h
  cases hindex : ruleIndex? s.rules.length number with
  | none =>
    rw [hindex] at h
    cases h
    exact .inl rfl
  | some i =>
    rw [hindex] at h
    simp only [Edit.focus] at h
    split at h
    · cases h
    · next hrules =>
      cases h
      rcases atIndex_error hrules with rfl | ⟨r, r', hget, hr, rfl⟩
      · exact .inl rfl
      · exact .inr ⟨i, r, r', hindex, hget, hr, rfl⟩

theorem restores_dropRule (service : String) (number : Int) :
    Restores (dropRule service number) := by
  intro s e s' h
  simp only [dropRule, bind, EStateM.bind, get_apply] at h
  cases hindex : ruleIndex? s.rules.length number with
  | none =>
    rw [hindex] at h
    cases h
    rfl
  | some i =>
    rw [hindex] at h
    cases h

theorem leads_removeUsers {context : Context} (es : List Element) :
    Leads Service.LosesUsers (editUser (removeElements context es)) :=
  leads_focus (leads_removeElements es) fun _ user huser => ⟨user, huser, rfl⟩

/-- A failed edit of a service leaves it as it was, or has lost some of its items. -/
theorem EditsService.error {edit : Edit Service Unit} (h : job.EditsService service edit)
    (hs : edit s = .error e s') : s' = s ∨ ∃ rel, job.Drops service rel ∧ rel s s' := by
  cases h with
  | addUsers => exact .inl ((succeeds_modify _).focus.restores hs)
  | removeUsers hmethod hparams =>
    exact .inr ⟨_, .users hmethod hparams, (leads_removeUsers _).of_error hs⟩
  | removeObjects hmethod hparams =>
    exact .inr ⟨_, .objects hmethod hparams, (leads_removeUsers _).of_error hs⟩
  | insertRule => exact .inl ((succeeds_modify _).restores hs)
  | dropRule => exact .inl (restores_dropRule _ _ hs)
  | rule h =>
    rcases editRule_error hs with rfl | ⟨i, r, r', hindex, hget, hr, rfl⟩
    · exact .inl rfl
    rcases h.error hr with rfl | ⟨rel, hdrops, hrel⟩
    · obtain ⟨hlt, rfl⟩ := List.getElem?_eq_some_iff.1 hget
      exact .inl (by rw [List.set_getElem_self])
    · exact .inr ⟨_, hdrops, i, r, r', hindex, hget, hrel, rfl⟩

/-! ### Edits of the repository -/

variable {repo repo' : Repository}

theorem restores_createDefinition (path : Path) (d : Definition) (okIfExists : Bool) :
    Restores (createDefinition path d okIfExists) := by
  refine restores_get_bind fun repo => ?_
  split
  · exact (succeeds_pure ()).restores
  · exact restores_create _ _

theorem Drops.method {rel : Service → Service → Prop} (h : job.Drops service rel) :
    job.method ∈ ["remove_from_rule", "remove_from_user", "delete_service_user",
      "delete_service_protocol"] := by
  cases h with
  | parts hmethod | users hmethod | objects hmethod | protocols hmethod =>
    rw [hmethod]
    decide

theorem EditsHosts.method {p : Definition → Bool} {x : Edit Definition Unit}
    (h : job.EditsHosts p x) : job.method ∈ ["create_host", "modify_host"] := by
  cases h with
  | create hmethod | modify hmethod =>
    rw [hmethod]
    decide

/-- A failed edit leaves the repository as it was, or a service that has lost some items, or it has
ended at a network. -/
theorem Performs.error {x : Edit Repository Unit} (h : job.Performs x)
    (hx : x repo = .error e repo') :
    repo' = repo ∨
      (∃ service rel, job.Drops service rel ∧ DiffersIn .service service rel repo repo') ∨
      ∃ p x d, job.EditsHosts p x ∧ job.Hinders d e ∧ repo.StopsAt p x d e repo' := by
  cases h with
  | fail => exact .inl (restores_throw _ hx)
  | create => exact .inl (restores_createDefinition _ _ _ hx)
  | delete => exact .inl ((restores_delete _).discard hx)
  | owner =>
    exact .inl (restores_modifyNamed Variant.lawful_struct (succeeds_modify _).restores hx)
  | group =>
    exact .inl (restores_modifyNamed Variant.lawful_group (succeeds_modify _).restores hx)
  | service h =>
    rcases modifyNamed_error hx with rfl | hdiffers
    · exact .inl rfl
    obtain ⟨hpath, hfiles, hfront, hfile, hds, hleft, hname, hbody, hedit⟩ := hdiffers
    rcases h.error hedit with rfl | ⟨rel, hdrops, hrel⟩
    · exact .inl (DiffersIn.eq_of_eq
        (.intro hpath hfiles hfront hfile hds hleft hname hbody rfl) Variant.lawful_service)
    · exact .inr (.inl ⟨_, rel, hdrops,
        .intro hpath hfiles hfront hfile hds hleft hname hbody hrel⟩)
  | hosts h =>
    rcases modifyAny_error (fun _ _ _ hd => (h.error hd).1) hx with rfl | ⟨d, hstops⟩
    · exact .inl rfl
    exact .inr (.inr ⟨_, _, d, h, (h.error hstops.error).2, hstops⟩)

end Job

namespace Repository

variable {repo repo' : Repository} {job : Job} {e : PolicyError}

/-- A failed job that is neither a `multi_job` nor about hosts keeps the index and the paths, the
sources and the marks of all files in their order.  It keeps all definitions, or all but the one
service that it removes items from.  Some items of this service may be gone. -/
theorem unchanged_of_error (hmethod : job.method ∉ ["multi_job", "create_host", "modify_host"])
    (h : job.apply repo = .error e repo') :
    repo'.index = repo.index ∧
      repo'.files.map (fun f => (f.path, f.source, f.dirty)) =
        repo.files.map (fun f => (f.path, f.source, f.dirty)) ∧
      (repo' = repo ∨
        ∃ service rel, job.Drops service rel ∧ DiffersIn .service service rel repo repo') := by
  rw [List.mem_cons, not_or] at hmethod
  obtain ⟨hmulti, hhosts⟩ := hmethod
  rcases (Job.performs_apply hmulti).error h with
    rfl | ⟨service, rel, hdrops, hdiffers⟩ | ⟨p, x, d, hedits, -, -⟩
  · exact ⟨rfl, rfl, .inl rfl⟩
  · obtain ⟨hindex, hfiles⟩ := hdiffers.files_eq
    exact ⟨hindex, hfiles, .inr ⟨service, rel, hdrops, hdiffers⟩⟩
  · exact absurd hedits.method hhosts

section Samples

/-- A service with two users. -/
def usersFile : List (Path × String) :=
  [(⟨"a"⟩, "service:s = \x7b\n user = host:a, host:b;\n" ++
    " permit src = user; dst = host:x; prt = tcp 80;\n\x7d\n")]

/-- A job that removes two users, of which the second one is missing. -/
def usersJob : Job where
  method := "remove_from_user"
  params := some (.object [("service", .string "s"), ("user", .string "host:a, host:z")])

/-- The first user is gone, but the file is not to be written. -/
theorem unchanged_of_usersJob :
    ∃ repo e repo', ofSources ⟨"policy"⟩ usersFile = .ok repo ∧
      usersJob.apply repo = .error e repo' ∧
      repo'.files.map PolicyFile.render =
        ["service:s = \x7b\n user = host:b;\n" ++
          " permit src = user; dst = host:x; prt = tcp 80;\n\x7d\n"] ∧
      repo'.index = repo.index ∧
      repo'.files.map (fun f => (f.path, f.source, f.dirty)) =
        repo.files.map fun f => (f.path, f.source, f.dirty) := by
  have hfailed :
      ((ofSources ⟨"policy"⟩ usersFile).toOption.bind fun repo =>
        (failure? usersJob.apply repo).map fun failed => failed.2.files.map PolicyFile.render) =
        some ["service:s = \x7b\n user = host:b;\n" ++
          " permit src = user; dst = host:x; prt = tcp 80;\n\x7d\n"] := by
    decide +kernel
  simp only [Option.bind_eq_some_iff, Option.map_eq_some_iff, toOption_eq_some,
    failure?_eq_some] at hfailed
  obtain ⟨repo, hload, ⟨e, repo'⟩, hfail, hrender⟩ := hfailed
  obtain ⟨hindex, hfiles, -⟩ := unchanged_of_error (by decide) hfail
  exact ⟨repo, e, repo', hload, hfail, hrender, hindex, hfiles⟩

end Samples

/-- A failed job on hosts leaves the repository as it was, or it has ended at a network that stops
it.  Then the networks in front of this one are edited, in its file and in the files in front. -/
theorem stopsAt_of_error (hmethod : job.method ∈ ["create_host", "modify_host"])
    (h : job.apply repo = .error e repo') :
    repo' = repo ∨ ∃ p x d, job.EditsHosts p x ∧ job.Hinders d e ∧ repo.StopsAt p x d e repo' := by
  have hmulti : job.method ≠ "multi_job" := by
    intro hmulti
    rw [hmulti] at hmethod
    exact absurd hmethod (by decide)
  rcases (Job.performs_apply hmulti).error h with hsame | ⟨service, rel, hdrops, -⟩ | hstops
  · exact .inl hsame
  · -- No method removes items and is about hosts.
    have hother := hdrops.method
    simp only [List.mem_cons, List.not_mem_nil, or_false] at hmethod hother
    rcases hmethod with hmethod | hmethod <;> simp [hmethod] at hother
  · exact .inr hstops

section Samples

/-- Two networks with the same address, of which the second one has a host. -/
def twinNetworks : List (Path × String) :=
  [(⟨"a"⟩, "network:n1 = \x7b\n ip = 10.1.1.0/24;\n\x7d\n"),
    (⟨"b"⟩, "network:n2 = \x7b\n ip = 10.1.1.0/24;\n" ++
      " host:h = \x7b ip = 10.1.1.1; \x7d\n\x7d\n")]

/-- A job that creates the host in all networks with its address. -/
def twinHostJob : Job where
  method := "create_host"
  params := some (.object
    [("ip", .string "10.1.1.1"), ("mask", .string "255.255.255.0"), ("name", .string "h"),
      ("network", .string "[auto]")])

theorem apply_twinHostJob :
    ∃ repo e repo', ofSources ⟨"policy"⟩ twinNetworks = .ok repo ∧
      twinHostJob.apply repo = .error e repo' ∧
      e.message = "Duplicate definition of host:h in network:n2" ∧
      repo.files.map (·.dirty) = [false, false] ∧ repo'.files.map (·.dirty) = [true, false] ∧
      repo'.renderDirty = [(⟨"a"⟩, "network:n1 = \x7b\n ip = 10.1.1.0/24;\n" ++
        " host:h = \x7b ip = 10.1.1.1; \x7d\n\x7d\n")] := by
  have hfailed :
      ((ofSources ⟨"policy"⟩ twinNetworks).toOption.bind fun repo =>
        (failure? twinHostJob.apply repo).map fun failed =>
          (failed.1.message, repo.files.map (·.dirty), failed.2.files.map (·.dirty),
            failed.2.renderDirty)) =
        some ("Duplicate definition of host:h in network:n2", [false, false], [true, false],
          [(⟨"a"⟩, "network:n1 = \x7b\n ip = 10.1.1.0/24;\n" ++
            " host:h = \x7b ip = 10.1.1.1; \x7d\n\x7d\n")]) := by
    decide +kernel
  simp only [Option.bind_eq_some_iff, Option.map_eq_some_iff, toOption_eq_some,
    failure?_eq_some, Prod.mk.injEq] at hfailed
  obtain ⟨repo, hload, ⟨e, repo'⟩, hfail, hmessage, hbefore, hafter, hrender⟩ := hfailed
  exact ⟨repo, e, repo', hload, hfail, hmessage, hbefore, hafter, hrender⟩

/-- The job ends at the second network, when the first one has its host. -/
theorem stopsAt_of_twinHostJob :
    ∃ repo e repo', ofSources ⟨"policy"⟩ twinNetworks = .ok repo ∧
      twinHostJob.apply repo = .error e repo' ∧
      ∃ p x d, twinHostJob.EditsHosts p x ∧ twinHostJob.Hinders d e ∧
        repo.StopsAt p x d e repo' := by
  obtain ⟨repo, e, repo', hload, hfail, -, hbefore, hafter, -⟩ := apply_twinHostJob
  rcases stopsAt_of_error (by decide) hfail with rfl | hstops
  · rw [hbefore] at hafter
    exact absurd hafter (by decide)
  · exact ⟨repo, e, repo', hload, hfail, hstops⟩

/-- A job on hosts that fails may have changed a network and made its file dirty. -/
theorem not_unchanged_of_hosts :
    ¬ ∀ (repo repo' : Repository) (job : Job) (e : PolicyError),
      job.method ∈ ["create_host", "modify_host"] → job.apply repo = .error e repo' →
        repo'.files.map (fun f => (f.forest, f.dirty)) =
          repo.files.map fun f => (f.forest, f.dirty) := by
  intro h
  obtain ⟨repo, e, repo', -, hfail, -, hbefore, hafter, -⟩ := apply_twinHostJob
  have hmarks := congrArg (List.map Prod.snd) (h repo repo' twinHostJob e (by decide) hfail)
  rw [List.map_map, List.map_map] at hmarks
  have hsame : repo'.files.map (·.dirty) = repo.files.map (·.dirty) := hmarks
  rw [hbefore, hafter] at hsame
  exact absurd hsame (by decide)

end Samples

end Repository

end PolicyEditor
