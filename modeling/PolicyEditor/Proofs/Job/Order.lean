import PolicyEditor.Proofs.Job.Removals
import PolicyEditor.Proofs.Job.Targets
import PolicyEditor.Proofs.Repository.Order

/-!
# Jobs keep the canonical order

Each job puts the lists in order that it adds something to.  What it removes leaves the rest in
order, also if it ends early, and protocols, owners and other attributes have no order to keep.  So
a repository in order stays in order whatever jobs are applied to it, and whether they succeed or
not.

## Main results

* `Job.EditsRule.carries`, `Job.EditsService.carries`, `Job.EditsHosts.carries` : what jobs do to
  rules, services and networks keeps them in order.
* `Repository.inOrder_of_jobs` : a repository in order stays in order.
-/

namespace PolicyEditor

/-! ### Parts of definitions -/

theorem MembersInOrder.sublist {es es' : List Member} (h : MembersInOrder es)
    (hsublist : es'.Sublist es) : MembersInOrder es' :=
  List.Pairwise.sublist hsublist h

theorem Union.Loses.inOrder {u u' : Union} (h : u.Loses u') : Edit.Carries InOrder u u' := by
  obtain ⟨es, hes, rfl⟩ := h
  exact fun hu => hu.sublist hes

theorem Union.inOrder_add (es : List Element) (u : Union) : (u.add es).InOrder :=
  membersInOrder_sortMembers _

/-- The rule `r'` has the action of `r`, and it is in order if `r` is. -/
structure Rule.StaysInOrder (r r' : Rule) : Prop where
  action : r'.action = r.action
  inOrder : Edit.Carries InOrder r r'

instance : Std.Refl Rule.StaysInOrder where
  refl _ := ⟨rfl, id⟩

instance : IsTrans Rule Rule.StaysInOrder where
  trans _ _ _ h h' := ⟨h'.action.trans h.action, h'.inOrder ∘ h.inOrder⟩

theorem Rule.Loses.staysInOrder {r r' : Rule} (h : r.Loses r') : r.StaysInOrder r' := by
  obtain ⟨src, dst, prt, hsrc, hdst, -, rfl⟩ := h
  exact ⟨rfl, fun hr => ⟨hsrc.inOrder hr.src, hdst.inOrder hr.dst⟩⟩

theorem isDeny_of_forall₂ {rs rs' : List Rule} (h : List.Forall₂ Rule.StaysInOrder rs rs') :
    rs'.map Rule.isDeny = rs.map Rule.isDeny := by
  induction h with
  | nil => rfl
  | cons hr _ ih => rw [List.map_cons, List.map_cons, Rule.isDeny, Rule.isDeny, hr.action, ih]

/-- Rules that are changed in their places leave the service in order. -/
theorem Service.inOrder_of_forall₂ {s : Service} {rs : List Rule}
    (h : List.Forall₂ Rule.StaysInOrder s.rules rs) (hs : s.InOrder) :
    Service.InOrder { s with rules := rs } := by
  refine ⟨hs.user, ?_, ?_⟩
  · exact Repository.forall_of_forall₂ (h.imp fun _ _ hr => hr.inOrder) hs.rules
  · have hdeny : (rs.map Rule.isDeny).Pairwise fun a b => b = true → a = true := by
      rw [isDeny_of_forall₂ h]
      exact List.pairwise_map.2 hs.denyFirst
    exact List.pairwise_map.1 hdeny

namespace Job

open Edit Repository

/-! ### Rules -/

theorem leads_editRule {service : String} {number : Int} {edit : Edit Rule Unit}
    (h : Leads Rule.StaysInOrder edit) :
    Leads (Carries Service.InOrder) (editRule service number edit) := by
  refine leads_get_bind fun s => ?_
  dsimp only
  split
  · exact leads_throw _
  · exact leads_focus (leads_atIndex h _) fun s rs hrs => Service.inOrder_of_forall₂ hrs

theorem leads_addProtocols (context : Context) (texts : List String) :
    Leads Rule.StaysInOrder (addProtocols context texts) :=
  leads_editProtocols (q := fun _ _ => True) (fun _ => trivial) fun _ _ _ _ _ =>
    ⟨rfl, fun hr => ⟨hr.src, hr.dst⟩⟩

theorem leads_addParts (context : Context) (prt : Option Phrase)
    (src dst : Option (List Element)) :
    Leads Rule.StaysInOrder (addParts context prt src dst) := by
  refine (leads_editIfSome fun _ => leads_addProtocols context _).bind fun _ =>
    (leads_editIfSome fun es => ?_).bind fun _ => leads_editIfSome fun es => ?_
  · exact fun r => ⟨rfl, fun hr => ⟨Union.inOrder_add es r.src, hr.dst⟩⟩
  · exact fun r => ⟨rfl, fun hr => ⟨hr.src, Union.inOrder_add es r.dst⟩⟩

theorem inOrder_addServers {es : List Element} {u : Union} (h : u.InOrder) :
    (addServers es u).InOrder := by
  rw [addServers]
  split
  · exact h
  · exact Union.inOrder_add es u

/-- What a job does to a rule keeps its action and the order of its sides. -/
theorem EditsRule.carries {job : Job} {service : String} {number : Int} {edit : Edit Rule Unit}
    (h : job.EditsRule service number edit) : Leads Rule.StaysInOrder edit := by
  cases h with
  | addParts => exact leads_addParts _ _ _ _
  | removeParts => exact (leads_removeParts _ _ _).imp fun _ _ => Rule.Loses.staysInOrder
  | addProtocols => exact leads_addProtocols _ _
  | removeProtocols =>
    exact (leads_removeRuleProtocols _).imp fun _ _ h => h.loses.staysInOrder
  | addServers =>
    exact fun r => ⟨rfl, fun hr => ⟨inOrder_addServers hr.src, inOrder_addServers hr.dst⟩⟩
  | removeServers => exact (leads_removeServers _ _).imp fun _ _ => Rule.Loses.staysInOrder

/-! ### Services -/

theorem leads_editUser {edit : Edit Union Unit} (h : Leads (Carries Union.InOrder) edit) :
    Leads (Carries Service.InOrder) (editUser edit) :=
  leads_focus h fun _ _ huser hs => ⟨huser hs.user, hs.rules, hs.denyFirst⟩

theorem leads_insertRuleInto {r : Rule} (hr : r.InOrder) :
    Leads (Carries Service.InOrder) (insertRuleInto r) := by
  refine fun s hs => ⟨hs.user, fun q hq => ?_, denyFirst_insertRule r hs.denyFirst⟩
  rcases List.eq_or_mem_of_mem_insertIdx hq with rfl | hq
  · exact hr
  · exact hs.rules q hq

theorem leads_dropRule (service : String) (number : Int) :
    Leads (Carries Service.InOrder) (dropRule service number) := by
  intro s hs
  simp only [final, dropRule, bind, EStateM.bind, get_apply]
  cases ruleIndex? s.rules.length number with
  | none => exact hs
  | some i =>
    have hrules : (s.rules.eraseIdx i).Sublist s.rules := List.eraseIdx_sublist s.rules i
    exact ⟨hs.user, fun r hr => hs.rules r (hrules.subset hr), hs.denyFirst.sublist hrules⟩

/-- What a job does to a service keeps it in order. -/
theorem EditsService.carries {job : Job} {service : String} {edit : Edit Service Unit}
    (h : job.EditsService service edit) : Leads (Carries Service.InOrder) edit := by
  cases h with
  | addUsers => exact leads_editUser fun u _ => Union.inOrder_add _ u
  | removeUsers | removeObjects =>
    exact leads_editUser ((leads_removeElements _).imp fun _ _ => Union.Loses.inOrder)
  | insertRule => exact leads_insertRuleInto (Rule.inOrder_normalize _)
  | dropRule => exact leads_dropRule _ _
  | rule h => exact leads_editRule h.carries

/-! ### Networks -/

theorem carries_addHost (host ip : String) (owner : Option String) :
    Leads (Carries Definition.InOrder) (addHost host ip owner) := by
  intro d hd
  rcases addHost_cases host ip owner d with ⟨block, -, -, h⟩ | ⟨block, -, -, h⟩ | ⟨-, h⟩ <;>
    rw [final, h]
  · exact hd
  · exact hostsInOrder_sortHosts _
  · exact hd

/-- The entry of a host keeps its name. -/
theorem names_changeHost {host : String} {owner : Option String} {as as' : List Attribute}
    (h : changeHost host owner as = .ok as') :
    as'.map (·.name) = as.map (·.name) := by
  induction as generalizing as' with
  | nil =>
    cases h
    rfl
  | cons a as ih =>
    rw [changeHost] at h
    split at h
    · split at h
      · cases h
        rfl
      · cases h
    · obtain ⟨rest, hrest, h⟩ := Except.bind_eq_ok.1 h
      cases h
      rw [List.map_cons, List.map_cons, ih hrest]

/-- The order of hosts is one of their names. -/
theorem hostsInOrder_iff_names {as : List Attribute} :
    HostsInOrder as ↔ ((as.map (·.name)).filter (startsWith "host:")).Pairwise fun m n =>
      Element.keyLe (Element.nameKey m) (Element.nameKey n) = true := by
  rw [List.filter_map, List.pairwise_map]
  rfl

theorem carries_modifyHostIn (host : String) (owner : Option String) :
    Leads (Carries Definition.InOrder) (modifyHostIn host owner) := by
  intro d hd
  rcases modifyHostIn_cases host owner d with
    ⟨block, a, -, -, -, h⟩ | ⟨block, as, hbody, hchange, h⟩ | ⟨-, h⟩ <;> rw [final, h]
  · exact hd
  · rw [Definition.InOrder, hbody] at hd
    have hhosts : HostsInOrder as := by
      rw [hostsInOrder_iff_names, names_changeHost hchange, ← hostsInOrder_iff_names]
      exact hd
    exact hhosts
  · exact hd

theorem EditsHosts.carries {job : Job} {p : Definition → Bool} {edit : Edit Definition Unit}
    (h : job.EditsHosts p edit) : Leads (Carries Definition.InOrder) edit := by
  cases h with
  | create => exact carries_addHost _ _ _
  | modify => exact carries_modifyHostIn _ _

/-! ### Jobs -/

/-- What a method performs keeps a repository in order. -/
theorem Performs.carries {job : Job} {x : Edit Repository Unit} (h : job.Performs x) :
    Leads (Carries InOrder) x := by
  cases h with
  | fail => exact leads_throw _
  | create => exact carries_createDefinition _ _ _
  | delete => exact (carries_delete _).discard
  | owner => exact carries_modifyNamed Variant.lawful_struct fun _ _ => trivial
  | group => exact carries_modifyNamed Variant.lawful_group fun g _ => membersInOrder_sortMembers _
  | service h => exact carries_modifyNamed Variant.lawful_service h.carries
  | hosts h => exact leads_modifyAny (carries_modifyMatching h.carries)

theorem carries_apply (job : Job) : Leads (Carries InOrder) job.apply :=
  apply_induction (leads_pure _) (fun hx hy => hx.bind fun _ => hy) fun _ => Performs.carries

end Job

namespace Repository

/-- A repository in order is in order behind any jobs, those that fail included. -/
theorem inOrder_of_jobs {repo : Repository} (h : repo.InOrder) (jobs : List Job) :
    (jobs.foldl (fun repo job => job.apply.final repo) repo).InOrder := by
  induction jobs generalizing repo with
  | nil => exact h
  | cons job jobs ih => exact ih (job.carries_apply repo h)

section Samples

/-- A group and a service in order. -/
def orderedPolicy : List (Path × String) :=
  [(⟨"a"⟩, "group:g =\n host:a,\n host:c,\n;\n"),
    (⟨"b"⟩, "service:s = \x7b\n user = host:a, host:b;\n" ++
      " permit src = user; dst = host:x; prt = tcp 80;\n\x7d\n")]

/-- Jobs that add an element, remove two users of which one is missing, and add a `deny` rule. -/
def orderedJobs : List Job :=
  [{ method := "add_to_group"
     params := some (.object [("name", .string "g"), ("object", .string "host:b")]) },
    { method := "remove_from_user"
      params := some (.object [("service", .string "s"), ("user", .string "host:a, host:z")]) },
    { method := "add_rule"
      params := some (.object
        [("action", .string "deny"), ("dst", .string "host:y"), ("prt", .string "tcp 22"),
          ("service", .string "s"), ("src", .string "user")]) }]

/-- The second job fails when one user is gone already. -/
theorem inOrder_of_orderedJobs :
    ∃ repo, ofSources ⟨"policy"⟩ orderedPolicy = .ok repo ∧
      orderedJobs.map (fun job => (job.apply.outcome? repo).isSome) = [true, false, true] ∧
      (orderedJobs.foldl (fun repo job => job.apply.final repo) repo).InOrder := by
  have hloaded :
      ((ofSources ⟨"policy"⟩ orderedPolicy).toOption.map fun repo =>
        (decide repo.InOrder, orderedJobs.map fun job => (job.apply.outcome? repo).isSome)) =
        some (true, [true, false, true]) := by
    decide +kernel
  simp only [Option.map_eq_some_iff, Edit.toOption_eq_some, Prod.mk.injEq] at hloaded
  obtain ⟨repo, hload, hinOrder, hsucceed⟩ := hloaded
  exact ⟨repo, hload, hsucceed, inOrder_of_jobs (of_decide_eq_true hinOrder) orderedJobs⟩

end Samples

end Repository

end PolicyEditor
