import PolicyEditor.Proofs.Editing.Attributes
import PolicyEditor.Proofs.Job.Hosts
import PolicyEditor.Proofs.Repository.Fusion

/-!
# Owners and hosts that are revised

A job may change the lists of an owner or the owner of a host.  Each of them is an attribute that
the job keeps, removes or gives other values.  A file may have several attributes of one name, and
they may be of any kind.  All of them are removed, but only the first one gets other values.  A
value list keeps its layout then, and an attribute of another kind becomes a value list in its
place.  All attributes of other names stay as they are.

Afterwards the first attribute of the name says what the job asks for, or there is none.  So a job
that is applied again has nothing to do, and the repository stays the same with all layouts.

## Main definitions

* `Relists` : attributes of which one list is kept, removed, replaced or added.
* `Agrees` : attributes of which one list is what a job asks for.
* `Job.RevisesHost` : a network in which the owner of a host is changed.
* `Job.Revises` : a repository in which an owner or a host is revised.

## Main results

* `relists_changeList`, `Relists.others` : what the change of a list does and what it leaves.
* `Agrees.changeList_eq` : a list that is what it is changed to stays.
* `Job.settles_modifyHostIn` : another owner of a host that is given again.
* `Job.again_of_apply` : a job on an owner or a host that is applied again.
-/

namespace PolicyEditor

open Job

/-! ### Lists of attributes -/

/-- The values that an attribute with the given texts gets. -/
def listedValues (texts : List String) : List Value :=
  sortValues (texts.map fun text => { content := text })

/-- The attributes with the list `name` changed.  Without a list nothing is changed, the empty list
removes all attributes of the name, and any other list replaces the values of the first one or is
added as a new attribute. -/
inductive Relists (name : String) :
    Option (List String) → List Attribute → List Attribute → Prop
  | keep {as : List Attribute} : Relists name none as as
  | remove {as : List Attribute} : Relists name (some []) as (as.filter (·.name != name))
  | replace {texts : List String} {front back : List Attribute} {a : Attribute} (hne : texts ≠ [])
      (hfront : ∀ b ∈ front, b.name ≠ name) (hname : a.name = name) :
      Relists name (some texts) (front ++ a :: back)
        (front ++ a.withValues (listedValues texts) :: back)
  | add {texts : List String} {as : List Attribute} (hne : texts ≠ [])
      (hnew : ∀ a ∈ as, a.name ≠ name) :
      Relists name (some texts) as (as ++ [{ name, value := .values (listedValues texts) }])

/-- The first attribute called `name` has the values of a list.  There is none if the list is empty,
and nothing is said if there is no list. -/
def Agrees (name : String) (list : Option (List String)) (as : List Attribute) : Prop :=
  ∀ texts ∈ list, (as.find? (·.name == name)).map (·.value) =
    if texts = [] then none else some (.values (listedValues texts))

variable {name : String} {list : Option (List String)} {as bs : List Attribute}

theorem Attribute.value_withValues (a : Attribute) (vs : List Value) :
    (a.withValues vs).value = .values vs := by
  rw [withValues]
  split <;> rfl

/-- A value list that has the values already stays as it is. -/
theorem Attribute.withValues_of_value {a : Attribute} {vs : List Value}
    (h : a.value = .values vs) : a.withValues vs = a := by
  obtain ⟨name, value, layout, frame⟩ := a
  cases h
  rfl

/-! ### Changes of one list -/

theorem setValues_of_forall_ne {vs : List Value} (h : ∀ a ∈ as, a.name ≠ name) :
    setValues name vs as = as ++ [{ name, value := .values vs }] := by
  induction as with
  | nil => rfl
  | cons a as ih =>
    rw [List.forall_mem_cons] at h
    rw [setValues, if_neg h.1, ih h.2, List.cons_append]

theorem setValues_append_cons {vs : List Value} {front back : List Attribute} {a : Attribute}
    (hfront : ∀ b ∈ front, b.name ≠ name) (hname : a.name = name) :
    setValues name vs (front ++ a :: back) = front ++ a.withValues vs :: back := by
  induction front with
  | nil => rw [List.nil_append, setValues, if_pos hname, List.nil_append]
  | cons b front ih =>
    rw [List.forall_mem_cons] at hfront
    rw [List.cons_append, setValues, if_neg hfront.1, ih hfront.2, List.cons_append]

theorem changeList_of_ne_nil {texts : List String} (h : texts ≠ []) :
    changeList name (some texts) as = setValues name (listedValues texts) as := by
  cases texts with
  | nil => exact absurd rfl h
  | cons => rfl

/-- What the change of a list does. -/
theorem relists_changeList (name : String) (list : Option (List String)) (as : List Attribute) :
    Relists name list as (changeList name list as) := by
  rcases list with - | texts
  · exact .keep
  by_cases hne : texts = []
  · subst hne
    exact .remove
  rw [changeList_of_ne_nil hne]
  rcases hfind : as.find? (·.name == name) with - | a
  · have hnew : ∀ a ∈ as, a.name ≠ name := by simpa using hfind
    rw [setValues_of_forall_ne hnew]
    exact .add hne hnew
  · obtain ⟨hname, front, back, rfl, hfront⟩ := List.find?_eq_some_iff_append.1 hfind
    replace hname := beq_iff_eq.1 hname
    replace hfront : ∀ b ∈ front, b.name ≠ name := by simpa using hfront
    rw [setValues_append_cons hfront hname]
    exact .replace hne hfront hname

/-- All attributes of other names stay in their order. -/
theorem Relists.others (h : Relists name list as bs) :
    bs.filter (·.name != name) = as.filter (·.name != name) := by
  cases h with
  | keep => rfl
  | remove => simp only [List.filter_filter, Bool.and_self]
  | @replace texts front back a _ _ hname =>
    have hname' := (a.name_withValues (listedValues texts)).trans hname
    rw [List.filter_append, List.filter_append, List.filter_cons_of_neg (by simp [hname']),
      List.filter_cons_of_neg (by simp [hname])]
  | add => simp

/-- Two changes leave all attributes of other names. -/
theorem Relists.others_both {list' : Option (List String)} {name' : String} {cs : List Attribute}
    (h : Relists name list as bs) (h' : Relists name' list' bs cs) :
    cs.filter (fun a => a.name != name && a.name != name') =
      as.filter fun a => a.name != name && a.name != name' := by
  have hsplit (ds : List Attribute) : ds.filter (fun a => a.name != name && a.name != name') =
      (ds.filter (·.name != name)).filter (·.name != name') := by
    simp only [List.filter_filter, Bool.and_comm]
  calc cs.filter (fun a => a.name != name && a.name != name')
      = (cs.filter (·.name != name')).filter (·.name != name) := List.filter_filter.symm
    _ = (bs.filter (·.name != name)).filter (·.name != name') := by
        rw [h'.others, List.filter_filter, hsplit]
    _ = as.filter (fun a => a.name != name && a.name != name') := by rw [h.others, hsplit]

/-- The first attribute of another name stays the same. -/
theorem Relists.find?_eq (h : Relists name list as bs) {other : String} (hne : other ≠ name) :
    bs.find? (·.name == other) = as.find? (·.name == other) := by
  have hothers (cs : List Attribute) :
      (cs.filter (·.name != name)).find? (·.name == other) = cs.find? (·.name == other) := by
    rw [List.find?_filter]
    congr 1
    funext a
    by_cases ha : a.name = other
    · simp [ha, hne]
    · simp [ha]
  rw [← hothers bs, h.others, hothers as]

/-- A list that was changed is what it was to be. -/
theorem Relists.agrees (h : Relists name list as bs) : Agrees name list bs := by
  cases h with
  | keep => rintro texts ⟨⟩
  | remove =>
    rintro texts ⟨⟩
    simp
  | @replace texts front back a hne hfront hname =>
    rintro texts ⟨⟩
    have hnone : front.find? (·.name == name) = none := by simpa using hfront
    have hname' := (a.name_withValues (listedValues texts)).trans hname
    rw [if_neg hne, List.find?_append, hnone, Option.none_or,
      List.find?_cons_of_pos (by simp [hname']), Option.map_some, a.value_withValues]
  | add hne hnew =>
    rintro texts ⟨⟩
    have hnone : as.find? (·.name == name) = none := by simpa using hnew
    rw [if_neg hne, List.find?_append, hnone, Option.none_or, List.find?_cons_of_pos (by simp),
      Option.map_some]

/-- A list that is what it is changed to stays. -/
theorem Agrees.changeList_eq (h : Agrees name list as) : changeList name list as = as := by
  rcases list with - | texts
  · rfl
  have hfind := h texts rfl
  by_cases hne : texts = []
  · subst hne
    rw [if_pos rfl, Option.map_eq_none_iff, List.find?_eq_none] at hfind
    rw [changeList, removeAttribute, List.filter_eq_self]
    exact fun a ha => by simpa using hfind a ha
  · rw [if_neg hne] at hfind
    obtain ⟨a, hfind, hvalue⟩ := Option.map_eq_some_iff.1 hfind
    obtain ⟨hname, front, back, rfl, hfront⟩ := List.find?_eq_some_iff_append.1 hfind
    replace hfront : ∀ b ∈ front, b.name ≠ name := by simpa using hfront
    rw [changeList_of_ne_nil hne, setValues_append_cons hfront (beq_iff_eq.1 hname),
      Attribute.withValues_of_value hvalue]

namespace Job

open Edit Repository

/-! ### Owners -/

/-- The lists of an owner are what they were changed to. -/
theorem changeOwnerLists_again (p : Params.ModifyOwner) (block : Block) :
    changeOwnerLists p (changeOwnerLists p block) = changeOwnerLists p block := by
  have hwatchers := relists_changeList "watchers" p.watchers
    (changeList "admins" p.admins block.attributes)
  have hadmins : Agrees "admins" p.admins (changeOwnerLists p block).attributes := by
    intro texts htexts
    rw [changeOwnerLists, hwatchers.find?_eq (by decide)]
    exact (relists_changeList "admins" p.admins block.attributes).agrees texts htexts
  have hagain : Agrees "watchers" p.watchers (changeOwnerLists p block).attributes :=
    hwatchers.agrees
  unfold changeOwnerLists at hadmins hagain ⊢
  dsimp only
  rw [hadmins.changeList_eq, hagain.changeList_eq]

/-! ### Hosts -/

variable {host : String} {owner : Option String} {network : Option String}

theorem changeOwner_eq_changeList (owner : Option String) (as : List Attribute) :
    changeOwner owner as = changeList "owner" (some owner.toList) as := by
  cases owner <;> rfl

/-- The network in which the owner of a host is changed.  It is an attribute of the first entry of
the host. -/
inductive RevisesHost (host : String) (owner : Option String) (d : Definition) : Definition → Prop
  | intro {block : Block} {front back : List Attribute} {a : Attribute} {as bs : List Attribute}
      (hbody : d.body = .network block) (hattributes : block.attributes = front ++ a :: back)
      (hfront : entryOf? host front = none) (hhost : a.isHost = true) (hname : a.name = host)
      (hvalue : a.value = .block as) (howner : Relists "owner" (some owner.toList) as bs)
      (hothers : bs.filter (·.name != "owner") = as.filter (·.name != "owner")) :
      RevisesHost host owner d
        { d with
          body := .network
            { block with attributes := front ++ { a with value := .block bs } :: back } }

theorem changeHost_append_cons {front back : List Attribute} {a : Attribute}
    (hfront : entryOf? host front = none) (hentry : (a.isHost && a.name == host) = true)
    (hvalue : a.value = .block as) :
    changeHost host owner (front ++ a :: back) =
      .ok (front ++ { a with value := .block (changeOwner owner as) } :: back) := by
  induction front with
  | nil => rw [List.nil_append, changeHost, if_pos hentry, hvalue, List.nil_append]
  | cons b front ih =>
    obtain ⟨hb, hfront⟩ := List.forall_mem_cons.1 (List.find?_eq_none.1 hfront)
    rw [List.cons_append, changeHost, if_neg hb, ih (List.find?_eq_none.2 hfront)]
    rfl

/-- A change of a host that is there finds its first entry, which holds a block. -/
theorem exists_of_changeHost (h : changeHost host owner as = .ok bs)
    (hhost : hasHost host as = true) :
    ∃ front a back attributes, as = front ++ a :: back ∧ entryOf? host front = none ∧
      (a.isHost && a.name == host) = true ∧ a.value = .block attributes ∧
      bs = front ++ { a with value := .block (changeOwner owner attributes) } :: back := by
  induction as generalizing bs with
  | nil => cases hhost
  | cons a as ih =>
    rw [changeHost] at h
    split at h
    · next hentry =>
      split at h
      · next attributes hvalue =>
        cases h
        exact ⟨[], a, as, attributes, rfl, rfl, hentry, hvalue, rfl⟩
      · cases h
    · next hentry =>
      obtain ⟨rest, hrest, h⟩ := Except.bind_eq_ok.1 h
      cases h
      rw [hasHost, List.any_cons, Bool.eq_false_iff.2 hentry, Bool.false_or] at hhost
      obtain ⟨front, b, back, attributes, rfl, hfront, hb, hvalue, rfl⟩ := ih hrest hhost
      refine ⟨a :: front, b, back, attributes, rfl, ?_, hb, hvalue, rfl⟩
      exact List.find?_eq_none.2 (List.forall_mem_cons.2 ⟨hentry, List.find?_eq_none.1 hfront⟩)

variable {d d' : Definition}

theorem modifyHostIn_of_changeHost {block : Block} (hbody : d.body = .network block)
    (h : changeHost host owner block.attributes = .ok as) :
    modifyHostIn host owner d =
      .ok () { d with body := .network { block with attributes := as } } := by
  simp only [modifyHostIn, bind, EStateM.bind, get_apply, hbody, h]
  rfl

/-- Another owner of a host revises each network that holds the host. -/
theorem revisesHost_of_modifyHostIn (hd : holdsHost host network d = true)
    (h : modifyHostIn host owner d = .ok () d') : RevisesHost host owner d d' := by
  obtain ⟨block, hbody, -, hhost⟩ := holdsHost_eq_true.1 hd
  cases hchange : changeHost host owner block.attributes with
  | error e =>
    simp only [modifyHostIn, bind, EStateM.bind, get_apply, hbody, hchange] at h
    cases h
  | ok as =>
    rw [modifyHostIn_of_changeHost hbody hchange] at h
    cases h
    obtain ⟨front, a, back, attributes, hattributes, hfront, hentry, hvalue, rfl⟩ :=
      exists_of_changeHost hchange hhost
    obtain ⟨hisHost, hname⟩ := Bool.and_eq_true_iff.1 hentry
    rw [changeOwner_eq_changeList]
    have howner := relists_changeList "owner" (some owner.toList) attributes
    exact .intro hbody hattributes hfront hisHost (beq_iff_eq.1 hname) hvalue howner howner.others

/-- A network in which the owner of a host is changed still holds the host, and the owner is what it
was changed to. -/
theorem RevisesHost.again (h : RevisesHost host owner d d') (hd : holdsHost host network d = true) :
    holdsHost host network d' = true ∧ modifyHostIn host owner d' = .ok () d' := by
  obtain ⟨-, -, hnetwork, -⟩ := holdsHost_eq_true.1 hd
  obtain @⟨block, front, back, a, as, bs, hbody, -, hfront, hhost, hname, -, howner, -⟩ := h
  have hentry : (a.isHost && a.name == host) = true := by rw [hhost, hname, beq_self_eq_true]; rfl
  constructor
  · refine holdsHost_eq_true.2 ⟨_, rfl, hnetwork, List.any_eq_true.2 ?_⟩
    exact ⟨{ a with value := .block bs }, by simp, hentry⟩
  · have hchange := @changeHost_append_cons bs host owner front back { a with value := .block bs }
      hfront hentry rfl
    rw [changeOwner_eq_changeList, howner.agrees.changeList_eq] at hchange
    have hmodify := modifyHostIn_of_changeHost (d := { d with body := .network { block with
      attributes := front ++ { a with value := .block bs } :: back } }) rfl hchange
    exact hmodify

theorem settles_modifyHostIn (host : String) (owner network : Option String) :
    Settles (holdsHost host network) (modifyHostIn host owner) :=
  fun _ _ hd h => (revisesHost_of_modifyHostIn hd h).again hd

/-! ### Jobs -/

/-- The repository in which an owner or a host is revised.  The attributes of other names stay in
their order, with their contents and their layouts. -/
inductive Revises (job : Job) (repo : Repository) : Repository → Prop
  | owner {p : Params.ModifyOwner} {front back : List PolicyFile} {f : PolicyFile}
      {left right : List Definition} {d : Definition} {block : Block} {as bs : List Attribute}
      (hmethod : job.method = "modify_owner")
      (hparams : job.decode Params.ModifyOwner.ofJson = .ok p)
      (hfiles : repo.files = front ++ f :: back)
      (hdefinitions : f.forest.definitions = left ++ d :: right)
      (hlookup : repo.lookup (qualify "owner" p.name) = .ok d) (hbody : d.body = .struct block)
      (hadmins : Relists "admins" p.admins block.attributes as)
      (hwatchers : Relists "watchers" p.watchers as bs)
      (hothers : bs.filter (fun a => a.name != "admins" && a.name != "watchers") =
        block.attributes.filter fun a => a.name != "admins" && a.name != "watchers") :
      Revises job repo
        { repo with
          files := front ++
            f.withDefinitions
              (left ++ { d with body := .struct { block with attributes := bs } } :: right) ::
            back }
  | host {p : Params.ModifyHost} {files : List PolicyFile} (hmethod : job.method = "modify_host")
      (hparams : job.decode Params.ModifyHost.ofJson = .ok p)
      (hchosen : ∃ d ∈ repo.definitions,
        holdsHost ("host:" ++ (splitIdHost p.name).1) (splitIdHost p.name).2 d = true)
      (hfiles : List.Forall₂
        (PolicyFile.Revises
          (holdsHost ("host:" ++ (splitIdHost p.name).1) (splitIdHost p.name).2 · = true)
          (RevisesHost ("host:" ++ (splitIdHost p.name).1) (p.owner.filter (!·.isEmpty))))
        repo.files files) :
      Revises job repo { repo with files }

variable {job : Job} {repo repo' : Repository}

theorem again_of_modifyOwner (hmethod : job.method = "modify_owner")
    (h : job.apply repo = .ok () repo') :
    job.apply repo' = .ok () repo' ∧ job.Revises repo repo' := by
  have hname : Method.ofName? job.method = some .modifyOwner := by rw [hmethod]; rfl
  obtain ⟨p, hparams, -⟩ := ofExcept_bind_eq_ok.1 (apply_of_ofName? hname ▸ h)
  rw [apply_of_decode hname (fun _ _ => rfl) hparams, modifyOwner] at h ⊢
  constructor
  · have hself : changeOwnerLists p ∘ changeOwnerLists p = changeOwnerLists p :=
      funext (changeOwnerLists_again p)
    have hfuses := fuses_modify (changeOwnerLists p) (changeOwnerLists p)
    rw [hself] at hfuses
    exact modifyNamed_again Variant.lawful_struct (fun _ => rfl) (succeeds_modify _) hfuses h
  · obtain ⟨block, block', hlookup, hedit, -⟩ :=
      (reaches_modifyNamed Variant.lawful_struct (fun _ => rfl) _).exists_of_ok
        (succeeds_modify (changeOwnerLists p)) h
    obtain ⟨front, f, back, left, d, right, hfiles, hdefinitions, hd, hbody, hmodify⟩ :=
      modifyNamed_of_lookupAs hlookup hedit
    rw [hmodify] at h
    cases h
    cases hedit
    have hadmins := relists_changeList "admins" p.admins block.attributes
    have hwatchers := relists_changeList "watchers" p.watchers
      (changeList "admins" p.admins block.attributes)
    exact .owner hmethod hparams hfiles hdefinitions hd (Variant.lawful_struct hbody).symm hadmins
      hwatchers (hadmins.others_both hwatchers)

theorem modifyHost_eq_modifyAny (p : Params.ModifyHost) :
    modifyHost p =
      modifyAny (holdsHost ("host:" ++ (splitIdHost p.name).1) (splitIdHost p.name).2)
        (modifyHostIn ("host:" ++ (splitIdHost p.name).1) (p.owner.filter (!·.isEmpty)))
        (.notFound (.definition ("host:" ++ (splitIdHost p.name).1))) :=
  rfl

theorem again_of_modifyHost (hmethod : job.method = "modify_host")
    (h : job.apply repo = .ok () repo') :
    job.apply repo' = .ok () repo' ∧ job.Revises repo repo' := by
  have hname : Method.ofName? job.method = some .modifyHost := by rw [hmethod]; rfl
  obtain ⟨p, hparams, -⟩ := ofExcept_bind_eq_ok.1 (apply_of_ofName? hname ▸ h)
  rw [apply_of_decode hname (fun _ _ => rfl) hparams, modifyHost_eq_modifyAny] at h ⊢
  obtain ⟨touched, htouched, hedit⟩ := modifyAny_eq_ok.1 h
  constructor
  · exact modifyAny_eq_ok.2
      ⟨touched, htouched, modifyMatching_again (settles_modifyHostIn _ _ _) hedit⟩
  · obtain ⟨hchosen, files, hfiles, rfl⟩ := revises_modifyMatching hedit (fun _ => Iff.rfl)
      fun _ _ hd h => revisesHost_of_modifyHostIn hd h
    exact .host hmethod hparams (hchosen htouched) hfiles

/-- A job on an owner or a host that succeeds revises it, and does nothing more if it is applied
again. -/
theorem again_of_apply (hmethod : job.method ∈ ["modify_owner", "modify_host"])
    (h : job.apply repo = .ok () repo') :
    job.apply repo' = .ok () repo' ∧ job.Revises repo repo' := by
  simp only [List.mem_cons, List.not_mem_nil, or_false] at hmethod
  rcases hmethod with howner | hhost
  · exact again_of_modifyOwner howner h
  · exact again_of_modifyHost hhost h

section Samples

/-- An owner with two attributes `admins`, of which the first one is a flag. -/
def repeatedAdmins : List (Path × String) :=
  [(⟨"owner"⟩, "owner:o = \x7b\n admins; # all\n alias = O; # name\n" ++
    " admins = a@b.c;\n watchers = w@b.c;\n\x7d\n")]

/-- A job that replaces the administrators of an owner and removes its watchers. -/
def adminsJob : Job where
  method := "modify_owner"
  params := some (.object
    [("admins", .array [.string "y@b.c", .string "x@b.c"]), ("name", .string "o"),
      ("watchers", .array [])])

/-- The first attribute `admins` gets values, and the second one stays. -/
theorem again_of_adminsJob :
    ∃ repo repo', ofSources ⟨"policy"⟩ repeatedAdmins = .ok repo ∧
      adminsJob.apply repo = .ok () repo' ∧
      repo'.files.map PolicyFile.render =
        ["owner:o = \x7b\n admins = x@b.c, y@b.c; # all\n" ++
          " alias = O; # name\n admins = a@b.c;\n\x7d\n"] ∧
      adminsJob.apply repo' = .ok () repo' ∧ adminsJob.Revises repo repo' := by
  have happly :
      ((ofSources ⟨"policy"⟩ repeatedAdmins).toOption.bind fun repo =>
        (adminsJob.apply.outcome? repo).map fun out => out.2.files.map PolicyFile.render) =
        some ["owner:o = \x7b\n admins = x@b.c, y@b.c; # all\n" ++
          " alias = O; # name\n admins = a@b.c;\n\x7d\n"] := by
    decide +kernel
  simp only [Option.bind_eq_some_iff, Option.map_eq_some_iff, toOption_eq_some,
    outcome?_eq_some] at happly
  obtain ⟨repo, hload, ⟨_, repo'⟩, happly, hrender⟩ := happly
  exact ⟨repo, repo', hload, happly, hrender, again_of_apply (by decide) happly⟩

end Samples

end Job

end PolicyEditor
