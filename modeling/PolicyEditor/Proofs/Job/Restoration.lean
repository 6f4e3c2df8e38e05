import PolicyEditor.Proofs.Job.Additions
import PolicyEditor.Proofs.Job.Requests

/-!
# Additions that are undone

Elements are added to a list in order and then removed again.  The sort spreads them over the list,
but it does not mix up the elements that were there, as it is stable.  A removal looks for texts.
If no former element has the text of a new one, it finds the new ones only, also if some of them are
equal.  So the former list is left with its layouts, and the file of the service is the former one
but for its mark.

## Main definitions

* `Union.Lacks`, `Service.Lacks` : a list in order without the elements of a fragment.
* `Fragment` : elements for the users of a service or for the sides of a rule.
* `Job.Brings` : a job adds a fragment to a service.

## Main results

* `Union.without_add` : a removal of what was added to a list in order.
* `Fragment.exists_undone` : a service to which a fragment is added and from which it is removed.
* `Job.Brings.removes` : the parameters that add a fragment remove it.
* `Job.exists_restored_of_removes` : a job that adds a fragment, followed by one that removes it.
-/

namespace PolicyEditor

open Edit Job Repository

/-! ### Lists of elements -/

namespace Union

/-- The union is in order and has no entry with the text of one of the elements. -/
structure Lacks (u : Union) (es : List Element) : Prop where
  inOrder : u.InOrder
  absent : ∀ e ∈ es, ¬u.Holds e

instance (u : Union) (es : List Element) : Decidable (u.Lacks es) :=
  decidable_of_iff (u.InOrder ∧ ∀ e ∈ es, ¬u.Holds e) ⟨fun h => ⟨h.1, h.2⟩, fun h => ⟨h.1, h.2⟩⟩

variable {u : Union} {es : List Element}

/-- The elements as entries without layouts. -/
def newMembers (es : List Element) : List Member :=
  es.map fun e => { content := e }

theorem chars_newMembers (es : List Element) :
    (newMembers es).map Member.chars = es.map Element.chars :=
  List.map_map

theorem perm_add (u : Union) (es : List Element) :
    (u.add es).elements.Perm (u.elements ++ newMembers es) :=
  stableSort_perm Member.le _

/-- What was added to a union is there. -/
theorem suffices_add (u : Union) (es : List Element) : (u.add es).Suffices es := by
  rw [Suffices, ← chars_newMembers]
  exact suffices_of_perm Member.chars (u.perm_add es)

/-- What was added to a union in order is removed from it without a trace. -/
theorem without_add (h : u.Lacks es) : (u.add es).without es = u := by
  have hold : ∀ m ∈ u.elements, m.chars ∉ (newMembers es).map Member.chars := by
    intro m hm hmem
    rw [chars_newMembers] at hmem
    obtain ⟨e, he, hchars⟩ := List.mem_map.1 hmem
    refine h.absent e he ?_
    rw [Holds, hchars]
    exact List.mem_map_of_mem hm
  have hnew : ∀ m ∈ newMembers es, m.chars ∈ (newMembers es).map Member.chars :=
    fun m hm => List.mem_map_of_mem hm
  have hleft : withoutFirst Member.chars ((newMembers es).map Member.chars) (u.add es).elements =
      u.elements := by
    -- The sort does not mix up the former entries, so they are left as they were.
    rw [withoutFirst_of_perm Member.chars (u.perm_add es) hold, Union.add, addMembers, sortMembers,
      filter_stableSort, List.filter_append, List.filter_eq_self.2 (by simpa using hold),
      ← newMembers, List.filter_eq_nil_iff.2 (by simpa using hnew), List.append_nil]
    exact sortMembers_of_inOrder h.inOrder
  rw [without, ← chars_newMembers, hleft]
  rfl

theorem removeElements_add (context : Context) (h : u.Lacks es) :
    removeElements context es (u.add es) = ending none u := by
  obtain ⟨missing, u', hu', hremove⟩ := exists_withdraws_removeElements context es (u.add es)
  obtain rfl := hu'.eq_none_iff.2 (u.suffices_add es)
  rw [hremove, hu'.eq_without, without_add h]
  rfl

end Union

/-! ### Services -/

/-- Elements for the users of a service, or for the sides of the rule with a number as far as they
are given. -/
inductive Fragment where
  | users (elements : List Element)
  | sides (number : Int) (src dst : Option (List Element))

/-- The users of the service, or the given sides of the rule, are in order and without the elements
of the fragment. -/
def Service.Lacks (s : Service) : Fragment → Prop
  | .users es => s.user.Lacks es
  | .sides number src dst =>
    ∃ i r, ruleIndex? s.rules.length number = some i ∧ s.rules[i]? = some r ∧
      (∀ es ∈ src, r.src.Lacks es) ∧ ∀ es ∈ dst, r.dst.Lacks es

/-- The rule with elements added to its sides as far as they are given. -/
def Rule.addSides (src dst : Option (List Element)) (r : Rule) : Rule :=
  { r with
    src := src.elim r.src r.src.add
    dst := dst.elim r.dst r.dst.add }

theorem addParts_sides (context : Context) (src dst : Option (List Element)) (r : Rule) :
    addParts context none src dst r = ending none (r.addSides src dst) := by
  cases src <;> cases dst <;> rfl

theorem removeParts_addSides (context : Context) {src dst : Option (List Element)} {r : Rule}
    (hsrc : ∀ es ∈ src, r.src.Lacks es) (hdst : ∀ es ∈ dst, r.dst.Lacks es) :
    removeParts context none src dst (r.addSides src dst) = ending none r := by
  have hfirst : editIfSome src (fun es => editSrc (removeElements context es))
      (r.addSides src dst) = ending none (r.addSides none dst) := by
    cases src with
    | none => rfl
    | some es => exact editSrc_eq_ending (Union.removeElements_add context (hsrc es rfl))
  have hsecond : editIfSome dst (fun es => editDst (removeElements context es))
      (r.addSides none dst) = ending none r := by
    cases dst with
    | none => rfl
    | some es => exact editDst_eq_ending (Union.removeElements_add context (hdst es rfl))
  rw [removeParts, bind_of_ending_none hfirst, bind_of_ending_none hsecond]
  rfl

namespace Fragment

/-- The elements of the fragment. -/
def elements : Fragment → List Element
  | users es => es
  | sides _ src dst => src.getD [] ++ dst.getD []

/-- The addition to a service, which messages call `service`. -/
def addition (service : String) : Fragment → Edit Service Unit
  | users es => editUser (modify (·.add es))
  | sides number src dst => editRule service number (addParts (.rule number service) none src dst)

/-- The removal from a service. -/
def removal : Fragment → Removal
  | users es => .users es
  | sides number src dst => .parts number src dst none

/-- The method that removes the fragment. -/
def removalMethod : Fragment → String
  | users _ => "remove_from_user"
  | sides _ _ _ => "remove_from_rule"

theorem elements_removal (fragment : Fragment) : fragment.removal.elements = fragment.elements := by
  cases fragment <;> rfl

/-- A service to which a fragment is added and from which it is removed is the former one. -/
theorem exists_undone (service : String) {s : Service} {fragment : Fragment}
    (h : s.Lacks fragment) :
    ∃ s₁, fragment.addition service s = .ok () s₁ ∧
      fragment.removal.edit service s₁ = .ok () s := by
  cases fragment with
  | users es =>
    have hremove : editUser (removeElements (.service service) es)
        { s with user := s.user.add es } = ending none { s with user := s.user } :=
      editUser_eq_ending (Union.removeElements_add _ h)
    exact ⟨_, rfl, hremove⟩
  | sides number src dst =>
    obtain ⟨i, r, hindex, hrule, hsrc, hdst⟩ := h
    obtain ⟨hi, hr⟩ := List.getElem?_eq_some_iff.1 hrule
    have hindex' : ruleIndex? (s.rules.set i (r.addSides src dst)).length number = some i := by
      rw [List.length_set, hindex]
    have hremove : editRule service number (removeParts (.rule number service) none src dst)
        { s with rules := s.rules.set i (r.addSides src dst) } =
          ending none { s with rules := (s.rules.set i (r.addSides src dst)).set i r } :=
      editRule_eq_ending hindex' (List.getElem?_set_self hi) (removeParts_addSides _ hsrc hdst)
    refine ⟨_, editRule_eq_ending hindex hrule (addParts_sides _ src dst r), ?_⟩
    rw [removal, Removal.edit, hremove, List.set_set, ← hr, List.set_getElem_self]
    rfl

end Fragment

/-! ### Jobs -/

namespace Job

/-- The job adds the fragment to a service. -/
inductive Brings (job : Job) : (service : String) → Fragment → Prop
  | users {service : String} {es : List Element} (h : job.Adds (.users service) es) :
      Brings job service (.users es)
  | sides {p : Params.RuleEdit} {src dst : Option (List Element)}
      (hmethod : job.method = "add_to_rule")
      (hparams : job.decode Params.RuleEdit.ofJson = .ok p) (hprt : p.prt = none)
      (hsrc : elementsOf? p.src = .ok src) (hdst : elementsOf? p.dst = .ok dst) :
      Brings job (qualify "service" p.service) (.sides p.ruleNum src dst)

variable {job job' : Job} {service : String} {fragment : Fragment}

theorem Brings.apply_eq (h : job.Brings service fragment) :
    job.apply = modifyNamed .service service (fragment.addition service) := by
  cases h with
  | users h => exact h.apply_eq
  | sides hmethod hparams hprt hsrc hdst =>
    have hname : Method.ofName? job.method = some .addToRule := by rw [hmethod]; rfl
    rw [apply_of_decode hname (fun _ _ => rfl) hparams, addToRule, hprt, hsrc, hdst]
    rfl

/-- Parameters are decoded in the same way whatever the method is, if there is no failure to
tell. -/
theorem decode_withMethod {α : Type} {decode : Json → Decoded α} {p : α} (method : String)
    (h : job.decode decode = .ok p) : ({ job with method } : Job).decode decode = .ok p := by
  rw [Job.decode] at h ⊢
  cases hdecode : decode (job.params.getD (.object [])) with
  | ok q =>
    rw [hdecode] at h
    exact h
  | error mismatch =>
    rw [hdecode] at h
    cases h

/-- The parameters that add a fragment remove it. -/
theorem Brings.removes (h : job.Brings service fragment) :
    ({ job with method := fragment.removalMethod } : Job).Removes service fragment.removal := by
  cases h with
  | users h =>
    cases h with
    | users _ hparams helements => exact .users rfl (decode_withMethod _ hparams) helements
  | @sides p src dst _ hparams hprt hsrc hdst =>
    have hremoves := @Removes.parts { job with method := "remove_from_rule" } p src dst rfl
      (decode_withMethod _ hparams) hsrc hdst
    rwa [hprt] at hremoves

/-- A job that adds a fragment to a service, followed by one that removes it.  If the lists are in
order and have none of its elements, both jobs succeed, and the service is the former one with all
layouts.  In the repository only the mark of one file may have changed, so all texts are the former
ones.  The elements are looked for by their texts, and an element that was read has the text of a
new element only if it is this element. -/
theorem exists_restored_of_removes {repo : Repository} {s : Service}
    (hbrings : job.Brings service fragment) (hremoves : job'.Removes service fragment.removal)
    (hlookup : repo.lookupAs .service service = .ok s) (hlacks : s.Lacks fragment) :
    (∃ repo₁ repo₂ front f back, job.apply repo = .ok () repo₁ ∧ job'.apply repo₁ = .ok () repo₂ ∧
      repo₂.lookupAs .service service = .ok s ∧ repo.files = front ++ f :: back ∧
      repo₂ = { repo with files := front ++ { f with dirty := true } :: back } ∧
      repo₂.files.map (fun g => (g.path, g.render)) =
        repo.files.map fun g => (g.path, g.render)) ∧
    ∀ e ∈ fragment.elements, ∀ d : Element, d.Parsed → (d.chars = e.chars ↔ d = e) := by
  rw [← fragment.elements_removal]
  refine ⟨?_, fun e he d hd => hd.chars_inj (hremoves.parsed e he)⟩
  obtain ⟨s₁, haddition, hremoval⟩ := Fragment.exists_undone service hlacks
  obtain ⟨repo₁, repo₂, front, f, back, hfirst, hsecond, hlookup₂, hfiles, hrepo₂⟩ :=
    exists_modifyNamed_undone Variant.lawful_service (fun _ => rfl) hlookup haddition hremoval
  rw [← hbrings.apply_eq] at hfirst
  rw [← hremoves.apply_eq] at hsecond
  refine ⟨repo₁, repo₂, front, f, back, hfirst, hsecond, hlookup₂, hfiles, hrepo₂, ?_⟩
  rw [hrepo₂, hfiles, List.map_append, List.map_append]
  rfl

section Samples

/-- A service with two users in order, each with a comment. -/
def commentedUsers : List (Path × String) :=
  [(⟨"rule"⟩,
    "service:s = \x7b\n user = host:a, # first\n        host:c, # last\n        ;\n" ++
      " permit src = user; dst = host:x; prt = tcp 80;\n\x7d\n")]

/-- A job that adds a user twice, who comes to stand between the users. -/
def repeatedUserJob : Job where
  method := "add_to_user"
  params := some (.object [("service", .string "s"), ("user", .string "host:b, host:b")])

/-- The user that is added twice. -/
def repeatedUser : Element :=
  .named "host" "b"

/-- Both copies are removed again, and the text with its comments is as before. -/
theorem restored_of_repeatedUserJob :
    ∃ repo s, ofSources ⟨"policy"⟩ commentedUsers = .ok repo ∧
      repeatedUserJob.Brings "service:s" (.users [repeatedUser, repeatedUser]) ∧
      repo.lookupAs .service "service:s" = .ok s ∧
      s.Lacks (.users [repeatedUser, repeatedUser]) ∧
      ∃ repo₁ repo₂, repeatedUserJob.apply repo = .ok () repo₁ ∧
        ({ repeatedUserJob with method := "remove_from_user" } : Job).apply repo₁ = .ok () repo₂ ∧
        repo₂.lookupAs .service "service:s" = .ok s ∧
        repo₂.files.map (fun g => (g.path, g.render)) =
          repo.files.map fun g => (g.path, g.render) := by
  have hloaded : ((ofSources ⟨"policy"⟩ commentedUsers).toOption.bind fun repo =>
      (repo.lookupAs .service "service:s").toOption.map fun s =>
        decide (s.user.Lacks [repeatedUser, repeatedUser])) = some true := by
    decide +kernel
  simp only [Option.bind_eq_some_iff, Option.map_eq_some_iff, toOption_eq_some,
    decide_eq_true_eq] at hloaded
  obtain ⟨repo, hload, s, hlookup, hlacks⟩ := hloaded
  have hname : qualify "service" "s" = "service:s" := by decide +kernel
  have hbrings : repeatedUserJob.Brings "service:s" (.users [repeatedUser, repeatedUser]) :=
    hname ▸ .users (@Adds.users _ ⟨"s", .one "host:b, host:b"⟩ _ rfl rfl rfl)
  obtain ⟨⟨repo₁, repo₂, -, -, -, hfirst, hsecond, hlookup₂, -, -, htexts⟩, -⟩ :=
    exists_restored_of_removes hbrings hbrings.removes hlookup hlacks
  exact ⟨repo, s, hload, hbrings, hlookup, hlacks, repo₁, repo₂, hfirst, hsecond, hlookup₂, htexts⟩

end Samples

end Job

end PolicyEditor
