import PolicyEditor.Job.Rules
import PolicyEditor.Proofs.Repository.Order

/-!
# Rules that are inserted one by one

A new `deny` rule goes behind the last `deny` rule and a new `permit` rule to the end.  So a new
rule is always the last one of its action, as it is in a list to which it is appended.  Hence rules
that are inserted one by one are the appended ones up to the order of actions.  If the `deny` rules
are in front from the start, they stay there, and the insertions put the appended rules in order.

## Main definitions

* `insertRules` : a list of rules with further ones at their places.

## Main results

* `exists_append_insertRule` : where a list is cut to insert a rule.
* `normalizeRules_of_denyFirst` : a list with its `deny` rules in front is in order.
* `normalizeRules_insertRules` : insertions are appending, up to the order of actions.
* `refines_insertRules` : insertions put a list in order whose `deny` rules are in front.
* `Job.exists_normalizeRules_of_buildRules` : a new service has the given rules in order.
-/

namespace PolicyEditor

/-- The rules with further ones at their places, inserted one by one. -/
def insertRules (rules rs : List Rule) : List Rule :=
  rs.foldl insertRule rules

theorem insertRules_cons (rules : List Rule) (r : Rule) (rs : List Rule) :
    insertRules rules (r :: rs) = insertRules (insertRule rules r) rs :=
  rfl

theorem insertRules_concat (rules rs : List Rule) (r : Rule) :
    insertRules rules (rs ++ [r]) = insertRule (insertRules rules rs) r := by
  rw [insertRules, List.foldl_append]
  rfl

/-! ### The place of a rule -/

/-- A list of rules ends with `permit` rules behind its last `deny` rule. -/
theorem exists_append_denyEnd (rules : List Rule) :
    ∃ front back, rules = front ++ back ∧ front.length = denyEnd rules ∧
      (∀ s ∈ front.getLast?, s.isDeny = true) ∧ ∀ s ∈ back, s.isDeny = false := by
  induction rules with
  | nil => exact ⟨[], [], rfl, rfl, by simp, by simp⟩
  | cons r rules ih =>
    rw [denyEnd]
    split
    · next hdeny =>
      obtain ⟨front, back, rfl, hlength, hlast, hback⟩ := ih
      refine ⟨r :: front, back, rfl, by rw [List.length_cons, hlength], ?_, hback⟩
      rcases front with - | ⟨q, front⟩
      · simpa using (Bool.or_eq_true_iff.1 hdeny).resolve_right (by simpa using hback)
      · rwa [List.getLast?_cons_cons]
    · next hpermit =>
      refine ⟨[], r :: rules, rfl, rfl, by simp, ?_⟩
      simpa [Bool.or_eq_true] using hpermit

/-- Where a list is cut to insert a rule: a `deny` rule goes directly behind the last `deny` rule,
and behind a `permit` rule there is none. -/
theorem exists_append_insertRule (rules : List Rule) (r : Rule) :
    ∃ front back, rules = front ++ back ∧ insertRule rules r = front ++ r :: back ∧
      front.length = ruleIndex rules r ∧
      (∀ s ∈ front.getLast?, r.isDeny = true → s.isDeny = true) ∧
      ∀ s ∈ back, r.isDeny = true ∧ s.isDeny = false := by
  rw [insertRule, ruleIndex]
  split
  · next hdeny =>
    obtain ⟨front, back, hrules, hlength, hlast, hback⟩ := exists_append_denyEnd rules
    refine ⟨front, back, hrules, ?_, hlength, fun s hs _ => hlast s hs,
      fun s hs => ⟨hdeny, hback s hs⟩⟩
    rw [← hlength, hrules]
    exact List.modifyTailIdx_add (List.cons r) 0 front back
  · next hpermit =>
    exact ⟨rules, [], (List.append_nil rules).symm, List.insertIdx_length_self, rfl,
      fun _ _ hdeny => absurd hdeny hpermit, by simp⟩

theorem ruleIndex_le (rules : List Rule) (r : Rule) : ruleIndex rules r ≤ rules.length := by
  obtain ⟨front, back, rfl, -, hlength, -, -⟩ := exists_append_insertRule rules r
  rw [← hlength, List.length_append]
  exact Nat.le_add_right _ _

/-- A new rule is the last one of its action. -/
theorem filter_insertRule (rules : List Rule) (r : Rule) (deny : Bool) :
    (insertRule rules r).filter (·.isDeny == deny) =
      (rules ++ [r]).filter (·.isDeny == deny) := by
  obtain ⟨front, back, rfl, hinsert, -, -, hback⟩ := exists_append_insertRule rules r
  rw [hinsert, List.filter_append, List.filter_append, List.filter_append, List.filter_cons,
    List.filter_cons, List.append_assoc, List.filter_nil]
  split
  · next hr =>
    -- A rule behind the new one has the other action.
    have hnone : back.filter (·.isDeny == deny) = [] := by
      refine List.filter_eq_nil_iff.2 fun s hs => ?_
      obtain ⟨hdeny, hpermit⟩ := hback s hs
      rw [← beq_iff_eq.1 hr, hdeny, hpermit]
      decide
    rw [hnone, List.nil_append]
  · rw [List.append_nil]

theorem filter_insertRules (rules rs : List Rule) (deny : Bool) :
    (insertRules rules rs).filter (·.isDeny == deny) =
      (rules ++ rs).filter (·.isDeny == deny) := by
  induction rs generalizing rules with
  | nil => rw [List.append_nil]; rfl
  | cons r rs ih =>
    rw [insertRules_cons, ih, List.filter_append, filter_insertRule, ← List.filter_append,
      List.append_assoc, List.singleton_append]

/-! ### Rules in order -/

theorem normalizeRules_eq_filter (rules : List Rule) :
    normalizeRules rules = rules.filter (·.isDeny == true) ++ rules.filter (·.isDeny == false) := by
  simp [normalizeRules]

/-- A list with its `deny` rules in front is in order. -/
theorem normalizeRules_of_denyFirst {rules : List Rule} (h : DenyFirst rules) :
    normalizeRules rules = rules := by
  induction rules with
  | nil => rfl
  | cons r rules ih =>
    obtain ⟨hr, hrules⟩ := List.pairwise_cons.1 h
    have ih := ih hrules
    rw [normalizeRules] at ih ⊢
    by_cases hdeny : r.isDeny = true
    · rw [List.filter_cons_of_pos hdeny, List.filter_cons_of_neg (by simp [hdeny]),
        List.cons_append, ih]
    · have hpermits : rules.filter Rule.isDeny = [] :=
        List.filter_eq_nil_iff.2 fun s hs hs' => hdeny (hr s hs hs')
      rw [hpermits, List.nil_append] at ih
      rw [List.filter_cons_of_neg hdeny, hpermits, List.filter_cons_of_pos (by simp [hdeny]), ih,
        List.nil_append]

theorem denyFirst_insertRules {rules : List Rule} (h : DenyFirst rules) (rs : List Rule) :
    DenyFirst (insertRules rules rs) := by
  induction rs generalizing rules with
  | nil => exact h
  | cons r rs ih => exact ih (denyFirst_insertRule r h)

/-- Insertions are appending, up to the order of actions. -/
theorem normalizeRules_insertRules (rules rs : List Rule) :
    normalizeRules (insertRules rules rs) = normalizeRules (rules ++ rs) := by
  rw [normalizeRules_eq_filter, filter_insertRules, filter_insertRules, ← normalizeRules_eq_filter]

/-- If the `deny` rules are in front, insertions put the appended rules in order. -/
theorem insertRules_of_denyFirst {rules : List Rule} (h : DenyFirst rules) (rs : List Rule) :
    insertRules rules rs = normalizeRules (rules ++ rs) := by
  rw [← normalizeRules_insertRules, normalizeRules_of_denyFirst (denyFirst_insertRules h rs)]

/-- Rules that are inserted one by one are the appended rules up to the order of actions.  If the
`deny` rules are in front, the insertions put the appended rules in order at once.  Each rule is
found at the index of its insertion, and without it the list is what it was before. -/
theorem refines_insertRules (rules rs : List Rule) :
    normalizeRules (insertRules rules rs) = normalizeRules (rules ++ rs) ∧
      (DenyFirst rules → insertRules rules rs = normalizeRules (rules ++ rs)) ∧
      ∀ done r todo, rs = done ++ r :: todo →
        (insertRules rules (done ++ [r]))[ruleIndex (insertRules rules done) r]? = some r ∧
        (insertRules rules (done ++ [r])).eraseIdx (ruleIndex (insertRules rules done) r) =
          insertRules rules done := by
  refine ⟨normalizeRules_insertRules rules rs, fun h => insertRules_of_denyFirst h rs,
    fun done r todo _ => ?_⟩
  rw [insertRules_concat, insertRule, List.eraseIdx_insertIdx_self]
  exact ⟨by rw [List.getElem?_insertIdx_self, if_pos (ruleIndex_le _ r)], rfl⟩

section Samples

/-- A rule of an action for some protocols. -/
def sampleRule (action : Action) (prt : String) : Rule :=
  .ofParts action [.user] [.named "host" "a"] [prt]

/-- Two rules behind a `deny` and a `permit` rule: a new `deny` rule goes between them. -/
theorem refines_insertRules_twoActions :
    ∃ rules rs, DenyFirst rules ∧
      rules = [sampleRule .deny "tcp 1", sampleRule .permit "tcp 2"] ∧
      rs = [sampleRule .permit "tcp 3", sampleRule .deny "tcp 4"] ∧
      insertRules rules rs =
        [sampleRule .deny "tcp 1", sampleRule .deny "tcp 4", sampleRule .permit "tcp 2",
          sampleRule .permit "tcp 3"] ∧
      insertRules rules rs = normalizeRules (rules ++ rs) := by
  have hfirst : DenyFirst [sampleRule .deny "tcp 1", sampleRule .permit "tcp 2"] := by
    simp [DenyFirst, sampleRule, Rule.ofParts, Rule.isDeny]
  exact ⟨_, _, hfirst, rfl, rfl, rfl, (refines_insertRules _ _).2.1 hfirst⟩

end Samples

/-! ### The rules of a new service -/

namespace Job

theorem buildRules_eq_ok {rules rules' : List Rule} {ps : List Params.RuleParams} :
    buildRules rules ps = .ok rules' ↔
      ∃ rs, List.Forall₂ (fun p r => buildRule p = .ok r) ps rs ∧
        rules' = insertRules rules rs := by
  induction ps generalizing rules with
  | nil => simp [buildRules, insertRules, eq_comm]
  | cons p ps ih =>
    rw [buildRules, Except.bind_eq_ok]
    constructor
    · rintro ⟨r, hr, h⟩
      obtain ⟨rs, hrs, rfl⟩ := ih.1 h
      exact ⟨r :: rs, .cons hr hrs, rfl⟩
    · rintro ⟨_, _ | ⟨hr, hrs⟩, rfl⟩
      exact ⟨_, hr, ih.2 ⟨_, hrs, rfl⟩⟩

/-- A new service has the given rules with the `deny` rules in front, each action in the given
order. -/
theorem exists_normalizeRules_of_buildRules {rules : List Rule} {ps : List Params.RuleParams}
    (h : buildRules [] ps = .ok rules) :
    ∃ rs, List.Forall₂ (fun p r => buildRule p = .ok r) ps rs ∧ rules = normalizeRules rs := by
  obtain ⟨rs, hrs, rfl⟩ := buildRules_eq_ok.1 h
  exact ⟨rs, hrs, insertRules_of_denyFirst .nil rs⟩

end Job

end PolicyEditor
