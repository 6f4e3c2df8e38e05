import PolicyEditor.Proofs.Job.Methods
import PolicyEditor.Proofs.Repository.Steps

/-!
# Removals from lists

Elements and protocols are removed one after the other.  If one of them is missing, those before it
are gone.  So a removal makes a list lose items, whether it succeeds or not, and changes nothing
else.  The removal of servers looks at all of them first, and fails only if there is none.

## Main definitions

* `Union.Loses`, `Attribute.Loses`, `Rule.Loses`, `Rule.LosesProtocols` : what has lost items and is
  otherwise the same.

## Main results

* `Job.leads_removeElements`, `Job.leads_removeParts`, `Job.leads_removeServers` : removals make
  unions and rules lose items.
* `Job.restores_removeServers` : if no server is found, the rule stays as it is.
-/

namespace PolicyEditor

/-! ### Lists that lose items -/

/-- The union `u'` is `u` with some of its elements. -/
def Union.Loses (u u' : Union) : Prop :=
  ∃ elements : List Member, elements.Sublist u.elements ∧ u' = { u with elements }

instance : Std.Refl Union.Loses where
  refl u := ⟨u.elements, .refl _, rfl⟩

instance : IsTrans Union Union.Loses where
  trans := by
    rintro u _ _ ⟨es, hes, rfl⟩ ⟨es', hes', rfl⟩
    exact ⟨es', hes'.trans hes, rfl⟩

/-- An attribute that holds a list of values has only some of them.  Any other stays as it is. -/
inductive Attribute.Loses (a : Attribute) : Attribute → Prop
  | refl : a.Loses a
  | values {vs vs' : List Value} (hvalue : a.value = .values vs) (h : vs'.Sublist vs) :
    a.Loses { a with value := .values vs' }

instance : Std.Refl Attribute.Loses where
  refl _ := .refl

instance : IsTrans Attribute Attribute.Loses where
  trans := by
    rintro a _ _ (_ | ⟨hvalue, h⟩) (_ | ⟨hvalue', h'⟩)
    · exact .refl
    · exact .values hvalue' h'
    · exact .values hvalue h
    · cases hvalue'
      exact .values hvalue (h'.trans h)

/-- The rule `r'` is `r` with some of its sources, destinations and protocols. -/
def Rule.Loses (r r' : Rule) : Prop :=
  ∃ src dst prt, r.src.Loses src ∧ r.dst.Loses dst ∧ r.prt.Loses prt ∧
    r' = { r with src, dst, prt }

instance : Std.Refl Rule.Loses where
  refl r := ⟨r.src, r.dst, r.prt, Std.Refl.refl _, Std.Refl.refl _, Std.Refl.refl _, rfl⟩

instance : IsTrans Rule Rule.Loses where
  trans := by
    rintro r _ _ ⟨_, _, _, hsrc, hdst, hprt, rfl⟩ ⟨_, _, _, hsrc', hdst', hprt', rfl⟩
    exact ⟨_, _, _, IsTrans.trans _ _ _ hsrc hsrc', IsTrans.trans _ _ _ hdst hdst',
      IsTrans.trans _ _ _ hprt hprt', rfl⟩

/-- The rule `r'` is `r` with some of its protocols. -/
def Rule.LosesProtocols (r r' : Rule) : Prop :=
  ∃ prt, r.prt.Loses prt ∧ r' = { r with prt }

instance : Std.Refl Rule.LosesProtocols where
  refl r := ⟨r.prt, .refl, rfl⟩

theorem Rule.LosesProtocols.loses {r r' : Rule} (h : r.LosesProtocols r') : r.Loses r' := by
  obtain ⟨prt, hprt, rfl⟩ := h
  exact ⟨r.src, r.dst, prt, Std.Refl.refl _, Std.Refl.refl _, hprt, rfl⟩

namespace Job

open Edit

variable {context : Context}

/-! ### Removals that may end early -/

section Parts

variable {σ α : Type} {value : Option α} {edit : α → Edit σ Unit}

theorem leads_editIfSome {r : σ → σ → Prop} [Std.Refl r] (h : ∀ a, Leads r (edit a)) :
    Leads r (editIfSome value edit) := by
  cases value with
  | none => exact leads_pure ()
  | some a => exact h a

theorem succeeds_editIfSome (h : ∀ a, Succeeds (edit a)) : Succeeds (editIfSome value edit) := by
  cases value with
  | none => exact succeeds_pure ()
  | some a => exact h a

theorem restores_editIfSome (h : ∀ a, Restores (edit a)) : Restores (editIfSome value edit) := by
  cases value with
  | none => exact (succeeds_pure ()).restores
  | some a => exact h a

end Parts

theorem leads_removeElements (es : List Element) :
    Leads Union.Loses (removeElements context es) := by
  induction es with
  | nil => exact leads_pure ()
  | cons e es ih =>
    intro u
    rw [final, removeElements]
    cases hremove : removeMember? e u.elements with
    | none => exact Std.Refl.refl u
    | some elements =>
      have hfirst : u.Loses { u with elements } := ⟨elements, sublist_of_removeFirst? hremove, rfl⟩
      exact IsTrans.trans _ _ _ hfirst (ih _)

theorem leads_removeProtocols (texts : List String) :
    Leads (fun vs vs' => vs'.Sublist vs) (removeProtocols context texts) := by
  induction texts with
  | nil => exact fun vs => .refl vs
  | cons text texts ih =>
    intro vs
    rw [final, removeProtocols]
    cases hremove : removeValue? text vs with
    | none => exact .refl vs
    | some vs' => exact (ih vs').trans (sublist_of_removeFirst? hremove)

/-- An edit of the protocols of a rule changes this list alone. -/
theorem leads_editProtocols {r : Rule → Rule → Prop} [Std.Refl r]
    {q : List Value → List Value → Prop} {edit : Edit (List Value) Unit} (h : Leads q edit)
    (hset : ∀ rule vs vs', rule.prt.value = .values vs → q vs vs' →
      r rule { rule with prt := { rule.prt with value := .values vs' } }) :
    Leads r (editProtocols context edit) := by
  intro rule
  rw [final, editProtocols]
  cases hvalue : rule.prt.value with
  | values vs =>
    have hvs := h vs
    dsimp only
    cases hedit : edit vs with
    | ok _ vs' => exact hset rule vs vs' hvalue (final_of_ok hedit ▸ hvs)
    | error e vs' => exact hset rule vs vs' hvalue (final_of_error hedit ▸ hvs)
  | _ => exact Std.Refl.refl rule

theorem leads_removeRuleProtocols (texts : List String) :
    Leads Rule.LosesProtocols (editProtocols context (removeProtocols context texts)) :=
  leads_editProtocols (leads_removeProtocols texts) fun _ _ _ hvalue h => ⟨_, .values hvalue h, rfl⟩

theorem leads_removeParts (prt : Option Phrase) (src dst : Option (List Element)) :
    Leads Rule.Loses (removeParts context prt src dst) := by
  refine (leads_editIfSome fun es => ?_).bind fun _ =>
    (leads_editIfSome fun es => ?_).bind fun _ => leads_editIfSome fun texts => ?_
  · exact leads_focus (leads_removeElements es) fun r src h =>
      ⟨src, r.dst, r.prt, h, Std.Refl.refl _, Std.Refl.refl _, rfl⟩
  · exact leads_focus (leads_removeElements es) fun r dst h =>
      ⟨r.src, dst, r.prt, Std.Refl.refl _, h, Std.Refl.refl _, rfl⟩
  · exact (leads_removeRuleProtocols _).imp fun _ _ => Rule.LosesProtocols.loses

/-! ### Removals of servers -/

theorem loses_dropElement (e : Element) (u : Union) : u.Loses (dropElement e u).1 := by
  rw [dropElement]
  split
  · next hremove => exact ⟨_, sublist_of_removeFirst? hremove, rfl⟩
  · exact Std.Refl.refl u

theorem loses_dropServers (es : List Element) (r : Rule) : r.Loses (dropServers es r).1 := by
  induction es generalizing r with
  | nil => exact Std.Refl.refl r
  | cons e es ih =>
    have hfirst : r.Loses
        { r with src := (dropElement e r.src).1, dst := (dropElement e r.dst).1 } :=
      ⟨_, _, r.prt, loses_dropElement e r.src, loses_dropElement e r.dst, Std.Refl.refl _, rfl⟩
    exact IsTrans.trans _ _ _ hfirst (ih _)

theorem leads_removeServers (missing : PolicyError) (es : List Element) :
    Leads Rule.Loses (removeServers missing es) := by
  intro r
  have hfinal : (removeServers missing es).final r = (dropServers es r).1 := by
    simp only [final, removeServers, bind, EStateM.bind, get_apply, set_apply]
    cases (dropServers es r).2 <;> rfl
  exact hfinal ▸ loses_dropServers es r

theorem dropElement_of_missing {e : Element} {u : Union} (h : (dropElement e u).2 = false) :
    (dropElement e u).1 = u := by
  rw [dropElement] at h ⊢
  split at h
  · cases h
  · rfl

/-- If none of the elements is found, the rule stays as it is. -/
theorem dropServers_of_missing {es : List Element} {r : Rule} (h : (dropServers es r).2 = false) :
    (dropServers es r).1 = r := by
  induction es generalizing r with
  | nil => rfl
  | cons e es ih =>
    simp only [dropServers, Bool.or_eq_false_iff] at h ⊢
    obtain ⟨⟨hsrc, hdst⟩, hrest⟩ := h
    rw [ih hrest, dropElement_of_missing hsrc, dropElement_of_missing hdst]

theorem restores_removeServers (missing : PolicyError) (es : List Element) :
    Restores (removeServers missing es) := by
  intro r e r' h
  simp only [removeServers, bind, EStateM.bind, get_apply, set_apply] at h
  cases hfound : (dropServers es r).2 with
  | true =>
    rw [hfound] at h
    cases h
  | false =>
    rw [hfound] at h
    cases h
    exact dropServers_of_missing hfound

end Job

end PolicyEditor
