import PolicyEditor.Definition.Edit
import PolicyEditor.Proofs.Editing.Changes
import PolicyEditor.Proofs.Layout.Detaching

/-!
# New attributes and rules

Attributes that get new values stay sound if each of the new texts is a value.  So do attributes to
which new ones are added, and hosts that are put in order.  Rules that are made of elements and
protocols are sound wherever they go.

## Main definitions

* `IsValue` : a text that is read as one value.

## Main results

* `attributesKept_setSortedValues`, `attributesKept_removeAttribute`, `attributesKept_concat`,
  `attributesKept_sortHosts` : what may happen to the attributes of a block.
* `Rule.sound_ofParts` : a new rule is sound.
-/

namespace PolicyEditor

open Text

variable {p : Printer}

/-- A text that is read as one value, which is the text itself. -/
def IsValue (text : String) : Prop :=
  Value.Spells text.toList text

/-! ### Values -/

theorem IsValue.sound {text : String} (h : IsValue text) : Value.Sound p { content := text } :=
  Item.sound_of_canonical h

theorem sound_sortValues {vs : List Value} (h : ∀ v ∈ vs, Value.Sound p v) :
    ∀ v ∈ sortValues vs, Value.Sound p v :=
  fun v hv => h v ((stableSort_perm _ _).mem_iff.1 hv)

/-- A new attribute of values is sound. -/
theorem Attribute.sound_ofValues {name : String} {texts : List String} (hname : IsWord name.toList)
    (h : ∀ text ∈ texts, IsValue text) : (Attribute.ofValues name texts).Sound p := by
  refine ⟨⟨hname, trivial⟩, ?_⟩
  simp only [AttributeValue.Sound, List.forall_mem_map]
  exact fun text htext => (h text htext).sound

/-- An attribute with other values is sound, and its layout fits as before. -/
theorem Attribute.sound_withValues {a : Attribute} {vs : List Value}
    (h : a.layout.Fits p false ∧ a.Sound p) (hvs : ∀ v ∈ vs, Value.Sound p v) :
    (a.withValues vs).layout.Fits p false ∧ (a.withValues vs).Sound p := by
  obtain ⟨name, value, layout, frame⟩ := a
  obtain ⟨hfits, hshape, hvalue⟩ := h
  cases value with
  | values ws => exact ⟨hfits, hshape.withValues vs, hvs⟩
  | flag => exact ⟨⟨hfits.lead, hfits.sep⟩, ⟨hshape.1, trivial⟩, hvs⟩
  | block as => exact ⟨⟨hfits.lead, hfits.sep⟩, ⟨hshape.1, trivial⟩, hvs⟩

theorem Attribute.name_withValues (a : Attribute) (vs : List Value) :
    (a.withValues vs).name = a.name := by
  rw [withValues]
  split <;> rfl

theorem Attribute.lead_withValues (a : Attribute) (vs : List Value) :
    (a.withValues vs).layout.lead = a.layout.lead := by
  rw [withValues]
  split <;> rfl

/-! ### Attributes of a block -/

variable {as : List Attribute}

/-- The first attribute changes, and those behind it. -/
theorem AttributesKept.cons {a a' : Attribute} {as' : List Attribute}
    (hsound : a.layout.Fits p false ∧ a.Sound p → a'.layout.Fits p false ∧ a'.Sound p)
    (huser : a' = a ∨ a'.name ≠ "user") (hlead : a'.layout.lead = a.layout.lead)
    (h : AttributesKept p as as') : AttributesKept p (a :: as) (a' :: as') where
  sound hall := ⟨hsound hall.1, h.sound hall.2⟩
  users husers := by
    rw [List.forall_mem_cons] at husers ⊢
    refine ⟨fun hname => ?_, h.users husers.2⟩
    rcases huser with rfl | hne
    · exact husers.1 hname
    · exact absurd hname hne
  leads hleads := by
    rw [List.forall_mem_cons] at hleads ⊢
    exact ⟨hlead.trans hleads.1, h.leads hleads.2⟩

/-- A new attribute comes behind the others. -/
theorem attributesKept_concat {a : Attribute} (hlayout : a.layout = {}) (hsound : a.Sound p)
    (huser : a.name ≠ "user") : AttributesKept p as (as ++ [a]) where
  sound hall := by
    rw [allSound_iff] at hall ⊢
    rw [List.forall_mem_append, List.forall_mem_singleton, hlayout]
    exact ⟨hall, Layout.fits_empty, hsound⟩
  users husers := by
    rw [List.forall_mem_append, List.forall_mem_singleton]
    exact ⟨husers, fun hname => absurd hname huser⟩
  leads hleads := by
    rw [List.forall_mem_append, List.forall_mem_singleton, hlayout]
    exact ⟨hleads, rfl⟩

/-- An attribute gets sound values, or is added with them. -/
theorem attributesKept_setValues {name : String} {vs : List Value} (hname : IsWord name.toList)
    (huser : name ≠ "user") (hvs : ∀ v ∈ vs, Value.Sound p v) :
    AttributesKept p as (setValues name vs as) := by
  induction as with
  | nil => exact attributesKept_concat rfl ⟨⟨hname, trivial⟩, hvs⟩ huser
  | cons a as ih =>
    rw [setValues]
    split_ifs with ha
    · refine .cons (fun h => Attribute.sound_withValues h hvs) (.inr ?_) (a.lead_withValues vs)
        (.refl as)
      rwa [a.name_withValues, ha]
    · exact .cons id (.inl rfl) rfl ih

theorem attributesKept_setSortedValues {name : String} {texts : List String}
    (hname : IsWord name.toList) (huser : name ≠ "user") (h : ∀ text ∈ texts, IsValue text) :
    AttributesKept p as (setSortedValues name texts as) := by
  refine attributesKept_setValues hname huser (sound_sortValues ?_)
  rw [List.forall_mem_map]
  exact fun text htext => (h text htext).sound

theorem attributesKept_removeAttribute (name : String) :
    AttributesKept p as (removeAttribute name as) :=
  .of_subset (List.filter_subset_self as)

/-! ### Hosts -/

theorem mem_fillHosts {a : Attribute} {as hosts : List Attribute} (h : a ∈ fillHosts as hosts) :
    a ∈ as ∨ a ∈ hosts := by
  induction as generalizing hosts with
  | nil => cases h
  | cons b as ih =>
    unfold fillHosts at h
    split at h
    · split at h <;> rcases List.mem_cons.1 h with rfl | h
      · exact .inr List.mem_cons_self
      · exact (ih h).imp (List.mem_cons_of_mem _) (List.mem_cons_of_mem _)
      · exact .inl List.mem_cons_self
      · exact (ih h).imp_left (List.mem_cons_of_mem _)
    · rcases List.mem_cons.1 h with rfl | h
      · exact .inl List.mem_cons_self
      · exact (ih h).imp_left (List.mem_cons_of_mem _)

theorem mem_sortHosts {a : Attribute} (h : a ∈ sortHosts as) : a ∈ as := by
  rcases mem_fillHosts h with h | h
  · exact h
  · exact List.mem_of_mem_filter ((stableSort_perm _ _).mem_iff.1 h)

/-- Hosts are put in order. -/
theorem attributesKept_sortHosts : AttributesKept p as (sortHosts as) :=
  .of_subset fun _ ha => mem_sortHosts ha

/-! ### Unions and rules -/

namespace Union

/-- A new union of elements of a text is sound. -/
theorem sound_ofElements {role : Role} {es : List Element}
    (h : ∀ e ∈ es, Element.SpellsItem e.chars e) : (Union.ofElements role es).Sound p := by
  refine ⟨?_, by rintro ⟨⟩, trivial⟩
  simp only [Union.ofElements, List.forall_mem_map]
  exact fun e he => Item.sound_of_canonical (h e he)

theorem Sound.normalize {u : Union} (h : u.Sound p) : u.normalize.Sound p :=
  ⟨fun e he => h.1 e ((stableSort_perm _ _).mem_iff.1 he), h.2⟩

end Union

namespace Rule

/-- A new rule of elements of texts and values is sound. -/
theorem sound_ofParts {action : Action} {src dst : List Element} {prt : List String}
    (hsrc : ∀ e ∈ src, Element.SpellsItem e.chars e)
    (hdst : ∀ e ∈ dst, Element.SpellsItem e.chars e) (hprt : ∀ text ∈ prt, IsValue text) :
    (Rule.ofParts action src dst prt).Sound p where
  src := Union.sound_ofElements hsrc
  dst := Union.sound_ofElements hdst
  prt := Attribute.sound_ofValues (by decide) hprt
  log := by rintro _ ⟨⟩
  src_role := rfl
  dst_role := rfl
  prt_name := rfl
  log_name := by rintro _ ⟨⟩
  pieces := by
    have hpieces : ∀ q ∈ p.rulePieces (Rule.ofParts action src dst prt), q.layout = {} := by
      simp [Printer.rulePieces, Printer.unionPiece, Printer.attributePiece, Rule.ofParts,
        Union.ofElements, Attribute.ofValues]
    exact fun q hq => ⟨hpieces q hq ▸ Layout.fits_empty, hpieces q hq ▸ rfl⟩
  shape := trivial

/-- A new rule with its elements in order is sound. -/
theorem Sound.normalize {r : Rule} (h : r.Sound p) (hspan : r.layout.span = none) :
    r.normalize.Sound p where
  src := h.src.normalize
  dst := h.dst.normalize
  prt := h.prt
  log := h.log
  src_role := h.src_role
  dst_role := h.dst_role
  prt_name := h.prt_name
  log_name := h.log_name
  pieces := by
    have hpieces : (p.rulePieces r.normalize).map (·.layout) = (p.rulePieces r).map (·.layout) :=
      rfl
    intro q hq
    have hmem := List.mem_map_of_mem (f := Piece.layout) hq
    rw [hpieces] at hmem
    obtain ⟨q', hq', heq⟩ := List.mem_map.1 hmem
    exact heq ▸ h.pieces q' hq'
  shape := by
    unfold Rule.normalize
    dsimp only
    rw [hspan]
    trivial

end Rule

theorem mem_normalizeRules {rs : List Rule} {r : Rule} (h : r ∈ normalizeRules rs) : r ∈ rs := by
  rw [normalizeRules, List.mem_append] at h
  exact h.elim List.mem_of_mem_filter List.mem_of_mem_filter

end PolicyEditor
