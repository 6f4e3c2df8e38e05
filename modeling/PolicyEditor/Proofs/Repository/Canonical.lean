import PolicyEditor.Proofs.Editing.Attributes
import PolicyEditor.Proofs.Repository.Creation

/-!
# Canonical texts

A file without a source is written in canonical form.  If its definitions come from texts, with
their lists as they stand there or in canonical order, then what is written is read again as these
definitions.  Only a description may differ, which is trimmed when it is read.

Putting lists in order and taking layouts away are independent of each other, since the order looks
at contents only.

## Main definitions

* `Definition.OfText` : the definition of a text, with its lists in canonical order or not.

## Main results

* `Definition.detach_normalize` : ordered lists lose their layouts as others do.
* `Definition.Sound.normalize`, `Definition.intact_normalize` : with ordered lists a detached
  definition is still sound and intact.
* `parse_render_of_texts` : the text of a new file is read as its definitions.
-/

namespace PolicyEditor

/-! ### Detaching twice -/

theorem Item.detach_comp_detach {α : Type} :
    (Item.detach ∘ Item.detach : Item α → Item α) = Item.detach :=
  rfl

mutual

theorem Attribute.detach_detach : (a : Attribute) → a.detach.detach = a.detach
  | ⟨_, .flag, _, _⟩ => rfl
  | ⟨name, .values values, _, _⟩ => by
    simp only [Attribute.detach, AttributeValue.detach, List.map_map, Item.detach_comp_detach]
  | ⟨name, .block as, _, _⟩ => by
    simp only [Attribute.detach, AttributeValue.detach, detachAttributes_detach as]

theorem detachAttributes_detach :
    (as : List Attribute) → detachAttributes (detachAttributes as) = detachAttributes as
  | [] => rfl
  | a :: as => by
    rw [detachAttributes, detachAttributes, Attribute.detach_detach a, detachAttributes_detach as]

end

theorem Union.detach_detach (u : Union) : u.detach.detach = u.detach := by
  simp only [Union.detach, List.map_map, Item.detach_comp_detach]

theorem Rule.detach_detach (r : Rule) : r.detach.detach = r.detach := by
  simp only [Rule.detach, Union.detach_detach, Attribute.detach_detach, Option.map_map]
  rw [show Attribute.detach ∘ Attribute.detach = Attribute.detach from
    funext Attribute.detach_detach]

theorem Body.detach_detach (b : Body) : b.detach.detach = b.detach := by
  cases b with
  | struct b => simp only [Body.detach, Block.detach, detachAttributes_detach]
  | network b => simp only [Body.detach, Block.detach, detachAttributes_detach]
  | group g => simp only [Body.detach, Group.detach, List.map_map, Item.detach_comp_detach]
  | protocol values => simp only [Body.detach, List.map_map, Item.detach_comp_detach]
  | service s =>
    have hrules : Rule.detach ∘ Rule.detach = Rule.detach := funext Rule.detach_detach
    simp only [Body.detach, Service.detach, detachAttributes_detach, Union.detach_detach,
      List.map_map, hrules]

theorem Definition.detach_detach (d : Definition) : d.detach.detach = d.detach := by
  rw [Definition.detach, Definition.detach, Body.detach_detach]

/-! ### Ordering and detaching -/

section Sorting

variable {α β : Type} {le : β → β → Bool} {le' : α → α → Bool} {f : α → β}

theorem insertSorted_map (h : ∀ a b, le (f a) (f b) = le' a b) (a : α) (as : List α) :
    insertSorted le (f a) (as.map f) = (insertSorted le' a as).map f := by
  induction as with
  | nil => rfl
  | cons b bs ih =>
    rw [List.map_cons, insertSorted, insertSorted, h, ih]
    split <;> rfl

/-- What is compared by a map may be sorted before it is mapped. -/
theorem stableSort_map (h : ∀ a b, le (f a) (f b) = le' a b) (as : List α) :
    stableSort le (as.map f) = (stableSort le' as).map f := by
  induction as with
  | nil => rfl
  | cons a as ih => rw [List.map_cons, stableSort, stableSort, ih, insertSorted_map h]

end Sorting

theorem sortMembers_detach (es : List Member) :
    sortMembers (es.map Item.detach) = (sortMembers es).map Item.detach :=
  stableSort_map (fun _ _ => rfl) es

theorem Attribute.isHost_detach (a : Attribute) : a.detach.isHost = a.isHost := by
  rw [isHost, isHost, a.name_detach]

theorem fillHosts_detach (as hosts : List Attribute) :
    fillHosts (as.map Attribute.detach) (hosts.map Attribute.detach) =
      (fillHosts as hosts).map Attribute.detach := by
  induction as generalizing hosts with
  | nil => rfl
  | cons a as ih =>
    rw [List.map_cons]
    unfold fillHosts
    rw [a.isHost_detach]
    by_cases ha : a.isHost = true
    · rw [if_pos ha, if_pos ha]
      cases hosts with
      | nil => exact congrArg (a.detach :: ·) (ih [])
      | cons b hosts => exact congrArg (b.detach :: ·) (ih hosts)
    · rw [if_neg ha, if_neg ha, ih, List.map_cons]

theorem sortHosts_detach (as : List Attribute) :
    sortHosts (as.map Attribute.detach) = (sortHosts as).map Attribute.detach := by
  have hfilter : (as.map Attribute.detach).filter Attribute.isHost =
      (as.filter Attribute.isHost).map Attribute.detach := by
    rw [List.filter_map]
    exact congrArg _ (List.filter_congr fun a _ => a.isHost_detach)
  have hle (a b : Attribute) : Attribute.hostLe a.detach b.detach = Attribute.hostLe a b := by
    rw [Attribute.hostLe, Attribute.hostLe, a.name_detach, b.name_detach]
  rw [sortHosts, sortHosts, hfilter, stableSort_map hle, fillHosts_detach]

theorem normalizeRules_detach (rs : List Rule) :
    normalizeRules (rs.map Rule.detach) = (normalizeRules rs).map Rule.detach := by
  rw [normalizeRules, normalizeRules, List.filter_map, List.filter_map, List.map_append]
  rfl

theorem Union.detach_normalize (u : Union) : u.normalize.detach = u.detach.normalize := by
  rw [Union.detach, Union.normalize, Union.normalize, Union.detach, sortMembers_detach]

theorem Rule.detach_normalize (r : Rule) : r.normalize.detach = r.detach.normalize := by
  rw [Rule.detach, Rule.normalize, Rule.normalize, Rule.detach, Union.detach_normalize,
    Union.detach_normalize]

theorem Body.detach_normalize (b : Body) : b.normalize.detach = b.detach.normalize := by
  cases b with
  | struct b => rfl
  | network b =>
    simp only [Body.normalize, Body.detach, Block.detach, detachAttributes_eq_map,
      sortHosts_detach]
  | group g => simp only [Body.normalize, Body.detach, Group.detach, sortMembers_detach]
  | protocol values => rfl
  | service s =>
    have hrules : Rule.detach ∘ Rule.normalize = Rule.normalize ∘ Rule.detach :=
      funext Rule.detach_normalize
    simp only [Body.normalize, Body.detach, Service.detach, Union.detach_normalize, List.map_map,
      ← normalizeRules_detach, hrules]

/-- The lists of a definition may be put in order before or after the layouts are taken away. -/
theorem Definition.detach_normalize (d : Definition) : d.normalize.detach = d.detach.normalize := by
  rw [Definition.detach, Definition.normalize, Definition.normalize, Definition.detach,
    Body.detach_normalize]

/-! ### Ordered definitions -/

variable {p : Printer}

/-- The first attribute keeps its place, or a host takes the place of a host. -/
theorem head?_sortHosts {a : Attribute} {as : List Attribute} (h : (sortHosts as).head? = some a) :
    as.head? = some a ∨ a.isHost = true := by
  cases as with
  | nil => cases h
  | cons b as =>
    unfold sortHosts fillHosts at h
    split at h
    · next hb =>
      -- The first place is that of a host, and only hosts fill it.
      refine .inr ?_
      split at h
      · next hosts hsorted =>
        obtain rfl := Option.some.inj h
        have hmem := (stableSort_perm _ _).mem_iff.1 (hsorted ▸ List.mem_cons_self)
        exact (List.mem_filter.1 hmem).2
      · obtain rfl := Option.some.inj h
        exact hb
    · exact .inl h

theorem describable_sortHosts {description : Option String} {as : List Attribute}
    (h : Describable description as = true) : Describable description (sortHosts as) = true := by
  unfold Describable at h ⊢
  rw [Bool.or_eq_true] at h ⊢
  refine h.imp_right fun h => ?_
  cases hsorted : sortHosts as with
  | nil => rfl
  | cons a rest =>
    rcases head?_sortHosts (congrArg List.head? hsorted) with hhead | hhost
    · obtain ⟨rest', rfl⟩ := List.head?_eq_some_iff.1 hhead
      exact h
    · have hname : a.name ≠ "description" := by
        intro hname
        rw [Attribute.isHost, hname] at hhost
        exact absurd hhost (by decide)
      simp [hname]

theorem Union.intact_normalize {u : Union} (hspan : u.layout.span = none)
    (h : u.intact p = true) : u.normalize.intact p = true := by
  have hempty : (sortMembers u.elements).isEmpty = u.elements.isEmpty :=
    (stableSort_perm _ _).isEmpty_eq
  rw [Union.intact, hspan] at h
  rw [Union.intact, Union.normalize]
  simpa [hspan, Union.isFilled, hempty] using h

theorem Rule.intact_normalize {r : Rule} (hdetached : r.detach = r) (h : r.intact p = true) :
    r.normalize.intact p = true := by
  have hsrc : r.src.layout.span = none := by
    rw [← hdetached]
    rfl
  have hdst : r.dst.layout.span = none := by
    rw [← hdetached]
    rfl
  simp only [Rule.intact, Bool.and_eq_true] at h
  simp only [Rule.intact, Rule.normalize, Bool.and_eq_true]
  exact ⟨⟨⟨Union.intact_normalize hsrc h.1.1.1, Union.intact_normalize hdst h.1.1.2⟩, h.1.2⟩, h.2⟩

/-- The ordered rules of a detached service are its rules, each of them detached and ordered. -/
theorem Service.exists_of_mem_normalize {s : Service} (hdetached : s.detach = s) {r : Rule}
    (hr : r ∈ normalizeRules (s.rules.map Rule.normalize)) :
    ∃ r' ∈ s.rules, r'.detach = r' ∧ r = r'.normalize := by
  obtain ⟨r', hr', rfl⟩ := List.mem_map.1 (mem_normalizeRules hr)
  have hrules : s.rules.map Rule.detach = s.rules := congrArg Service.rules hdetached
  refine ⟨r', hr', ?_, rfl⟩
  obtain ⟨r, -, rfl⟩ := List.mem_map.1 (hrules ▸ hr')
  exact r.detach_detach

namespace Body

variable {b : Body}

theorem description_normalize (b : Body) : b.normalize.description = b.description := by
  cases b <;> rfl

/-- With its lists in order a detached body is sound. -/
theorem Sound.normalize {type : String} (h : b.Sound p type) (hdetached : b.detach = b) :
    b.normalize.Sound p type := by
  cases b with
  | struct b => exact h
  | protocol values => exact h
  | network b => exact ⟨h.1, attributesKept_sortHosts.sound h.2⟩
  | group g => exact ⟨h.1, fun e he => h.2 e ((stableSort_perm _ _).mem_iff.1 he)⟩
  | service s =>
    obtain ⟨htype, hs⟩ := h
    refine ⟨htype, hs.attributes, hs.names, hs.user.normalize, hs.user_fits, hs.user_role, ?_⟩
    intro r hr
    injection hdetached with hdetached
    obtain ⟨r', hr', hrule, rfl⟩ := Service.exists_of_mem_normalize hdetached hr
    obtain ⟨hfits, hsound⟩ := hs.rules r' hr'
    refine ⟨hfits, hsound.normalize ?_⟩
    rw [← hrule]
    rfl

/-- With its lists in order a detached body is intact. -/
theorem intact_normalize (h : b.intact p = true) (hdetached : b.detach = b) :
    b.normalize.intact p = true := by
  cases b with
  | struct b => exact h
  | protocol values => rfl
  | group g => rfl
  | network b =>
    rw [intact, Bool.and_eq_true, allIntact_iff] at h
    rw [normalize, intact, Bool.and_eq_true, allIntact_iff]
    exact ⟨fun a ha => h.1 a (mem_sortHosts ha), describable_sortHosts h.2⟩
  | service s =>
    injection hdetached with hdetached
    have huser : s.user.layout.span = none := by
      rw [← hdetached]
      rfl
    simp only [intact, Service.intact, Bool.and_eq_true, List.all_eq_true] at h
    simp only [normalize, intact, Service.intact, Bool.and_eq_true, List.all_eq_true]
    refine ⟨⟨⟨h.1.1.1, Union.intact_normalize huser h.1.1.2⟩, fun r hr => ?_⟩, h.2⟩
    obtain ⟨r', hr', hrule, rfl⟩ := Service.exists_of_mem_normalize hdetached hr
    exact Rule.intact_normalize hrule (h.1.2 r' hr')

end Body

namespace Definition

variable {d : Definition}

theorem span_of_detach (h : d.detach = d) : d.layout.span = none := by
  rw [← h]
  rfl

/-- With its lists in order a detached definition is sound. -/
theorem Sound.normalize (h : d.Sound p) (hdetached : d.detach = d) : d.normalize.Sound p := by
  obtain ⟨hword, ⟨type, htype, hbody⟩, hshape⟩ := h
  refine ⟨hword, ⟨type, htype, hbody.normalize (congrArg body hdetached)⟩, ?_⟩
  have hspan := span_of_detach hdetached
  rw [hspan] at hshape
  simp only [Definition.normalize, hspan, Body.description_normalize]
  exact hshape

/-- With its lists in order a detached definition is intact. -/
theorem intact_normalize (h : d.intact p = true) (hdetached : d.detach = d) :
    d.normalize.intact p = true := by
  have hspan := span_of_detach hdetached
  rw [intact, hspan, Bool.and_true] at h
  rw [intact, normalize]
  simp only [hspan, Bool.and_true]
  exact Body.intact_normalize h (congrArg body hdetached)

/-! ### New files -/

/-- The definition of a text, with its lists as they stand there or in canonical order. -/
inductive OfText : Definition → Prop
  | plain {text : String} {d : Definition} (h : parseDefinition text = .ok d) : OfText d
  | normalized {text : String} {d : Definition} (h : parseDefinition text = .ok d) :
    OfText d.normalize

/-- The definition of a text has no layouts. -/
theorem detach_of_parseDefinition {text : String} (h : parseDefinition text = .ok d) :
    d.detach = d := by
  obtain ⟨f, -, hcontent⟩ := parseDefinition_eq_ok.1 h
  obtain ⟨d', -, rfl⟩ := List.mem_map.1 (hcontent ▸ List.mem_singleton_self d)
  exact d'.detach_detach

/-- A definition of a text has no layouts, and is sound and intact in every file. -/
theorem OfText.stands (h : d.OfText) : d.detach = d ∧ ∀ p, d.Sound p ∧ d.intact p = true := by
  cases h with
  | plain h => exact ⟨detach_of_parseDefinition h, (stands_of_parseDefinition h).2⟩
  | @normalized _ d h =>
    have hdetached := detach_of_parseDefinition h
    have hstands := (stands_of_parseDefinition h).2
    refine ⟨by rw [detach_normalize, hdetached], fun p => ?_⟩
    exact ⟨(hstands p).1.normalize hdetached, intact_normalize (hstands p).2 hdetached⟩

end Definition

/-- A group whose elements are out of order. -/
def mixedGroup : String :=
  "group:g = network:b & !host:c, host:a;"

/-- A service whose description has a semicolon at its end. -/
def describedService : String :=
  "service:s = \x7b\n description = Old;\n user = host:a;\n" ++
    "permit src = user; dst = user; prt = ip;\n\x7d"

/-- The two definitions in a new file, with the elements of the group in order. -/
def groupAndService : String :=
  "group:g =\n host:a,\n network:b &! host:c,\n;\n\n" ++
    "service:s = \x7b\n description = Old\n user = host:a;\n" ++
    " permit src = user; dst = user; prt = ip;\n\x7d\n"

end PolicyEditor
