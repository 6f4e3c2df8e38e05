import PolicyEditor.Proofs.Editing.Constructs
import PolicyEditor.Proofs.Repository.Order

/-!
# New elements in a sorted list

New elements of a sorted list go between the old ones, which stay in their order.  Then the text of
the file stays as well: it is the old one with new pieces of text put in, wherever the new elements
go and whatever stands around them.  No old item changes its place among the others, so each of them
is printed with its lead and its separator, the first one behind the gap of the container.

## Main definitions

* `Inserts` : a list with new items put in.
* `Construct.Adds` : new elements are put into a sorted list of elements.

## Main results

* `Inserts.stableSort_append` : sorting puts new items into a sorted list.
* `Frame.Seats.sublist_framed` : a container with new items is printed with new pieces of text.
* `sublist_render_of_adds` : so is every file that was read with new elements in a sorted list.
-/

namespace PolicyEditor

open Text

/-- The second list is the first one with new items put in. -/
inductive Inserts {α : Type} (isNew : α → Prop) : List α → List α → Prop
  | nil : Inserts isNew [] []
  | old (a : α) {as bs : List α} (h : Inserts isNew as bs) : Inserts isNew (a :: as) (a :: bs)
  | new {b : α} {as bs : List α} (hb : isNew b) (h : Inserts isNew as bs) :
    Inserts isNew as (b :: bs)

namespace Inserts

variable {α : Type} {isNew : α → Prop} {le : α → α → Bool} {as bs : List α}

theorem of_forall (h : ∀ b ∈ bs, isNew b) : Inserts isNew [] bs := by
  induction bs with
  | nil => exact .nil
  | cons b bs ih =>
    rw [List.forall_mem_cons] at h
    exact .new h.1 (ih h.2)

/-- An item that may precede all old items is inserted in front of them, behind new ones at most. -/
theorem insertSorted {a : α} (h : Inserts isNew as bs) (hle : ∀ b ∈ as, le a b = true) :
    Inserts isNew (a :: as) (insertSorted le a bs) := by
  induction h with
  | nil => exact .old a .nil
  | old b h =>
    rw [PolicyEditor.insertSorted, if_pos (hle b List.mem_cons_self)]
    exact .old a (.old b h)
  | @new b as bs hb h ih =>
    rw [PolicyEditor.insertSorted]
    split
    · exact .old a (.new hb h)
    · exact .new hb (ih hle)

/-- If new items are put behind a sorted list, sorting moves only them. -/
theorem stableSort_append (has : as.Pairwise fun a b => le a b = true) (hbs : ∀ b ∈ bs, isNew b) :
    Inserts isNew as (stableSort le (as ++ bs)) := by
  induction as with
  | nil => exact of_forall fun b hb => hbs b ((stableSort_perm le bs).mem_iff.1 hb)
  | cons a as ih =>
    obtain ⟨ha, has⟩ := List.pairwise_cons.1 has
    exact (ih has).insertSorted ha

theorem map {β : Type} {isNew' : β → Prop} (f : α → β) (hf : ∀ a, isNew a → isNew' (f a))
    (h : Inserts isNew as bs) : Inserts isNew' (as.map f) (bs.map f) := by
  induction h with
  | nil => exact .nil
  | old a _ ih => exact .old (f a) ih
  | new hb _ ih => exact .new (hf _ hb) ih

theorem eq_nil (h : Inserts isNew as []) : as = [] := by
  cases h
  rfl

end Inserts

/-! ### Containers with new items -/

namespace Printer

variable {p : Printer} {comma trailing : Bool} {style : ListStyle} {span : Span} {frame : Frame}
  {qs rs : List Piece} {q : Piece}

/-- The separator of an item is printed as long as no item is last that was not. -/
theorem sublist_separator (hstyle : style.comma = comma)
    (hlast : comma = true → q.layout.sep = none → qs = [])
    (htrailing : comma = true → ∀ r ∈ (q :: qs).getLast?, trailing = r.layout.sep.isSome)
    (hrs : rs = [] → qs = []) :
    (p.textOf q.layout.sep).Sublist
      (p.separator span frame style (rs.isEmpty && !trailing) q) := by
  rcases rs with - | ⟨r, rs⟩
  · obtain rfl := hrs rfl
    exact (separator_eq_textOf hstyle hlast htrailing).symm ▸ List.Sublist.refl _
  · rw [List.isEmpty_cons, Bool.false_and, separator]
    rcases q.layout.sep with - | s
    · exact List.nil_sublist _
    · split <;> exact List.Sublist.refl _

theorem sublist_lead (new : List Char) : (p.textOf q.layout.lead).Sublist (p.lead new q) := by
  rw [lead]
  rcases q.layout.lead with - | s
  · exact List.nil_sublist _
  · exact List.Sublist.refl _

end Printer

section Containers

variable {p : Printer} {comma trailing : Bool} {style : ListStyle} {span : Span} {frame : Frame}
  {qs rs : List Piece}

/-- Items with new ones among them are printed with new pieces of text. -/
theorem Laid.sublist_further {closing text new : List Char} (h : Laid p comma closing qs text)
    (hstyle : style.comma = comma)
    (htrailing : comma = true → ∀ q ∈ qs.getLast?, trailing = q.layout.sep.isSome)
    (hrs : Inserts (·.layout = {}) qs rs) :
    (qs.flatMap p.place).Sublist
      (Printer.further (p.lead new) (p.separator span frame style) trailing rs) := by
  induction hrs generalizing text with
  | nil => exact List.Sublist.refl _
  | @old q qs rs hrs ih =>
    obtain - | ⟨-, -, -, hlast, -, h⟩ := h
    have hsep : (p.textOf q.layout.sep).Sublist
        (p.separator span frame style (rs.isEmpty && !trailing) q) :=
      Printer.sublist_separator hstyle hlast htrailing fun hnil => (hnil ▸ hrs).eq_nil
    rw [List.flatMap_cons, Printer.place, Printer.further, ← List.append_assoc (p.textOf _)]
    exact (((Printer.sublist_lead new).append (List.Sublist.refl q.text)).append hsep).append
      (ih h fun hc => getLast?_of_tail (htrailing hc))
  | new _ _ ih =>
    rw [Printer.further]
    exact (ih h htrailing).trans (List.sublist_append_right _ _)

/-- So they are behind the gap, where the first old item has no lead. -/
theorem Laid.sublist_items {closing text new : List Char} {r : Piece}
    (h : Laid p comma closing qs text) (hstyle : style.comma = comma)
    (htrailing : comma = true → ∀ q ∈ qs.getLast?, trailing = q.layout.sep.isSome)
    (hhead : ∀ q ∈ qs.head?, q.layout.lead = none) (hrs : Inserts (·.layout = {}) qs (r :: rs)) :
    (qs.flatMap p.place).Sublist (r.text ++
      p.separator span frame style (rs.isEmpty && !trailing) r ++
        Printer.further (p.lead new) (p.separator span frame style) trailing rs) := by
  cases hrs with
  | @old _ qs _ hrs =>
    obtain - | ⟨-, -, -, hlast, -, h⟩ := h
    have hsep : (p.textOf r.layout.sep).Sublist
        (p.separator span frame style (rs.isEmpty && !trailing) r) :=
      Printer.sublist_separator hstyle hlast htrailing fun hnil => (hnil ▸ hrs).eq_nil
    rw [List.flatMap_cons, Printer.place, hhead r rfl]
    exact ((List.Sublist.refl r.text).append hsep).append
      (h.sublist_further hstyle (fun hc => getLast?_of_tail (htrailing hc)) hrs)
  | new _ hrs =>
    exact (h.sublist_further hstyle htrailing hrs).trans (List.sublist_append_right _ _)

/-- A container of the source with new items among the old ones is printed with new pieces of
text. -/
theorem Frame.Seats.sublist_framed (h : frame.Seats p style.comma span qs)
    (hrs : Inserts (·.layout = {}) qs rs) :
    (p.framed span frame style qs).Sublist (p.framed span frame style rs) := by
  obtain ⟨text, hholds⟩ := h.holds
  rcases rs with - | ⟨r, rs⟩
  · rw [hrs.eq_nil]
  rw [h.framed_eq style rfl qs rfl, Printer.framed_cons]
  refine (List.Sublist.refl _).append ?_
  by_cases hunfolds : p.unfolds frame = true
  · -- The container was empty, and its gap stands behind the new items.
    obtain rfl : qs = [] := by
      rw [Printer.unfolds, hholds.wasEmpty_eq, Bool.and_eq_true] at hunfolds
      exact List.isEmpty_iff.1 hunfolds.1
    rw [if_pos hunfolds]
    simp only [← List.append_assoc, List.flatMap_nil, List.append_nil]
    exact (List.sublist_append_right _ _).append (List.Sublist.refl _)
  have hhead : ∀ q ∈ (r :: rs).head?, q.layout.lead = none := by
    rintro _ ⟨⟩
    cases hrs with
    | old _ hrs => exact hholds.head r rfl
    | new hr hrs => rw [hr]
  have htrailing : style.comma = true → ∀ q ∈ qs.getLast?,
      p.hasTrailing frame style = q.layout.sep.isSome := fun hc q hq => by
    have hempty : frame.wasEmpty = false := by
      rw [hholds.wasEmpty_eq, List.isEmpty_eq_false_iff]
      rintro rfl
      cases hq
    rw [Printer.hasTrailing, hempty]
    exact hholds.trailing_eq hc q hq
  rw [Printer.front, if_neg hunfolds, if_neg hunfolds, Printer.opening_eq_gap hhead,
    List.nil_append]
  refine (List.Sublist.refl _).append ?_
  simp only [← List.append_assoc]
  exact (hholds.laid.sublist_items rfl htrailing hholds.head hrs).append (List.Sublist.refl _)

end Containers

/-! ### New elements -/

namespace Construct

variable {p : Printer} {n n' : Construct}

/-- A construct that was read is printed with new pieces of text if new items are put among its
items. -/
theorem Refills.sublist_text (h : n.Refills n') (hn : n.Stands p)
    (hfolded : ∀ span frame, n.layout.span = some span → n'.unfolds p span frame = false)
    (hitems : Inserts (·.layout = {}) (n.pieces p) (n'.pieces p)) :
    (n.text p).Sublist (n'.text p) := by
  obtain ⟨span, frame, hframed⟩ := hn.framed h
  rw [h.refl_left.text_eq_framed hframed rfl, h.symm.text_eq (h.layout_eq ▸ hframed.span_eq)
    (h.frame_eq ▸ hframed.frame_eq) (hfolded span frame hframed.span_eq), h.style_eq]
  exact hframed.seats.sublist_framed hitems

/-- New elements are added to a sorted list of elements and the list is sorted again: that of a
union or of a group on several lines. -/
inductive Adds (source : List Char) (new : List Element) : Construct → Construct → Prop
  | group (d : Definition) (g : Group) {span : Span} (hbody : d.body = .group g)
    (hsorted : MembersInOrder g.elements) (hspan : d.layout.span = some span)
    (hlines : '\n' ∈ slice span.start span.stop source) :
    Adds source new (definition d) (definition
      { d with body := .group { g with elements := addMembers new g.elements } })
  | union (u : Union) (hsorted : MembersInOrder u.elements) :
    Adds source new (union u) (union (u.add new))

/-- New elements go among the old ones. -/
theorem inserts_addMembers {elements : List Member} (h : MembersInOrder elements)
    (new : List Element) :
    Inserts (·.layout = {}) (p.members elements) (p.members (addMembers new elements)) :=
  have hmembers : Inserts (fun e => e.layout = {}) elements (addMembers new elements) :=
    .stableSort_append h (List.forall_mem_map.2 fun _ _ => rfl)
  hmembers.map _ fun _ => id

theorem Adds.layout_eq {source : List Char} {new : List Element} (h : Adds source new n n') :
    n'.layout = n.layout := by
  cases h <;> rfl

theorem Adds.sublist_text {new : List Element} (h : Adds p.source new n n') (hn : n.Stands p) :
    (n.text p).Sublist (n'.text p) := by
  cases h with
  | @group d g span hbody hsorted hspan hlines =>
    have hrefill : (definition d).Refills (definition
        { d with body := .group { g with elements := addMembers new g.elements } }) :=
      .definition d (hbody ▸ .group ..)
    refine hrefill.sublist_text hn (fun s frame hs => ?_) ?_
    · obtain rfl := Option.some.inj (hspan.symm.trans hs)
      simp [unfolds, Definition.unfolds, Printer.text, hlines]
    · rw [pieces_definition, pieces_definition, hbody]
      exact inserts_addMembers hsorted new
  | union u hsorted =>
    refine (Refills.union u _).sublist_text hn (fun _ _ _ => rfl) ?_
    rw [pieces_union, pieces_union]
    exact inserts_addMembers hsorted new

end Construct

/-- If elements are added to a sorted union or to a sorted group on several lines of a file that was
read, the text of the file only gets new pieces: its old text is what remains without them. -/
theorem sublist_render_of_adds {source file : String} {f g : Forest} {n n' : Construct}
    {new : List Element} (h : parseFile source file = .ok f) (hswaps : f.Swaps n n' g)
    (hadds : n.Adds source.toList new n') (indentation : Indentation) :
    source.toList.Sublist (g.render source indentation).toList := by
  have hstands := stands_of_parseFile h indentation
  obtain ⟨hn, a, b, hsource, hrender, -⟩ := hswaps.around hstands hadds.layout_eq
  have htext := ((hadds.sublist_text hn).append (List.Sublist.refl b)).append_left a
  rw [← hsource, ← hrender] at htext
  rwa [Forest.render, String.toList_ofList]

/-! ### Sorted hosts -/

/-- A group with two hosts, which have comments. -/
def sortedHosts : String :=
  "group:g =\n host:b, # one\n # two\n host:d # three\n;\n"

/-- The hosts of the group. -/
def hostsBD : List Member :=
  [⟨.named "host" "b", { span := some ⟨11, 17⟩, sep := some ⟨17, 24⟩ }⟩,
    ⟨.named "host" "d", { span := some ⟨33, 39⟩, lead := some ⟨24, 33⟩ }⟩]

/-- The new hosts. -/
def hostsACE : List Element :=
  [.named "host" "a", .named "host" "c", .named "host" "e"]

/-- The group with the given elements. -/
def sortedGroup (elements : List Member) : Definition where
  name := "group:g"
  body := .group { elements }
  layout := { span := some ⟨0, 49⟩ }
  frame := some ⟨9, 11, 39, false, 2⟩

/-- New hosts go in front of the old ones, between them and behind them. -/
theorem sublist_render_of_adds_sortedHosts :
    ∃ f g n n' new, parseFile sortedHosts "group" = .ok f ∧
      parseUnion "host:a, host:c, host:e" = .ok new ∧ Forest.Swaps n n' f g ∧
      n.Adds sortedHosts.toList new n' ∧
      g.render sortedHosts =
        "group:g =\n host:a,\n host:b, # one\n host:c,\n # two\n host:d,\n host:e # three\n;\n" ∧
      sortedHosts.toList.Sublist (g.render sortedHosts).toList := by
  have hparse : parseFile sortedHosts "group" =
      .ok ⟨[sortedGroup hostsBD], some ⟨0, 0, 49, false, 1⟩⟩ := rfl
  have hnew : parseUnion "host:a, host:c, host:e" = .ok hostsACE := rfl
  have hadds : Construct.Adds sortedHosts.toList hostsACE (.definition (sortedGroup hostsBD))
      (.definition (sortedGroup (addMembers hostsACE hostsBD))) :=
    .group (sortedGroup hostsBD) { elements := hostsBD } rfl (by decide) rfl (by decide +kernel)
  have hswaps : Forest.Swaps _ _ ⟨[sortedGroup hostsBD], some ⟨0, 0, 49, false, 1⟩⟩
      ⟨[sortedGroup (addMembers hostsACE hostsBD)], some ⟨0, 0, 49, false, 1⟩⟩ :=
    @Forest.Swaps.mk _ _ _ [] [] _ _ rfl .here
  exact ⟨_, _, _, _, _, hparse, hnew, hswaps, hadds, by decide +kernel,
    sublist_render_of_adds hparse hswaps hadds {}⟩

end PolicyEditor
