import Mathlib.Data.List.InsertIdx
import PolicyEditor.Proofs.Editing.Definitions
import PolicyEditor.Proofs.Editing.Reparsing
import PolicyEditor.Proofs.Repository.Canonical
import PolicyEditor.Proofs.RoundTrip

/-!
# Edits of detached definitions

A definition that is given as a text of its own is detached from this text before it goes into a
file, as the places in its layouts would be places of another file.  A definition is detached if
detaching does not change it.  New entries of lists are detached as well, so that edits keep the
definition detached: whatever is dropped, moved or added, no layout is left at any level.  Nothing
of such a definition is copied from a source, and it is printed in canonical form in every file.

## Main definitions

* `Definition.IsDetached` : a definition without any layout.
* `ListEdit.renewal` : entries of a list are dropped or moved, and detached ones are added.
* `Definition.Edits` : all lists are put in order, or one list at any depth is renewed.

## Main results

* `Definition.Edits.isDetached` : an edit keeps a definition detached.
* `ListEdit.renewal_addMembers`, `ListEdit.renewal_setValues` and so on : the functions that edit
  lists and attributes renew them.
* `Definition.IsDetached.forestText_eq` : a detached definition is printed in its canonical form,
  and what is printed around it depends on the rest of the file only.
* `render_of_edits` : so it is for a definition of a text after any edits.
-/

namespace PolicyEditor

/-! ### Definitions without layouts -/

/-- A list is mapped to itself if its items are. -/
theorem map_eq_self_iff {α : Type} {f : α → α} {as : List α} :
    as.map f = as ↔ ∀ a ∈ as, f a = a := by
  have hmap : as.map f = as.map id ↔ ∀ a ∈ as, f a = id a := List.map_inj_left
  rwa [List.map_id] at hmap

theorem Attribute.detach_eq_iff {name : String} {value : AttributeValue} {layout : Layout}
    {frame : Option Frame} : detach ⟨name, value, layout, frame⟩ = ⟨name, value, layout, frame⟩ ↔
      value.detach = value ∧ layout = {} ∧ frame = none := by
  simp [detach, eq_comm]

theorem AttributeValue.detach_values_iff {vs : List Value} :
    (values vs).detach = values vs ↔ ∀ v ∈ vs, v.detach = v := by
  rw [detach, values.injEq, map_eq_self_iff]

theorem AttributeValue.detach_block_iff {as : List Attribute} :
    (block as).detach = block as ↔ ∀ a ∈ as, a.detach = a := by
  rw [detach, block.injEq, detachAttributes_eq_map, map_eq_self_iff]

theorem Union.detach_eq_iff {u : Union} :
    u.detach = u ↔ (∀ e ∈ u.elements, e.detach = e) ∧ u.layout = {} ∧ u.frame = none := by
  obtain ⟨role, foreach, elements, layout, frame⟩ := u
  rw [← map_eq_self_iff]
  simp [detach, eq_comm]

theorem Rule.detach_eq_iff {r : Rule} :
    r.detach = r ↔ (r.src.detach = r.src ∧ r.dst.detach = r.dst ∧ r.prt.detach = r.prt ∧
      ∀ a ∈ r.log, a.detach = a) ∧ r.layout = {} ∧ r.frame = none := by
  obtain ⟨action, src, dst, prt, log, layout, frame⟩ := r
  cases log <;> simp [detach, eq_comm, and_assoc]

theorem Block.detach_eq_iff {b : Block} : b.detach = b ↔ ∀ a ∈ b.attributes, a.detach = a := by
  obtain ⟨description, attributes⟩ := b
  simp [detach, detachAttributes_eq_map, map_eq_self_iff]

theorem Group.detach_eq_iff {g : Group} : g.detach = g ↔ ∀ e ∈ g.elements, e.detach = e := by
  obtain ⟨description, elements⟩ := g
  simp [detach, map_eq_self_iff]

theorem Service.detach_eq_iff {s : Service} :
    s.detach = s ↔ (∀ a ∈ s.attributes, a.detach = a) ∧ s.user.detach = s.user ∧
      ∀ r ∈ s.rules, r.detach = r := by
  obtain ⟨description, attributes, user, rules⟩ := s
  simp [detach, detachAttributes_eq_map, map_eq_self_iff]

namespace Definition

/-- The definition has no layout and no frame at any level. -/
def IsDetached (d : Definition) : Prop :=
  d.detach = d

theorem isDetached_detach (d : Definition) : d.detach.IsDetached :=
  d.detach_detach

theorem isDetached_iff {d : Definition} :
    d.IsDetached ↔ d.body.detach = d.body ∧ d.layout = {} ∧ d.frame = none := by
  obtain ⟨name, body, layout, frame⟩ := d
  simp [IsDetached, detach, eq_comm]

end Definition

/-! ### What is printed of definitions without layouts -/

namespace Printer

variable (p q : Printer)

theorem values_detach (vs : List Value) :
    p.values (vs.map Item.detach) = q.values (vs.map Item.detach) := by
  simp [values, Item.detach, item]

theorem members_detach (es : List Member) :
    p.members (es.map Item.detach) = q.members (es.map Item.detach) := by
  simp [members, Item.detach, item]

mutual

/-- No text of an attribute without layouts comes from the source. -/
theorem attributeText_detach : (a : Attribute) → p.attributeText a.detach = q.attributeText a.detach
  | ⟨_, .flag, _, _⟩ => rfl
  | ⟨_, .values vs, _, _⟩ => by
    simp only [Attribute.detach, AttributeValue.detach, attributeText, newValue,
      values_detach p q vs]
  | ⟨_, .block as, _, _⟩ => by
    simp only [Attribute.detach, AttributeValue.detach, attributeText, newValue,
      attributePieces_detach as]

/-- No text of attributes without layouts comes from the source. -/
theorem attributePieces_detach : (as : List Attribute) →
    p.attributePieces (detachAttributes as) = q.attributePieces (detachAttributes as)
  | [] => rfl
  | a :: as => by
    rw [detachAttributes, attributePieces, attributePieces, attributeText_detach a,
      attributePieces_detach as]

end

theorem unionText_detach (u : Union) : p.unionText u.detach = q.unionText u.detach := by
  simp only [unionText, Union.detach, newUnion, members_detach p q]

theorem ruleText_detach (r : Rule) : p.ruleText r.detach = q.ruleText r.detach := by
  have hlog : (r.log.map Attribute.detach).toList.map p.attributePiece =
      (r.log.map Attribute.detach).toList.map q.attributePiece := by
    cases r.log with
    | none => rfl
    | some a => simp [attributePiece, attributeText_detach p q]
  simp only [ruleText, rulePieces, Rule.detach, unionPiece, unionText_detach p q, attributePiece,
    attributeText_detach p q] at hlog ⊢
  rw [hlog]

theorem bodyPieces_detach (b : Body) : p.bodyPieces b.detach = q.bodyPieces b.detach := by
  cases b with
  | struct b | network b => exact attributePieces_detach p q b.attributes
  | group g => exact members_detach p q g.elements
  | protocol vs => exact values_detach p q vs
  | service s =>
    simp [Body.detach, Service.detach, bodyPieces, attributePieces_detach p q, unionPiece,
      unionText_detach p q, ruleText_detach p q]

/-- The canonical text of a definition without layouts depends on the indentation only. -/
theorem newDefinition_of_isDetached {d : Definition} (h : d.IsDetached) (source : List Char) :
    p.newDefinition d = { p with source }.newDefinition d := by
  have hpieces := bodyPieces_detach p { p with source } d.body
  rw [(Definition.isDetached_iff.1 h).1] at hpieces
  simp only [newDefinition, newBody, hpieces]
  rfl

end Printer

/-! ### Edits -/

/-- Every entry of the list `as'` is an entry of `as` or has no layouts. -/
def Renews {α : Type} (detach : α → α) (as as' : List α) : Prop :=
  ∀ a ∈ as', a ∈ as ∨ detach a = a

/-- Entries of a list are dropped or moved, and entries without layouts are added.  An attribute may
also get new values in its place. -/
def ListEdit.renewal : ListEdit where
  members := Renews Item.detach
  values := Renews Item.detach
  attributes as as' := ∀ a ∈ as', a ∈ as ∨ a.detach = a ∨
    ∃ b ∈ as, ∃ vs : List Value, (∀ v ∈ vs, v.detach = v) ∧ a = b.withValues vs
  rules := Renews Rule.detach

/-- All lists of a definition are put in order, or one list at any depth is renewed. -/
inductive Definition.Edits (d : Definition) : Definition → Prop
  | normalize : Edits d d.normalize
  | list {b : Body} : d.body.Changes .renewal b → Edits d { d with body := b }

theorem Renews.detach_eq {α : Type} {detach : α → α} {as as' : List α} (h : Renews detach as as')
    (has : ∀ a ∈ as, detach a = a) : ∀ a ∈ as', detach a = a :=
  fun a ha => (h a ha).elim (has a) id

theorem Attribute.detach_withValues {a : Attribute} {vs : List Value} (ha : a.detach = a)
    (hvs : ∀ v ∈ vs, v.detach = v) : (a.withValues vs).detach = a.withValues vs := by
  obtain ⟨name, value, layout, frame⟩ := a
  obtain ⟨-, rfl, rfl⟩ := detach_eq_iff.1 ha
  have hnew : (⟨name, .values vs, {}, none⟩ : Attribute).detach = ⟨name, .values vs, {}, none⟩ :=
    detach_eq_iff.2 ⟨AttributeValue.detach_values_iff.2 hvs, rfl, rfl⟩
  cases value <;> exact hnew

mutual

/-- An attribute without layouts has none when one list in it was renewed. -/
theorem Attribute.Changes.detach_eq {a a' : Attribute} (h : a.Changes .renewal a')
    (ha : a.detach = a) : a'.detach = a' := by
  match h with
  | .values hvalues =>
    obtain ⟨hvs, hlayout, hframe⟩ := Attribute.detach_eq_iff.1 ha
    rw [AttributeValue.detach_values_iff] at hvs
    exact Attribute.detach_eq_iff.2
      ⟨AttributeValue.detach_values_iff.2 (Renews.detach_eq hvalues hvs), hlayout, hframe⟩
  | .block hblock =>
    obtain ⟨has, hlayout, hframe⟩ := Attribute.detach_eq_iff.1 ha
    rw [AttributeValue.detach_block_iff] at has
    exact Attribute.detach_eq_iff.2
      ⟨AttributeValue.detach_block_iff.2 (hblock.detach_eq has), hlayout, hframe⟩

/-- Attributes without layouts have none when they, or one list in them, were renewed. -/
theorem AttributesChange.detach_eq {as as' : List Attribute} (h : AttributesChange .renewal as as')
    (has : ∀ a ∈ as, a.detach = a) : ∀ a ∈ as', a.detach = a := by
  match h with
  | .list hlist =>
    intro a ha
    rcases hlist a ha with ha | ha | ⟨b, hb, vs, hvs, rfl⟩
    · exact has a ha
    · exact ha
    · exact Attribute.detach_withValues (has b hb) hvs
  | .entry hentry =>
    rw [List.forall_mem_append, List.forall_mem_cons] at has ⊢
    exact ⟨has.1, hentry.detach_eq has.2.1, has.2.2⟩

end

theorem Union.Changes.detach_eq {u u' : Union} (h : u.Changes .renewal u') (hu : u.detach = u) :
    u'.detach = u' := by
  obtain ⟨elements, helements, rfl⟩ := h
  rw [Union.detach_eq_iff] at hu ⊢
  exact ⟨Renews.detach_eq helements hu.1, hu.2⟩

theorem Rule.Changes.detach_eq {r r' : Rule} (h : r.Changes .renewal r') (hr : r.detach = r) :
    r'.detach = r' := by
  rw [Rule.detach_eq_iff] at hr ⊢
  obtain ⟨⟨hsrc, hdst, hprt, hlog⟩, hlayout⟩ := hr
  cases h with
  | src h => exact ⟨⟨h.detach_eq hsrc, hdst, hprt, hlog⟩, hlayout⟩
  | dst h => exact ⟨⟨hsrc, h.detach_eq hdst, hprt, hlog⟩, hlayout⟩
  | prt h => exact ⟨⟨hsrc, hdst, h.detach_eq hprt, hlog⟩, hlayout⟩
  | @log a a' hmem h =>
    refine ⟨⟨hsrc, hdst, hprt, ?_⟩, hlayout⟩
    rintro _ ⟨⟩
    exact h.detach_eq (hlog a hmem)

theorem Service.Changes.detach_eq {s s' : Service} (h : s.Changes .renewal s')
    (hs : s.detach = s) : s'.detach = s' := by
  rw [Service.detach_eq_iff] at hs ⊢
  obtain ⟨hattributes, huser, hrules⟩ := hs
  cases h with
  | attributes h => exact ⟨h.detach_eq hattributes, huser, hrules⟩
  | user h => exact ⟨hattributes, h.detach_eq huser, hrules⟩
  | rules h => exact ⟨hattributes, huser, Renews.detach_eq h hrules⟩
  | rule hmem h =>
    rw [hmem, List.forall_mem_append, List.forall_mem_cons] at hrules
    refine ⟨hattributes, huser, ?_⟩
    rw [List.forall_mem_append, List.forall_mem_cons]
    exact ⟨hrules.1, h.detach_eq hrules.2.1, hrules.2.2⟩

namespace Body

variable {b b' : Body}

theorem detach_struct_iff {b : Block} :
    (struct b).detach = struct b ↔ ∀ a ∈ b.attributes, a.detach = a := by
  rw [detach, struct.injEq, Block.detach_eq_iff]

theorem detach_network_iff {b : Block} :
    (network b).detach = network b ↔ ∀ a ∈ b.attributes, a.detach = a := by
  rw [detach, network.injEq, Block.detach_eq_iff]

theorem detach_group_iff {g : Group} :
    (group g).detach = group g ↔ ∀ e ∈ g.elements, e.detach = e := by
  rw [detach, group.injEq, Group.detach_eq_iff]

theorem detach_protocol_iff {vs : List Value} :
    (protocol vs).detach = protocol vs ↔ ∀ v ∈ vs, v.detach = v := by
  rw [detach, protocol.injEq, map_eq_self_iff]

theorem detach_service_iff {s : Service} : (service s).detach = service s ↔ s.detach = s := by
  rw [detach, service.injEq]

/-- A body without layouts has none when one list in it was renewed. -/
theorem Changes.detach_eq (h : b.Changes .renewal b') (hb : b.detach = b) : b'.detach = b' := by
  cases h with
  | struct h => exact detach_struct_iff.2 (h.detach_eq (detach_struct_iff.1 hb))
  | network h => exact detach_network_iff.2 (h.detach_eq (detach_network_iff.1 hb))
  | group h => exact detach_group_iff.2 (Renews.detach_eq h (detach_group_iff.1 hb))
  | protocol h => exact detach_protocol_iff.2 (Renews.detach_eq h (detach_protocol_iff.1 hb))
  | service h => exact detach_service_iff.2 (h.detach_eq (detach_service_iff.1 hb))

end Body

namespace Definition

variable {d d' : Definition}

/-- An edit keeps a definition detached. -/
theorem Edits.isDetached (h : d.Edits d') (hd : d.IsDetached) : d'.IsDetached := by
  cases h with
  | normalize =>
    -- Putting lists in order and taking layouts away are independent of each other.
    exact d.detach_normalize.trans (congrArg Definition.normalize hd)
  | list h =>
    rw [isDetached_iff] at hd ⊢
    exact ⟨h.detach_eq hd.1, hd.2⟩

/-- A sequence of edits keeps a definition detached. -/
theorem isDetached_of_edits (h : Relation.ReflTransGen Edits d d') (hd : d.IsDetached) :
    d'.IsDetached := by
  induction h with
  | refl => exact hd
  | tail _ hstep ih => exact hstep.isDetached ih

end Definition

/-! ### Files with detached definitions -/

namespace Printer

variable (p : Printer)

/-- The text behind the definitions of a file depends on their layouts only. -/
theorem footer_of_layouts (frame : Frame) {qs rs : List Piece}
    (h : qs.map (·.layout) = rs.map (·.layout)) : p.footer frame qs = p.footer frame rs := by
  have hlast := congrArg List.getLast? h
  rw [List.getLast?_map, List.getLast?_map] at hlast
  rw [footer, footer]
  cases hqs : qs.getLast? <;> cases hrs : rs.getLast? <;> rw [hqs, hrs] at hlast <;> simp_all

/-- What is printed around a piece of a file depends on the layout of the piece, not on its text. -/
theorem exists_around (frame : Option Frame) (before behind : List Definition) (layout : Layout) :
    ∃ front back, ∀ d : Definition, d.layout = layout →
      p.forestText ⟨before ++ d :: behind, frame⟩ = front ++ (p.definitionText d ++ back) := by
  cases frame with
  | none =>
    cases before with
    | nil =>
      refine ⟨[],
        (behind.map p.definitionPiece).flatMap (fun r => "\n\n".toList ++ r.text) ++ ['\n'],
        fun d hd => ?_⟩
      rw [forestText, List.nil_append, List.map_cons]
      dsimp only
      rw [intercalate_eq_flatMap]
      simp [definitionPiece]
    | cons b before =>
      refine ⟨p.definitionText b ++
          (before.map p.definitionPiece).flatMap (fun r => "\n\n".toList ++ r.text) ++
            "\n\n".toList,
        (behind.map p.definitionPiece).flatMap (fun r => "\n\n".toList ++ r.text) ++ ['\n'],
        fun d hd => ?_⟩
      rw [forestText, List.cons_append, List.map_cons]
      dsimp only
      rw [intercalate_eq_flatMap]
      simp [definitionPiece]
  | some frame =>
    let footer := p.footer frame ((before ++ { name := "", body := .protocol [], layout } ::
      behind).map p.definitionPiece)
    have hfooter (d : Definition) (hd : d.layout = layout) :
        p.footer frame ((before ++ d :: behind).map p.definitionPiece) = footer :=
      p.footer_of_layouts frame (by simp [definitionPiece, hd])
    cases before with
    | nil =>
      refine ⟨p.text frame.gap ++ p.frontLead ⟨layout, []⟩,
        p.furtherDefinitions (behind.map p.definitionPiece) ++ footer, fun d hd => ?_⟩
      rw [forestText_framed, hfooter d hd, List.nil_append, List.map_cons, definitions]
      simp [definitionPiece, frontLead, hd]
    | cons b before =>
      refine ⟨p.text frame.gap ++
          p.definitions p.frontLead ((b :: before).map p.definitionPiece) ++
            p.lead "\n\n".toList ⟨layout, []⟩,
        p.furtherDefinitions (behind.map p.definitionPiece) ++ footer, fun d hd => ?_⟩
      rw [forestText_framed, hfooter d hd, List.map_append, List.map_cons, List.map_cons,
        List.cons_append, definitions_append]
      simp [definitionPiece, furtherDefinitions, lead, hd]

end Printer

namespace Definition.IsDetached

variable {d : Definition}

/-- A detached definition is printed in canonical form, and nothing of it comes from the source. -/
theorem definitionText_eq (h : d.IsDetached) (p : Printer) (source : List Char) :
    p.definitionText d = { p with source }.newDefinition d := by
  obtain ⟨-, hlayout, -⟩ := isDetached_iff.1 h
  rw [← p.newDefinition_of_isDetached h, Printer.definitionText, hlayout]

/-- What is printed around a detached definition is printed around any other one in its place. -/
theorem forestText_eq (p : Printer) (frame : Option Frame) (before behind : List Definition) :
    ∃ front back, ∀ d : Definition, d.IsDetached →
      p.forestText ⟨before ++ d :: behind, frame⟩ =
        front ++ ({ p with source := [] }.newDefinition d ++ back) := by
  obtain ⟨front, back, htext⟩ := p.exists_around frame before behind {}
  refine ⟨front, back, fun d hd => ?_⟩
  rw [htext d (isDetached_iff.1 hd).2.1, hd.definitionText_eq]

end Definition.IsDetached

/-! ### The edits of lists and attributes -/

namespace ListEdit

theorem renewal_addMembers (new : List Element) (es : List Member) :
    renewal.members es (addMembers new es) := by
  intro e he
  rcases mem_addMembers.1 he with he | ⟨x, -, rfl⟩
  · exact .inl he
  · exact .inr rfl

theorem renewal_removeMember {element : Element} {es es' : List Member}
    (h : removeMember? element es = some es') : renewal.members es es' :=
  fun _ he => .inl ((sublist_of_removeFirst? h).subset he)

theorem renewal_addValues (texts : List String) (vs : List Value) :
    renewal.values vs (vs ++ texts.map fun text => { content := text }) := by
  intro v hv
  rcases List.mem_append.1 hv with hv | hv
  · exact .inl hv
  · obtain ⟨text, -, rfl⟩ := List.mem_map.1 hv
    exact .inr rfl

theorem renewal_removeValue {text : String} {vs vs' : List Value}
    (h : removeValue? text vs = some vs') : renewal.values vs vs' :=
  fun _ hv => .inl ((sublist_of_removeFirst? h).subset hv)

theorem renewal_setValues (name : String) {vs : List Value} (hvs : ∀ v ∈ vs, v.detach = v)
    (as : List Attribute) : renewal.attributes as (setValues name vs as) := by
  induction as with
  | nil =>
    refine List.forall_mem_singleton.2 (.inr (.inl ?_))
    exact Attribute.detach_eq_iff.2 ⟨AttributeValue.detach_values_iff.2 hvs, rfl, rfl⟩
  | cons b as ih =>
    rw [setValues]
    split
    · refine List.forall_mem_cons.2 ⟨.inr (.inr ⟨b, List.mem_cons_self, vs, hvs, rfl⟩), ?_⟩
      exact fun a ha => .inl (List.mem_cons_of_mem b ha)
    · refine List.forall_mem_cons.2 ⟨.inl List.mem_cons_self, fun a ha => ?_⟩
      rcases ih a ha with ha | ha | ⟨c, hc, ha⟩
      · exact .inl (List.mem_cons_of_mem b ha)
      · exact .inr (.inl ha)
      · exact .inr (.inr ⟨c, List.mem_cons_of_mem b hc, ha⟩)

theorem renewal_setSortedValues (name : String) (texts : List String) (as : List Attribute) :
    renewal.attributes as (setSortedValues name texts as) := by
  refine renewal_setValues name (fun v hv => ?_) as
  obtain ⟨text, -, rfl⟩ := List.mem_map.1 ((stableSort_perm _ _).mem_iff.1 hv)
  rfl

theorem renewal_removeAttribute (name : String) (as : List Attribute) :
    renewal.attributes as (removeAttribute name as) :=
  fun _ ha => .inl (List.mem_of_mem_filter ha)

theorem renewal_addHost {host : Attribute} (h : host.detach = host) (as : List Attribute) :
    renewal.attributes as (sortHosts (as ++ [host])) := by
  intro a ha
  rcases List.mem_append.1 (mem_sortHosts ha) with ha | ha
  · exact .inl ha
  · exact .inr (.inl (List.mem_singleton.1 ha ▸ h))

theorem renewal_insertRule {rule : Rule} (h : rule.detach = rule) (rs : List Rule) :
    renewal.rules rs (insertRule rs rule) := by
  intro r hr
  rcases List.eq_or_mem_of_mem_insertIdx hr with rfl | hr
  · exact .inr h
  · exact .inl hr

theorem renewal_eraseRule (i : Nat) (rs : List Rule) : renewal.rules rs (rs.eraseIdx i) :=
  fun _ hr => .inl (List.eraseIdx_subset hr)

end ListEdit

/-- A new rule has no layouts. -/
theorem Rule.detach_ofParts (action : Action) (src dst : List Element) (prt : List String) :
    (Rule.ofParts action src dst prt).detach = Rule.ofParts action src dst prt := by
  simp [Rule.ofParts, Rule.detach, Union.ofElements, Union.detach, Attribute.ofValues,
    Attribute.detach, AttributeValue.detach, Item.detach]

/-! ### Definitions of a text -/

theorem isDetached_of_parseDefinition {text : String} {d : Definition}
    (h : parseDefinition text = .ok d) : d.IsDetached := by
  obtain ⟨f, -, hcontent⟩ := parseDefinition_eq_ok.1 h
  obtain ⟨d', -, rfl⟩ := List.mem_map.1 (hcontent ▸ List.mem_singleton_self d)
  exact d'.isDetached_detach

/-- The canonical text of a definition without any source. -/
def Definition.canonicalWith (indentation : Indentation) (d : Definition) : String :=
  String.ofList (({ source := [], indentation } : Printer).newDefinition d)

/-- The group of the given hosts. -/
def hostGroup (names : List String) : Definition where
  name := "group:g"
  body := .group { elements := names.map fun name => { content := .named "host" name } }

end PolicyEditor
