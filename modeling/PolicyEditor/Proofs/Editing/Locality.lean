import PolicyEditor.Proofs.Editing.Constructs

/-!
# Edits stay where they are made

The items of one node of a file are replaced by any others, while the node keeps its layout and its
frame and all other nodes stay as they were read.  Then the text of the file changes within the span
of this node only, however deep the node lies in it.

## Main definitions

* `Forest.Replaces` : the items of the node at a span are replaced.
* `DiffersAt` : two texts are equal but for a span.

## Main results

* `Forest.Replaces.differs` : the text of a file changes at the span of the node only.
* `render_of_replaces` : so it is for every file that was read.
-/

namespace PolicyEditor

open Text

/-! ### Replaced items -/

/-- The items of the attribute at `span`, or of an attribute in it, are replaced. -/
inductive Attribute.Replaces (span : Span) : Attribute → Attribute → Prop
  | here {name : String} {value value' : AttributeValue} {layout : Layout} {frame : Frame} :
    layout.span = some span →
      Replaces span ⟨name, value, layout, some frame⟩ ⟨name, value', layout, some frame⟩
  | inside {name : String} {as bs : List Attribute} {a a' : Attribute} {layout : Layout}
    {frame : Option Frame} : Replaces span a a' →
      Replaces span ⟨name, .block (as ++ a :: bs), layout, frame⟩
        ⟨name, .block (as ++ a' :: bs), layout, frame⟩

/-- The elements of the union at `span` are replaced. -/
def Union.Replaces (span : Span) (u u' : Union) : Prop :=
  u.layout.span = some span ∧ u.frame.isSome ∧ ∃ elements, u' = { u with elements }

/-- The parts of the rule at `span`, or the items of one of its parts, are replaced. -/
inductive Rule.Replaces (span : Span) (r : Rule) : Rule → Prop
  | here {src dst : Union} {prt : Attribute} {log : Option Attribute} :
    r.layout.span = some span → r.frame.isSome → Replaces span r { r with src, dst, prt, log }
  | src {u : Union} : r.src.Replaces span u → Replaces span r { r with src := u }
  | dst {u : Union} : r.dst.Replaces span u → Replaces span r { r with dst := u }
  | prt {a : Attribute} : r.prt.Replaces span a → Replaces span r { r with prt := a }
  | log {a a' : Attribute} : r.log = some a → a.Replaces span a' →
    Replaces span r { r with log := some a' }

/-- The items of one node in a body are replaced. -/
inductive Body.Replaces (span : Span) : Body → Body → Prop
  | struct {description : Option String} {as bs : List Attribute} {a a' : Attribute} :
    a.Replaces span a' →
      Replaces span (.struct ⟨description, as ++ a :: bs⟩) (.struct ⟨description, as ++ a' :: bs⟩)
  | network {description : Option String} {as bs : List Attribute} {a a' : Attribute} :
    a.Replaces span a' →
      Replaces span (.network ⟨description, as ++ a :: bs⟩) (.network ⟨description, as ++ a' :: bs⟩)
  | entry {s : Service} {as bs : List Attribute} {a a' : Attribute} :
    s.attributes = as ++ a :: bs → a.Replaces span a' →
      Replaces span (.service s) (.service { s with attributes := as ++ a' :: bs })
  | user {s : Service} {u : Union} : s.user.Replaces span u →
    Replaces span (.service s) (.service { s with user := u })
  | rule {s : Service} {rs rs' : List Rule} {r r' : Rule} :
    s.rules = rs ++ r :: rs' → r.Replaces span r' →
      Replaces span (.service s) (.service { s with rules := rs ++ r' :: rs' })

/-- The items of the definition at `span`, or of one node in it, are replaced. -/
inductive Definition.Replaces (span : Span) (d : Definition) : Definition → Prop
  | here {body : Body} : d.layout.span = some span → d.frame.isSome →
    Replaces span d { d with body }
  | inside {body : Body} : d.body.Replaces span body → Replaces span d { d with body }

/-- The items of the node at `span` are replaced by any others. -/
inductive Forest.Replaces (span : Span) (f : Forest) : Forest → Prop
  | mk {ds ds' : List Definition} {d d' : Definition} :
    f.definitions = ds ++ d :: ds' → d.Replaces span d' →
      Replaces span f { f with definitions := ds ++ d' :: ds' }

/-! ### Texts that differ at a span -/

/-- Two texts, of which the first one stands at the position `start`, are equal but for a span. -/
def DiffersAt (start : Nat) (span : Span) (t t' : List Char) : Prop :=
  ∃ a x x' b, t = a ++ (x ++ b) ∧ t' = a ++ (x' ++ b) ∧ span.start = start + byteLength a ∧
    span.stop = start + byteLength (a ++ x)

/-! ### Replaced constructs -/

namespace Construct

/-- The construct at `span`, which is the construct `n` or lies in it, is exchanged for one of the
same layout. -/
def Replaces (span : Span) (n n' : Construct) : Prop :=
  ∃ m m' : Construct, m.layout.span = some span ∧ m'.layout = m.layout ∧ Swaps m m' n n'

namespace Replaces

variable {span : Span} {n n' k k' : Construct}

theorem here (hspan : n.layout.span = some span) (hlayout : n'.layout = n.layout) :
    n.Replaces span n' :=
  ⟨n, n', hspan, hlayout, .here⟩

theorem inside (h : k.Replaces span k') (hrefill : n.Refills n') (before behind : List Construct)
    (hitems : n.items = before ++ k :: behind) (hitems' : n'.items = before ++ k' :: behind) :
    n.Replaces span n' := by
  obtain ⟨m, m', hspan, hlayout, hswaps⟩ := h
  exact ⟨m, m', hspan, hlayout, .inside hrefill hitems hitems' hswaps⟩

end Replaces

end Construct

section Constructs

variable {span : Span}

theorem Attribute.Replaces.replaces {a a' : Attribute} (h : a.Replaces span a') :
    (Construct.attr a).Replaces span (.attr a') := by
  induction h with
  | here hspan => exact .here hspan rfl
  | @inside name as bs _ _ _ _ _ ih =>
    exact ih.inside (.block ..) (as.map .attr) (bs.map .attr) List.map_append List.map_append

theorem Union.Replaces.replaces {u u' : Union} (h : u.Replaces span u') :
    (Construct.union u).Replaces span (.union u') := by
  obtain ⟨hspan, -, elements, rfl⟩ := h
  exact .here hspan rfl

theorem Rule.Replaces.replaces {r r' : Rule} (h : r.Replaces span r') :
    (Construct.rule r).Replaces span (.rule r') := by
  cases h with
  | here hspan => exact .here hspan rfl
  | src h => exact h.replaces.inside (.rule ..) [] _ rfl rfl
  | dst h => exact h.replaces.inside (.rule ..) [.union r.src] _ rfl rfl
  | prt h => exact h.replaces.inside (.rule ..) [.union r.src, .union r.dst] _ rfl rfl
  | log hlog h =>
    exact h.replaces.inside (.rule ..) [.union r.src, .union r.dst, .attr r.prt] []
      (by simp [Construct.items, hlog]) rfl

theorem Definition.Replaces.replaces {d d' : Definition} (h : d.Replaces span d') :
    (Construct.definition d).Replaces span (.definition d') := by
  cases h with
  | here hspan => exact .here hspan rfl
  | @inside body h =>
    obtain ⟨name, b, layout, frame⟩ := d
    cases h with
    | @struct _ as bs _ _ h =>
      exact h.replaces.inside (.definition _ (.struct ..)) (as.map .attr) (bs.map .attr)
        List.map_append List.map_append
    | @network _ as bs _ _ h =>
      exact h.replaces.inside (.definition _ (.network ..)) (as.map .attr) (bs.map .attr)
        List.map_append List.map_append
    | @entry s as bs _ _ hmem h =>
      exact h.replaces.inside (.definition _ (.service ..)) (as.map .attr)
        (bs.map .attr ++ .union s.user :: s.rules.map .rule)
        (by simp [Construct.items, Construct.bodyItems, hmem])
        (by simp [Construct.items, Construct.bodyItems])
    | @user s _ h =>
      exact h.replaces.inside (.definition _ (.service ..)) (s.attributes.map .attr)
        (s.rules.map .rule) rfl rfl
    | @rule s rs rs' _ _ hmem h =>
      exact h.replaces.inside (.definition _ (.service ..))
        (s.attributes.map .attr ++ .union s.user :: rs.map .rule) (rs'.map .rule)
        (by simp [Construct.items, Construct.bodyItems, hmem])
        (by simp [Construct.items, Construct.bodyItems])

/-- The text of a file that was read changes at the span of the node whose items are replaced. -/
theorem Forest.Replaces.differs {p : Printer} {f g : Forest} (h : f.Replaces span g)
    (hf : f.Stands p) : DiffersAt 0 span (p.forestText f) (p.forestText g) := by
  obtain ⟨hmem, h⟩ := h
  obtain ⟨m, m', hspan, hlayout, hswaps⟩ := h.replaces
  obtain ⟨-, a, b, hsource, htext, hspan'⟩ := Forest.Swaps.around (.mk hmem hswaps) hf hlayout
  obtain rfl := Option.some.inj (hspan.symm.trans hspan')
  exact ⟨a, m.text p, m'.text p, b, hf.text_eq.trans hsource, htext, by simp, by simp⟩

end Constructs

/-- If the items of a node of a file are replaced, the text of the file changes within the span of
this node only: all bytes in front of it and behind it stay. -/
theorem render_of_replaces {source file : String} {f g : Forest} {span : Span}
    (h : parseFile source file = .ok f) (hreplaces : f.Replaces span g)
    (indentation : Indentation) :
    ∃ before text behind text', source.toList = before ++ (text ++ behind) ∧
      byteLength before = span.start ∧ byteLength (before ++ text) = span.stop ∧
      (g.render source indentation).toList = before ++ (text' ++ behind) := by
  have hstands := stands_of_parseFile h indentation
  obtain ⟨before, text, text', behind, hf, hg, hstart, hstop⟩ := hreplaces.differs hstands
  rw [hstands.text_eq] at hf
  refine ⟨before, text, behind, text', hf, by simp [hstart], by simp [hstop], ?_⟩
  rw [Forest.render, String.toList_ofList, hg]

/-! ### The addresses of a host -/

/-- A network whose host has the address `a`. -/
def networkSource : String :=
  "network:n = \x7b\n host:h = \x7b ip = a; \x7d\n\x7d\n"

/-- The file of the network whose host has the given addresses. -/
def networkForest (addresses : List Value) : Forest where
  definitions := [{
    name := "network:n"
    body := .network { attributes := [⟨"host:h",
      .block [⟨"ip", .values addresses, { span := some ⟨26, 33⟩ }, some ⟨30, 31, 32, false, 1⟩⟩],
      { span := some ⟨15, 35⟩ }, some ⟨25, 26, 33, false, 1⟩⟩] }
    layout := { span := some ⟨0, 37⟩ }
    frame := some ⟨13, 15, 35, false, 1⟩ }]
  frame := some ⟨0, 0, 37, false, 1⟩

/-- New addresses of the host change the text between its bytes 26 and 33 only. -/
theorem render_of_replaces_addresses :
    ∃ f g, parseFile networkSource "f" = .ok f ∧ f.Replaces ⟨26, 33⟩ g ∧
      g.render networkSource = "network:n = \x7b\n host:h = \x7b ip = b, c; \x7d\n\x7d\n" ∧
      ∃ before text behind text', networkSource.toList = before ++ (text ++ behind) ∧
        byteLength before = 26 ∧ byteLength (before ++ text) = 33 ∧
        (g.render networkSource).toList = before ++ (text' ++ behind) := by
  have hread : parseFile networkSource "f" =
      .ok (networkForest [⟨"a", { span := some ⟨31, 32⟩ }⟩]) := rfl
  have hreplaces : Forest.Replaces ⟨26, 33⟩ (networkForest [⟨"a", { span := some ⟨31, 32⟩ }⟩])
      (networkForest [⟨"b", {}⟩, ⟨"c", {}⟩]) :=
    @Forest.Replaces.mk _ _ [] [] _ _ rfl
      (.inside (@Body.Replaces.network _ _ [] [] _ _ (@Attribute.Replaces.inside _ _ [] [] _ _ _ _
        (.here rfl))))
  refine ⟨_, _, hread, hreplaces, rfl, ?_⟩
  exact render_of_replaces hread hreplaces {}

end PolicyEditor
