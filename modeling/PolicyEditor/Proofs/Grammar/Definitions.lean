import PolicyEditor.Proofs.Grammar.Services
import PolicyEditor.Source

/-!
# Texts of definitions and files

This file completes the grammar: a definition has a typed name, whose type selects the grammar of
its body, and a file is a list of definitions with blanks and comments around them.  Every text of
the grammar is read, and as the definition that it stands for.

## Main definitions

* `Block.Spells`, `Group.Spells`, `Body.Spells`, `Definition.Spells` : the texts of definitions.
* `Forest.content` : the definitions of a file without any layout.

## Main results

* `Definition.read_accepts` : the text of a definition is read.
* `Forest.parse_strung` : the texts of definitions one after the other are a file of these
  definitions.
-/

namespace PolicyEditor

open Text

/-! ### Bodies -/

theorem followsDescription_of_append {d : String} {text rest : List Char}
    (h : text.head? = some '\n') : FollowsDescription (some d) (text ++ rest) := by
  rw [FollowsDescription, List.head?_append, h]
  rfl

namespace Block

/-- The texts of the body of a structured definition or a network. -/
inductive Spells : List Char → Block → Prop
  | mk {a header body c : List Char} {description : Option String} {ts : List (List Char)}
    {attributes : List Attribute} (ha : IsTrivia a) (hheader : SpellsDescription description header)
    (hfollows : description.isSome → (body ++ (c ++ ['\x7d'])).head? = some '\n')
    (hdescribable : Describable description attributes = true) (hbody : Strung ts body)
    (hitems : List.Forall₂ Attribute.Spells ts attributes) (hc : IsTrivia c) :
    Spells (a ++ '\x7b' :: (header ++ (body ++ (c ++ ['\x7d'])))) { description, attributes }

/-- The text of a block is read. -/
theorem read_accepts {t : List Char} {b : Block} (h : Spells t b) :
    Accepts read t (fun _ => True) (fun p => p.1.detach = b) := by
  intro n lead rest hlead _
  cases h with
  | @mk a header body c description ts attributes ha hheader hfollows hdescribable hbody hitems
      hc =>
    obtain ⟨t, m, hopen⟩ := Cursor.expectAs_sign (n := n)
      (r := header ++ (body ++ (c ++ '\x7d' :: rest))) (hlead.append ha) (κ := .openBrace) rfl
      Token.Kind.openBrace.describe
    have hrest : FollowsDescription description (body ++ (c ++ '\x7d' :: rest)) := by
      cases description with
      | none =>
        refine followsDescription_strung hbody hitems hdescribable fun _ n => ?_
        refine Cursor.seesKey_eq_false (Cursor.seesWord_eq_false ?_ _) _
        rw [kindAhead?_append_sign (κ := .closeBrace) hc rfl]
        decide
      | some description =>
        rw [show body ++ (c ++ '\x7d' :: rest) = body ++ (c ++ ['\x7d']) ++ rest by simp]
        exact followsDescription_of_append (hfollows rfl)
    obtain ⟨m₁, hdescription⟩ := readDescription_accepts hheader hrest m
    have hentries : List.Forall₂ (fun t a => OpensWithout .closeBrace t ∧
        Accepts Attribute.read t (fun _ => True) (·.detach = a)) ts attributes :=
      hitems.imp fun t a h => ⟨h.opensWithout (by decide), Attribute.read_accepts h⟩
    obtain ⟨attributes', frame, m₂, hread, hdetach⟩ := readBlock_strung hbody hentries hc m₁ rest
    refine ⟨({ description, attributes := attributes' }, frame), m₂, ?_, ?_⟩
    · simp only [List.append_assoc, List.cons_append, List.nil_append] at hopen ⊢
      refine Except.bind_eq_ok.2 ⟨_, hopen, Except.bind_eq_ok.2 ⟨_, hdescription, ?_⟩⟩
      exact Except.bind_eq_ok.2 ⟨_, hread, rfl⟩
    · simp only [detach, detachAttributes_eq_map, hdetach]

end Block

namespace Group

/-- The texts of the body of an element list definition. -/
inductive Spells : List Char → Group → Prop
  | mk {header body : List Char} {description : Option String} {ts : List (List Char)}
    {es : List Element} (hheader : SpellsDescription description header)
    (hfollows : description.isSome → (body ++ [';']).head? = some '\n') (hbody : Separated ts body)
    (hitems : Element.SpellsItems ts es) :
    Spells (header ++ (body ++ [';'])) { description, elements := es.map fun e => { content := e } }

/-- The text of an element list definition is read. -/
theorem read_accepts {t : List Char} {g : Group} (h : Spells t g) (n : Nat) (rest : List Char) :
    ∃ p m, read ⟨n, t ++ rest⟩ = .ok (p, ⟨m, rest⟩) ∧ p.1.detach = g := by
  cases h with
  | @mk header body description ts es hheader hfollows hbody hitems =>
    have hrest : FollowsDescription description (body ++ ';' :: rest) := by
      cases description with
      | none =>
        exact fun n => Cursor.seesKey_eq_false (Element.seesWord_items_eq_false
          (κ := .semicolon) rfl (.inl rfl) hbody hitems.opensTyped (by decide) (by decide) n
          rest) _
      | some description =>
        rw [show body ++ ';' :: rest = body ++ [';'] ++ rest by simp]
        exact followsDescription_of_append (hfollows rfl)
    obtain ⟨m, hdescription⟩ := readDescription_accepts hheader hrest n
    obtain ⟨items, frame, m', hread, hcontents⟩ := Element.readUnion_accepts hbody hitems m rest
    refine ⟨({ description, elements := items.map fun p => ⟨p.1, p.2⟩ }, frame), m', ?_, ?_⟩
    · simp only [List.append_assoc, List.cons_append, List.nil_append]
      exact Except.bind_eq_ok.2 ⟨_, hdescription, Except.bind_eq_ok.2 ⟨_, hread, rfl⟩⟩
    · simp only [detach, ← hcontents, List.map_map]
      rfl

end Group

namespace Body

/-- A type whose definitions are structured or lists of values. -/
def IsOther (type : String) : Prop :=
  (¬ (type = "group" ∨ type = "pathrestriction")) ∧ type ≠ "service" ∧ type ≠ "network"

/-- The texts of the body of a definition of the given type. -/
inductive Spells (type : String) : List Char → Body → Prop
  | group {t : List Char} {g : Group} (htype : type = "group" ∨ type = "pathrestriction")
    (h : Group.Spells t g) : Spells type t (group g)
  | service {t : List Char} {s : Service} (htype : type = "service") (h : Service.Spells t s) :
    Spells type t (service s)
  | network {t : List Char} {b : Block} (htype : type = "network") (h : Block.Spells t b) :
    Spells type t (network b)
  | struct {t : List Char} {b : Block} (htype : IsOther type) (h : Block.Spells t b) :
    Spells type t (struct b)
  | protocol {body : List Char} {ts : List (List Char)} {vs : List String} (htype : IsOther type)
    (hbody : Separated ts body) (hvalues : List.Forall₂ Value.Spells ts vs) :
    Spells type (body ++ [';']) (protocol (vs.map fun v => { content := v }))

/-- The text of a body is read. -/
theorem read_accepts {type : String} {t : List Char} {b : Body} (h : Spells type t b) (n : Nat)
    (rest : List Char) :
    ∃ p m, read type ⟨n, t ++ rest⟩ = .ok (p, ⟨m, rest⟩) ∧ p.1.detach = b := by
  cases h with
  | group htype h =>
    obtain ⟨⟨g, frame⟩, m, hread, rfl⟩ := Group.read_accepts h n rest
    refine ⟨(.group g, frame), m, ?_, rfl⟩
    rw [read, if_pos htype]
    exact Except.bind_eq_ok.2 ⟨_, hread, rfl⟩
  | service htype h =>
    obtain ⟨⟨s, frame⟩, m, hread, rfl⟩ := Service.read_accepts h n [] rest .nil trivial
    refine ⟨(.service s, frame), m, ?_, rfl⟩
    rw [read, if_neg (by rw [htype]; decide), if_pos htype]
    exact Except.bind_eq_ok.2 ⟨_, hread, rfl⟩
  | network htype h =>
    obtain ⟨⟨b, frame⟩, m, hread, rfl⟩ := Block.read_accepts h n [] rest .nil trivial
    refine ⟨(.network b, frame), m, ?_, rfl⟩
    rw [read, if_neg (by rw [htype]; decide), if_neg (by rw [htype]; decide), if_pos htype]
    exact Except.bind_eq_ok.2 ⟨_, hread, rfl⟩
  | @struct _ b htype h =>
    obtain ⟨⟨b', frame⟩, m, hread, rfl⟩ := Block.read_accepts h n [] rest .nil trivial
    have hsees : (⟨n, t ++ rest⟩ : Cursor).sees .openBrace = true := by
      rw [Cursor.sees_iff]
      generalize b'.detach = b at h
      cases h with
      | mk ha =>
        rw [List.append_assoc]
        exact kindAhead?_append_sign (κ := .openBrace) ha rfl _
    refine ⟨(.struct b', frame), m, ?_, rfl⟩
    rw [read, if_neg htype.1, if_neg htype.2.1, if_neg htype.2.2, hsees, if_pos rfl]
    exact Except.bind_eq_ok.2 ⟨_, hread, rfl⟩
  | @protocol body ts vs htype hbody hvalues =>
    obtain ⟨values, frame, m, hread, hdetach⟩ := Value.readList_accepts hbody hvalues n rest
    have hopens := forall_of_forall₂
      (fun t v (h : Value.Spells t v) => h.opensWithout (κ := .openBrace) rfl) hvalues
    have hsees : (⟨n, body ++ ';' :: rest⟩ : Cursor).sees .openBrace = false :=
      Cursor.sees_eq_false (hbody.kindAhead_ne (κ := .semicolon) rfl (by decide) hopens rest)
    refine ⟨(.protocol values, frame), m, ?_, by simp only [detach, hdetach]⟩
    rw [read, if_neg htype.1, if_neg htype.2.1, if_neg htype.2.2]
    simp only [List.append_assoc, List.cons_append, List.nil_append]
    rw [hsees, if_neg Bool.false_ne_true]
    exact Except.bind_eq_ok.2 ⟨_, hread, rfl⟩

end Body

/-! ### Definitions and files -/

namespace Definition

/-- The texts of a definition. -/
inductive Spells : List Char → Definition → Prop
  | mk {w a t : List Char} {type : String} {body : Body} (hw : IsWord w)
    (htype : definitionType? (String.ofList w) = some type) (ha : IsTrivia a)
    (hbody : Body.Spells type t body) :
    Spells (w ++ (a ++ '=' :: t)) { name := String.ofList w, body }

theorem Spells.opensWithout {t : List Char} {d : Definition} (h : Spells t d) {κ : Token.Kind}
    (hkind : κ ≠ .word) : OpensWithout κ t := by
  cases h with
  | mk hw => exact hw.opensWithout hkind _

/-- The text of a definition is read. -/
theorem read_accepts {t : List Char} {d : Definition} (h : Spells t d) :
    Accepts read t (fun _ => True) (·.detach = d) := by
  intro n lead rest hlead _
  cases h with
  | @mk w a t type body hw htype ha hbody =>
    obtain ⟨name, m, t', m₁, hname, htext, hequals⟩ := Cursor.expectAs_keyed (n := n)
      (r := t ++ rest) (κ := .equals) hlead hw ha rfl "definition"
    obtain ⟨⟨body', frame⟩, m₂, hread, rfl⟩ := Body.read_accepts hbody m₁ rest
    refine ⟨{ name := String.ofList w, body := body', frame := some frame }, m₂, ?_, rfl⟩
    simp only [List.append_assoc, List.cons_append]
    refine Except.bind_eq_ok.2 ⟨_, hname, ?_⟩
    simp only [htext, htype]
    exact Except.bind_eq_ok.2 ⟨_, hequals, Except.bind_eq_ok.2 ⟨_, hread, rfl⟩⟩

end Definition

namespace Forest

/-- The definitions of a file without any layout. -/
def content (f : Forest) : List Definition :=
  f.definitions.map Definition.detach

/-- Definitions are read one after the other up to the end of the text. -/
theorem readDefinitions_strung {ts : List (List Char)} {text rest : List Char} (h : Strung ts text)
    (hrest : isQuiet false rest = true) {ds : List Definition}
    (hall : List.Forall₂ Definition.Spells ts ds) (limit : Nat) (hlimit : ts.length < limit)
    (previous : Option Nat) (n : Nat) :
    ∃ definitions c, readDefinitions limit previous ⟨n, text ++ rest⟩ = .ok (definitions, c) ∧
      definitions.map Definition.detach = ds := by
  induction h generalizing ds limit previous n with
  | nil =>
    cases hall
    obtain ⟨limit, rfl⟩ : ∃ k, limit = k + 1 := ⟨limit - 1, by omega⟩
    have hend : (⟨n, rest⟩ : Cursor).atEnd = true :=
      Cursor.atEnd_iff.2 (kindAhead?_of_isQuiet hrest)
    refine ⟨[], ⟨n, rest⟩, ?_, rfl⟩
    rw [readDefinitions, List.nil_append, if_pos hend]
  | @cons trivia t text ts htrivia _ ih =>
    obtain _ | ⟨hd, hall⟩ := hall
    obtain ⟨limit, rfl⟩ : ∃ k, limit = k + 1 := ⟨limit - 1, by omega⟩
    obtain ⟨d, m, hread, rfl⟩ := Definition.read_accepts hd n trivia (text ++ rest) htrivia trivial
    have hend : (⟨n, trivia ++ (t ++ (text ++ rest))⟩ : Cursor).atEnd = false :=
      (hd.opensWithout (κ := .comma) (by decide)).atEnd_eq_false htrivia n (text ++ rest)
    let start := (⟨n, trivia ++ (t ++ (text ++ rest))⟩ : Cursor).start
    let layout := Layout.placed previous start m
    obtain ⟨ds, c, hds, rfl⟩ := ih hall limit (by simpa using hlimit) (some layout.finish) m
    refine ⟨{ d with layout } :: ds, c, ?_, rfl⟩
    simp only [List.append_assoc]
    rw [readDefinitions, hend, if_neg Bool.false_ne_true]
    exact Except.bind_eq_ok.2 ⟨_, hread, Except.bind_eq_ok.2 ⟨_, hds, rfl⟩⟩

/-- The texts of definitions one after the other are a file of these definitions. -/
theorem parse_strung {ts : List (List Char)} {text rest : List Char} (h : Strung ts text)
    (hrest : isQuiet false rest = true) {ds : List Definition}
    (hall : List.Forall₂ Definition.Spells ts ds) :
    ∃ f, parse (text ++ rest) = .ok f ∧ f.content = ds := by
  have hlength := h.length_le (forall_of_forall₂ (P := fun t => 0 < t.length)
    (fun t d hd => (Definition.Spells.opensWithout hd (κ := .comma) (by decide)).length_pos) hall)
  obtain ⟨definitions, c, hread, hdetach⟩ := readDefinitions_strung h hrest hall
    ((text ++ rest).length + 1) (by rw [List.length_append]; omega) none 0
  exact ⟨{ definitions, frame := _ }, Except.bind_eq_ok.2 ⟨_, hread, rfl⟩, hdetach⟩

end Forest

end PolicyEditor
