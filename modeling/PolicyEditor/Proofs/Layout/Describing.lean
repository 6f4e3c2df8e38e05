import PolicyEditor.Proofs.RoundTrip

/-!
# Descriptions for definitions without one

The text of a definition in a file may be exchanged for the text of any other definition: the file
is read, with the other definition in the place.  So a definition in braces without a description
may get one.  On a line of its own behind the opening brace any text is accepted, and nothing else
in the file changes.

This holds for the braces of definitions only.  Attributes have no descriptions, and what stands
behind the opening brace of an attribute is read as the first one of its attributes.

## Main definitions

* `Definition.describe` : a definition with a description.
* `describing` : the line of a description.
* `Frame.OpensAt` : where the opening brace at the end of a header stands in the source.

## Main results

* `Frame.Wraps.parse` : other texts in the places of the definitions are read.
* `Forest.parse_exchange` : the text of one definition is exchanged.
* `Definition.spells_describe` : a line with a description behind the opening brace.
* `parseFile_describe` : the file is read with the description of the line.
-/

namespace PolicyEditor

open Text

variable {p : Printer}

/-! ### Exchanging the text of a definition -/

/-- Trivia in front of statements belongs to the first of them, or else to what follows. -/
theorem Strung.exists_prepend {ts : List (List Char)} {trivia body : List Char}
    (h : Strung ts body) (htrivia : IsTrivia trivia) (rest : List Char) :
    ∃ body' rest', trivia ++ (body ++ rest) = body' ++ rest' ∧ Strung ts body' ∧
      (rest' = rest ∨ rest' = trivia ++ rest) := by
  cases h with
  | nil => exact ⟨[], _, rfl, .nil, .inr rfl⟩
  | @cons lead t body ts hlead hbody =>
    have hstrung := Strung.cons (t := t) (htrivia.append hlead) hbody
    exact ⟨_, rest, by simp, hstrung, .inl rfl⟩

/-- Pieces without separators are statements in their places. -/
theorem Printer.strung_places {qs : List Piece}
    (h : ∀ q ∈ qs, q.layout.Fits p false ∧ q.layout.sep = none) :
    Strung (qs.map (·.text)) (qs.flatMap p.place) := by
  induction qs with
  | nil => exact .nil
  | cons q qs ih =>
    obtain ⟨⟨hfits, hsep⟩, hqs⟩ := List.forall_mem_cons.1 h
    have hstrung := Strung.cons (t := q.text) hfits.lead (ih hqs)
    simpa [Printer.place, hsep, Printer.textOf] using hstrung

/-- Texts of definitions in the places of the definitions of a file are read. -/
theorem Frame.Wraps.parse {frame : Frame} {qs rs : List Piece} {ds : List Definition}
    (h : frame.Wraps p qs) (hseps : ∀ q ∈ qs, q.layout.sep = none) (hne : qs ≠ [])
    (hlayouts : rs.map (·.layout) = qs.map (·.layout))
    (hds : List.Forall₂ Definition.Spells (rs.map (·.text)) ds) :
    ∃ g, Forest.parse (p.text frame.gap ++ (rs.flatMap p.place ++
      suffix frame.closeStart p.source)) = .ok g ∧ g.content = ds := by
  have hgap : IsTrivia (p.text frame.gap) := by
    have hclosed := h.front
    rw [if_neg hne] at hclosed
    exact ⟨h.gap_quiet, hclosed⟩
  have hfits : ∀ r ∈ rs, r.layout.Fits p false ∧ r.layout.sep = none := by
    intro r hr
    obtain ⟨q, hq, hlayout⟩ := List.mem_map.1 (hlayouts ▸ List.mem_map_of_mem hr)
    rw [← hlayout]
    exact ⟨h.fits q hq, hseps q hq⟩
  obtain ⟨body, rest, hbody, hstrung, hrest⟩ :=
    (Printer.strung_places hfits).exists_prepend hgap (suffix frame.closeStart p.source)
  rw [hbody]
  refine Forest.parse_strung hstrung ?_ hds
  rcases hrest with rfl | rfl
  · exact h.footer_quiet
  · rw [isQuiet_append, hgap.quiet, hgap.closed, h.footer_quiet]
    rfl

/-- The printed texts of definitions that were read are texts of them. -/
theorem Definition.spells_of_spans {ds : List Definition}
    (h : ∀ d ∈ ds, d.Sound p ∧ d.intact p = true ∧ d.layout.span.isSome) :
    List.Forall₂ Spells ((ds.map p.definitionPiece).map (·.text)) (ds.map detach) := by
  rw [List.map_map, List.forall₂_map_left_iff, List.forall₂_map_right_iff, List.forall₂_same]
  intro d hd
  obtain ⟨hsound, hintact, hspan⟩ := h d hd
  have hspells := hsound.spells hintact
  rwa [printed, if_pos hspan] at hspells

/-- In a file that was read, the text of one definition may be exchanged for any text of a
definition. -/
theorem Forest.parse_exchange {f : Forest} {before behind : List Definition} {d : Definition}
    (h : parse p.source = .ok f) (hf : f.definitions = before ++ d :: behind) :
    ∃ a b, p.source = a ++ (p.definitionText d ++ b) ∧
      d.layout.span = some ⟨byteLength a, byteLength (a ++ p.definitionText d)⟩ ∧
      ∀ t e, Definition.Spells t e → ∃ g, parse (a ++ (t ++ b)) = .ok g ∧
        g.content = before.map Definition.detach ++ e :: behind.map Definition.detach := by
  obtain ⟨frame, -, hwraps, hds⟩ := parse_wraps h
  simp only [hf, List.forall_mem_append, List.forall_mem_cons] at hwraps hds
  obtain ⟨hbefore, ⟨-, -, -, hsep, -⟩, hbehind⟩ := hds
  let pieces (t : List Char) : List Piece :=
    before.map p.definitionPiece ++ ⟨d.layout, t⟩ :: behind.map p.definitionPiece
  replace hwraps : frame.Wraps p (pieces (p.definitionText d)) := by
    rw [List.map_append, List.map_cons] at hwraps
    exact hwraps
  let front := p.text frame.gap ++
    ((before.map p.definitionPiece).flatMap p.place ++ p.textOf d.layout.lead)
  let back := (behind.map p.definitionPiece).flatMap p.place ++ suffix frame.closeStart p.source
  have htext (t : List Char) : front ++ (t ++ back) =
      p.text frame.gap ++ ((pieces t).flatMap p.place ++ suffix frame.closeStart p.source) := by
    simp [pieces, front, back, Printer.place, hsep, Printer.textOf]
  refine ⟨front, back, by rw [htext, hwraps.text_eq], ?_, fun t e he => ?_⟩
  · have hplaced := hwraps.placed
    rw [Printer.placed_append] at hplaced
    refine hplaced.2.1.span.trans ?_
    simp [front, byteLength_append, Nat.add_assoc]
  · have hseps : ∀ q ∈ pieces (p.definitionText d), q.layout.sep = none := by
      simp only [pieces, List.forall_mem_append, List.forall_mem_cons, List.forall_mem_map]
      exact ⟨fun e he => (hbefore e he).2.2.2.1, hsep, fun e he => (hbehind e he).2.2.2.1⟩
    rw [htext]
    refine hwraps.parse hseps (by simp [pieces]) (by simp [pieces]) ?_
    rw [List.map_append, List.map_cons]
    refine List.rel_append (Definition.spells_of_spans fun e he => ?_)
      (.cons he (Definition.spells_of_spans fun e he => ?_))
    · exact ⟨(hbefore e he).1, (hbefore e he).2.1, (hbefore e he).2.2.2.2⟩
    · exact ⟨(hbehind e he).1, (hbehind e he).2.1, (hbehind e he).2.2.2.2⟩

/-! ### Definitions with a description -/

/-- The body with a description, unless it is a list of values. -/
def Body.describe (text : String) : Body → Body
  | struct b => struct { b with description := some text }
  | network b => network { b with description := some text }
  | group g => group { g with description := some text }
  | protocol values => protocol values
  | service s => service { s with description := some text }

/-- The definition with a description, unless it is a list of values. -/
def Definition.describe (text : String) (d : Definition) : Definition :=
  { d with body := d.body.describe text }

namespace Body

variable {b : Body} {text : String}

theorem bodyPieces_describe (text : String) (b : Body) :
    p.bodyPieces (b.describe text) = p.bodyPieces b := by
  cases b <;> rfl

theorem detach_describe (text : String) (b : Body) :
    (b.describe text).detach = b.detach.describe text := by
  cases b <;> rfl

theorem hasBraces_describe (text : String) (b : Body) :
    (b.describe text).hasBraces = b.hasBraces := by
  cases b <;> rfl

theorem description_describe (hbraces : b.hasBraces = true) :
    (b.describe text).description = some text := by
  cases b <;> first | rfl | cases hbraces

theorem Sound.describe {type : String} (h : b.Sound p type) : (b.describe text).Sound p type := by
  cases b with
  | struct b | network b | group g | protocol values => exact h
  | service s =>
    obtain ⟨htype, hs⟩ := h
    exact ⟨htype, hs.attributes, hs.names, hs.user, hs.user_fits, hs.user_role, hs.rules⟩

/-- With a description in front of them, the attributes may be as they are. -/
theorem intact_describe (h : b.intact p = true) : (b.describe text).intact p = true := by
  cases b with
  | struct b | network b =>
    rw [intact, Bool.and_eq_true] at h
    exact Bool.and_eq_true_iff.2 ⟨h.1, rfl⟩
  | group g | protocol values => rfl
  | service s =>
    rw [intact, Service.intact, Bool.and_eq_true] at h
    exact Bool.and_eq_true_iff.2 ⟨h.1, rfl⟩

/-- The texts between the equals sign and the attributes of a block without description. -/
theorem Opening.eq_brace {opening : List Char} (h : b.Opening opening)
    (hbraces : b.hasBraces = true) (hnone : b.description = none) :
    ∃ t, IsTrivia t ∧ opening = t ++ ['\x7b'] := by
  obtain ⟨header, hheader, hopening⟩ := h
  rw [if_pos hbraces] at hopening
  rw [hnone] at hheader
  cases hheader
  exact hopening

end Body

/-- A line that describes a definition by a text, behind a line feed. -/
def describing (text : List Char) : List Char :=
  "\ndescription = ".toList ++ text

theorem spellsDescription_describing {text : List Char} (h : '\n' ∉ text) :
    SpellsDescription (some (descriptionOf (' ' :: text))) (describing text) := by
  have hline : '\n' ∉ ' ' :: text := by
    rw [List.mem_cons, not_or]
    exact ⟨by decide, h⟩
  exact .present (a := ['\n']) (b := [' ']) ⟨rfl, rfl⟩ .space hline

namespace Definition

variable {d : Definition}

/-- A definition that stands in the source is printed by its frame, and its items fit together. -/
theorem definitionText_eq_framed {span : Span} {frame : Frame} (hintact : d.intact p = true)
    (hspan : d.layout.span = some span) (hframe : d.frame = some frame)
    (hcount : frame.count = (p.bodyPieces d.body).length) :
    p.definitionText d = p.framed span frame (Printer.bodyStyle d.body) (p.bodyPieces d.body) ∧
      p.framedJoined span frame (Printer.bodyStyle d.body) (p.bodyPieces d.body) = true := by
  have hfolded : d.unfolds p span frame = false := by
    rw [unfolds, hcount]
    simp
  rw [intact, hspan, hframe, Bool.and_eq_true] at hintact
  dsimp only at hintact
  rw [hfolded, Bool.false_or] at hintact
  rw [unfolds] at hfolded
  refine ⟨?_, hintact.2⟩
  simp only [Printer.definitionText, hspan, hframe, hfolded, Bool.false_eq_true, if_false]

/-- A definition in braces without description may have a line with one behind its brace. -/
theorem spells_describe (hsound : d.Sound p) (hintact : d.intact p = true) (hplaced : d.Placed p)
    (hbraces : d.body.hasBraces = true) (hnone : d.body.description = none) :
    ∃ span frame opening rest, d.layout.span = some span ∧ d.frame = some frame ∧
      p.text (frame.header span) = opening ++ ['\x7b'] ∧
      p.definitionText d = opening ++ '\x7b' :: rest ∧
      ∀ text, '\n' ∉ text → Spells (opening ++ '\x7b' :: (describing text ++ '\n' :: rest))
        (d.detach.describe (descriptionOf (' ' :: text))) := by
  obtain ⟨hw, ⟨type, htype, hbody⟩, hshape⟩ := hsound
  have hseats := hplaced.seats
  obtain ⟨name, b, ⟨- | span, lead, sep⟩, - | frame⟩ := d
  · cases hseats
  · cases hseats
  · cases hseats
  obtain ⟨header, ⟨t, opening, ht, hopening, rfl⟩, hframes⟩ := hshape.frames
  obtain ⟨a, ha, rfl⟩ := hopening.eq_brace hbraces hnone
  obtain ⟨hprinted, hjoined⟩ := definitionText_eq_framed hintact rfl rfl hseats.count_eq
  have hstyle : (Printer.bodyStyle b).comma = false := by
    cases b <;> first | rfl | cases hbraces
  have hfits := hbody.fits
  rw [hstyle] at hfits
  rw [Body.sign, if_pos hbraces] at hframes
  obtain ⟨body, rest, hframed, hstrung, hrest, -⟩ :=
    hframes.framed_strung (by decide) hstyle hfits hjoined
  refine ⟨span, frame, name.toList ++ (t ++ '=' :: a), body ++ (rest ++ ['\x7d']), rfl, rfl,
    by simp [hframes.header_eq], by simp [hprinted, hframed], fun text hline => ?_⟩
  -- The line feed behind the line belongs to the first item, or to the end of an empty block.
  have hbreak : IsTrivia ['\n'] := ⟨rfl, rfl⟩
  obtain ⟨body', rest', hsplit, hstrung', hrest'⟩ := hstrung.exists_prepend hbreak rest
  have htrivia : IsTrivia rest' := by
    rcases hrest' with rfl | rfl
    · exact hrest
    · exact hbreak.append hrest
  have htail : body' ++ (rest' ++ ['\x7d']) = '\n' :: (body ++ (rest ++ ['\x7d'])) := by
    rw [← List.append_assoc, ← hsplit]
    simp
  have hheader := spellsDescription_describing hline
  rw [← Option.map_id_apply (x := some (descriptionOf (' ' :: text))),
    ← Body.description_describe hbraces] at hheader
  rw [← Body.bodyPieces_describe (descriptionOf (' ' :: text)) b] at hstrung'
  rw [intact, Bool.and_eq_true] at hintact
  have hspells := Body.spells_of_strung (f := id) hbody.describe (Body.intact_describe hintact.1)
    ((Body.hasBraces_describe _ b).trans hbraces) ha hheader hstrung' htrivia
    fun _ => by rw [htail]; rfl
  rw [htail, Body.mapDescription_id, Body.detach_describe] at hspells
  simpa [Definition.describe, Definition.detach] using spells_of_body hw htype ht hspells

end Definition

/-! ### Files with one more description -/

/-- The opening brace at the end of a header stands between the texts `front` and `back`. -/
structure Frame.OpensAt (p : Printer) (span : Span) (frame : Frame) (front back : List Char) :
    Prop where
  source_eq : p.source = front ++ '\x7b' :: back
  header : ∃ before opening, front = before ++ opening ∧ span.start = byteLength before ∧
    p.text (frame.header span) = opening ++ ['\x7b']

/-- Behind the brace of a definition without description, a line with any text is accepted as its
description, and the rest of the file is as before. -/
theorem parseFile_describe {source file : String} {f : Forest} {before behind : List Definition}
    {d : Definition} (h : parseFile source file = .ok f)
    (hf : f.definitions = before ++ d :: behind) (hbraces : d.body.hasBraces = true)
    (hnone : d.body.description = none) :
    ∃ span frame front back, d.layout.span = some span ∧ d.frame = some frame ∧
      frame.OpensAt { source := source.toList } span front back ∧
      ∀ text : String, '\n' ∉ text.toList → ∃ g,
        parseFile (String.ofList (front ++ '\x7b' :: (describing text.toList ++ '\n' :: back)))
          file = .ok g ∧
        g.content = before.map Definition.detach ++
          d.detach.describe (descriptionOf (' ' :: text.toList)) ::
            behind.map Definition.detach := by
  let p : Printer := { source := source.toList }
  have hparse : Forest.parse p.source = .ok f := parse_of_parseFile h
  obtain ⟨a, b, hsource, hplace, hexchange⟩ := Forest.parse_exchange hparse hf
  obtain ⟨-, -, -, hds⟩ := Forest.parse_wraps hparse
  obtain ⟨hsound, hintact, hplaced, -, -⟩ := hds d (by simp [hf])
  obtain ⟨span, frame, opening, rest, hspan, hframe, hheader, htext, hspells⟩ :=
    Definition.spells_describe hsound hintact hplaced hbraces hnone
  have hstart : span.start = byteLength a := by
    rw [hplace, Option.some.injEq] at hspan
    rw [← hspan]
  have hopens : p.source = a ++ opening ++ '\x7b' :: (rest ++ b) := by
    rw [hsource, htext]
    simp
  refine ⟨span, frame, a ++ opening, rest ++ b, hspan, hframe,
    ⟨hopens, a, opening, rfl, hstart, hheader⟩, fun text hline => ?_⟩
  obtain ⟨g, hnew, hcontent⟩ := hexchange _ _ (hspells _ hline)
  refine ⟨g, parseFile_of_parse ?_ file, hcontent⟩
  rw [String.toList_ofList]
  simpa using hnew

/-! ### A network and its host -/

/-- A network with a host in it. -/
def hostedNetwork : String :=
  "network:n = \x7b\n ip = 10.1.1.0/24;\n host:h = \x7b ip = 10.1.1.1; \x7d\n\x7d\n"

/-- The network gets a description with a brace, a comment sign and a semicolon in it. -/
theorem parseFile_describe_hostedNetwork :
    ∃ f d, parseFile hostedNetwork "topology" = .ok f ∧ f.definitions = [d] ∧
      ∃ span frame front back, d.layout.span = some span ∧ d.frame = some frame ∧
        frame.OpensAt { source := hostedNetwork.toList } span front back ∧ ∃ g,
          parseFile (String.ofList (front ++ '\x7b' ::
            (describing "A; \x7b net # 1".toList ++ '\n' :: back))) "topology" = .ok g ∧
          g.content = [d.detach.describe "A; \x7b net # 1"] := by
  obtain ⟨f, d, hparse, hdefinitions, hbraces, hnone⟩ :
      ∃ f d, parseFile hostedNetwork "topology" = .ok f ∧ f.definitions = [d] ∧
        d.body.hasBraces = true ∧ d.body.description = none :=
    ⟨_, _, rfl, rfl, rfl, rfl⟩
  refine ⟨f, d, hparse, hdefinitions, ?_⟩
  have hsplit : f.definitions = [] ++ d :: [] := hdefinitions
  obtain ⟨span, frame, front, back, hspan, hframe, hopens, haccepts⟩ :=
    parseFile_describe hparse hsplit hbraces hnone
  have hline : descriptionOf (' ' :: "A; \x7b net # 1".toList) = "A; \x7b net # 1" := by
    decide +kernel
  obtain ⟨g, hnew, hcontent⟩ := haccepts "A; \x7b net # 1" (by decide)
  rw [hline] at hcontent
  exact ⟨span, frame, front, back, hspan, hframe, hopens, g, hnew, hcontent⟩

/-- The text in front of the brace of the host. -/
def beforeHost : List Char :=
  "network:n = \x7b\n ip = 10.1.1.0/24;\n host:h = ".toList

/-- The text behind the brace of the host. -/
def behindHost : List Char :=
  " ip = 10.1.1.1; \x7d\n\x7d\n".toList

/-- Behind the brace of the host, a line with a description is not accepted. -/
theorem not_parseFile_describe :
    ∃ f b a hosts span frame e, parseFile hostedNetwork "topology" = .ok f ∧
      f.definitions.map (·.body) = [.network b] ∧ a ∈ b.attributes ∧ a.value = .block hosts ∧
      a.layout.span = some span ∧ a.frame = some frame ∧
      frame.OpensAt { source := hostedNetwork.toList } span beforeHost behindHost ∧
      parseFile (String.ofList (beforeHost ++ '\x7b' ::
        (describing "The host".toList ++ '\n' :: behindHost))) "topology" = .error e := by
  have hopens : Frame.OpensAt { source := hostedNetwork.toList } ⟨34, 61⟩ ⟨44, 45, 59, false, 1⟩
      beforeHost behindHost :=
    ⟨rfl, "network:n = \x7b\n ip = 10.1.1.0/24;\n ".toList, "host:h = ".toList, rfl, rfl, rfl⟩
  have hnone : (parseFile (String.ofList (beforeHost ++ '\x7b' ::
      (describing "The host".toList ++ '\n' :: behindHost))) "topology").toOption = none := by
    decide +kernel
  rcases hnew : parseFile (String.ofList (beforeHost ++ '\x7b' ::
    (describing "The host".toList ++ '\n' :: behindHost))) "topology" with e | g
  · exact ⟨_, _, _, _, _, _, e, rfl, rfl, .tail _ (.head _), rfl, rfl, rfl, hopens, rfl⟩
  · rw [hnew] at hnone
    cases hnone

end PolicyEditor
