import PolicyEditor.Proofs.Repository.Canonical

/-!
# Descriptions in canonical texts

The canonical text of a definition that was read is read again, and everything in the definition is
as before but for its description.  The reader takes the rest of a line without the white space at
its ends, drops one semicolon, and takes away the white space in front of that.  The printer writes
what is left and no semicolon behind it.  So a description is its own text again if and only if it
has no semicolon at its end.

## Main definitions

* `jottedOwner` : an owner whose description keeps one of two semicolons.

## Main results

* `rereadDescription_eq_iff` : the descriptions that are read again as they are.
* `Definition.spells_canonical` : the canonical text is a text of the definition, but for its
  description.
* `parseDefinition_canonical` : what is read from a canonical text.
-/

namespace PolicyEditor

open Text

/-! ### Lines of descriptions -/

namespace Text

theorem trimEnd_trimEnd (text : List Char) : trimEnd (trimEnd text) = trimEnd text := by
  rw [trimEnd_eq_rdropWhile, trimEnd_eq_rdropWhile, List.rdropWhile_idempotent]

/-- The start of a text without white space in front has none in front either. -/
theorem trimStart_of_isPrefix {text line : List Char} (h : text <+: trimStart line) :
    trimStart text = text := by
  cases text with
  | nil => rfl
  | cons c text =>
    obtain ⟨rest, hrest⟩ := h
    have hhead := List.head?_dropWhile_not isWhite line
    rw [← trimStart, ← hrest, List.cons_append, List.head?_cons] at hhead
    exact List.dropWhile_cons_of_neg (by simpa using hhead)

end Text

/-- A description has no white space at its ends. -/
theorem trim_descriptionOf (line : List Char) :
    trim (descriptionOf line).toList = (descriptionOf line).toList := by
  rw [trim, trimStart_of_isPrefix (descriptionOf_isPrefix line), descriptionOf,
    String.toList_ofList, trimEnd_trimEnd]

/-- A text without white space at its ends is read again without the semicolon at its end. -/
theorem rereadDescription_of_trim {text : String} (h : trim text.toList = text.toList) :
    rereadDescription text = String.ofList (trimEnd (dropLastChar ';' text.toList)) := by
  have hline : trim (' ' :: text.toList) = text.toList := h
  rw [rereadDescription, descriptionOf, hline]

/-- A text without white space at its ends is read again as it is unless it ends in a semicolon. -/
theorem rereadDescription_eq_iff {text : String} (h : trim text.toList = text.toList) :
    rereadDescription text = text ↔ text.toList.getLast? ≠ some ';' := by
  rw [rereadDescription_of_trim h, dropLastChar_eq, ← String.toList_inj, String.toList_ofList]
  by_cases hlast : text.toList.getLast? = some ';'
  · -- What is left behind the semicolon is shorter than the text.
    rw [if_pos hlast]
    refine iff_of_false (fun heq => ?_) (not_not_intro hlast)
    have hne : text.toList ≠ [] := fun hnil => by rw [hnil] at hlast; cases hlast
    have hpos := List.length_pos_of_ne_nil hne
    have hle := (trimEnd_isPrefix text.toList.dropLast).length_le
    rw [heq, List.length_dropLast] at hle
    omega
  · rw [if_neg hlast]
    refine iff_of_true ?_ hlast
    rw [← h, trim, trimEnd_trimEnd]

/-! ### Canonical texts -/

namespace Definition

variable {p : Printer} {d : Definition} {text : String}

/-- The description of a definition with a text in the source has no white space at its ends. -/
theorem HasShape.trim_description {span : Span} {frame : Frame} (h : d.HasShape p span frame) :
    ∀ t ∈ d.body.description, trim t.toList = t.toList := by
  obtain ⟨_, ⟨_, _, _, ⟨header, hheader, -⟩, -⟩, -⟩ := h.frames
  intro t ht
  rw [ht] at hheader
  cases hheader with
  | @present _ _ line => exact trim_descriptionOf line

theorem trim_description_of_parseDefinition (h : parseDefinition text = .ok d) :
    ∀ t ∈ d.body.description, trim t.toList = t.toList := by
  obtain ⟨f, hparse, hcontent⟩ := parseDefinition_eq_ok.1 h
  obtain ⟨d', hd', rfl⟩ := List.mem_map.1 (hcontent ▸ List.mem_singleton_self d)
  have hstands := stands_of_parseFile hparse {}
  have hspan := hstands.spans d' hd'
  have hshape := (hstands.sound.definitions d' hd').2.2.2
  rw [detach, Body.description_detach]
  split at hshape
  · exact hshape.trim_description
  · exact hshape.elim
  · next hnone =>
    rw [hnone] at hspan
    cases hspan

/-- The canonical text of a definition that was read is a text of it, but for its description. -/
theorem spells_canonical (h : parseDefinition text = .ok d) :
    Spells d.canonical.toList d.reread := by
  obtain ⟨hlayout, hstands⟩ := stands_of_parseDefinition h
  obtain ⟨hsound, hintact⟩ := hstands { source := [] }
  have hline := hsound.2.2
  rw [hlayout] at hline
  rw [intact, Bool.and_eq_true] at hintact
  have hspells := spells_newDefinition hsound hintact.1 hline
  rwa [detach_of_parseDefinition h, ← String.toList_ofList (l := ({ source := [] } :
    Printer).newDefinition d)] at hspells

end Definition

/-- The text of one definition is accepted as this definition. -/
theorem parseDefinition_of_spells {text : String} {d : Definition}
    (h : Definition.Spells text.toList d) : parseDefinition text = .ok d := by
  have hstrung : Strung [text.toList] text.toList := by
    simpa using Strung.cons (t := text.toList) .nil .nil
  have hquiet : isQuiet false [] = true := rfl
  obtain ⟨f, hparse, hcontent⟩ := Forest.parse_strung hstrung hquiet (.cons h .nil)
  rw [List.append_nil] at hparse
  exact parseDefinition_eq_ok.2 ⟨f, parseFile_of_parse hparse "definition", hcontent⟩

/-- The canonical text of a definition that was read is accepted, as the definition with its
description read again.  This loses a semicolon at the end of the description with the white space
in front of it, and the definition is the same if and only if there is none. -/
theorem parseDefinition_canonical {text : String} {d : Definition}
    (h : parseDefinition text = .ok d) :
    parseDefinition d.canonical = .ok d.reread ∧
      (∀ t ∈ d.body.description, d.reread.body.description =
        some (String.ofList (trimEnd (dropLastChar ';' t.toList)))) ∧
      (d.reread = d ↔ ∀ t ∈ d.body.description, t.toList.getLast? ≠ some ';') := by
  have htrim := Definition.trim_description_of_parseDefinition h
  refine ⟨parseDefinition_of_spells (Definition.spells_canonical h), fun t ht => ?_, ?_⟩
  · rw [Definition.reread, Body.description_mapDescription, Option.mem_def.1 ht, Option.map_some,
      rereadDescription_of_trim (htrim t ht)]
  · rw [Definition.reread_eq_iff]
    exact forall₂_congr fun t ht => rereadDescription_eq_iff (htrim t ht)

/-- The service with one semicolon behind its description is the same again. -/
theorem parseDefinition_canonical_describedService :
    ∃ d, parseDefinition describedService = .ok d ∧ d.body.description = some "Old" ∧
      parseDefinition d.canonical = .ok d := by
  have hread : ((parseDefinition describedService).toOption.map fun d => d.body.description) =
      some (some "Old") := by
    decide +kernel
  cases hservice : parseDefinition describedService with
  | error _ => simp [hservice, Except.toOption] at hread
  | ok d =>
    rw [hservice] at hread
    have hold : d.body.description = some "Old" := Option.some.inj hread
    obtain ⟨hparse, -, hiff⟩ := parseDefinition_canonical hservice
    refine ⟨d, rfl, hold, ?_⟩
    rwa [hiff.2 fun t ht => ?_] at hparse
    obtain rfl : "Old" = t := Option.some.inj (hold.symm.trans ht)
    decide

/-- An owner whose description keeps one of two semicolons. -/
def jottedOwner : String :=
  "owner:x = \x7b\n description = a;;\n\x7d\n"

/-- The description of this owner loses its semicolon when the canonical text is read. -/
theorem not_parseDefinition_canonical :
    ∃ d e, parseDefinition jottedOwner = .ok d ∧ parseDefinition d.canonical = .ok e ∧
      d.body.description = some "a;" ∧ e.body.description = some "a" := by
  have hread : ((parseDefinition jottedOwner).toOption.bind fun d =>
      (parseDefinition d.canonical).toOption.map fun e =>
        (d.body.description, e.body.description)) = some (some "a;", some "a") := by
    decide +kernel
  cases howner : parseDefinition jottedOwner with
  | error _ => simp [howner, Except.toOption] at hread
  | ok d =>
    cases hcanonical : parseDefinition d.canonical with
    | error _ => simp [howner, hcanonical, Except.toOption] at hread
    | ok e =>
      simp only [howner, hcanonical, Except.toOption, Option.bind_some, Option.map_some,
        Option.some.injEq, Prod.mk.injEq] at hread
      exact ⟨d, e, rfl, hcanonical, hread.1, hread.2⟩

end PolicyEditor
