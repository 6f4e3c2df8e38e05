import PolicyEditor.Proofs.Layout.Sources

/-!
# Rendering a file that was not edited

The text of a file that was read and not edited is its source, whatever indentation new lines would
have.

## Main results

* `stands_of_parseFile` : a file that was read is sound and intact for its source.
* `render_of_parseFile` : the text of a file that was not edited is its source.
* `parseDefinition_eq_ok` : the texts that are accepted as one definition.
-/

namespace PolicyEditor

/-- A source that is accepted is read by the grammar. -/
theorem parse_of_parseFile {source file : String} {f : Forest} (h : parseFile source file = .ok f) :
    Forest.parse source.toList = .ok f := by
  rw [parseFile] at h
  cases hparse : Forest.parse source.toList with
  | error fault =>
    rw [hparse] at h
    cases h
  | ok g =>
    rw [hparse] at h
    cases h
    rfl

theorem parseFile_of_parse {source : String} {f : Forest} (h : Forest.parse source.toList = .ok f)
    (file : String) : parseFile source file = .ok f := by
  rw [parseFile, h]
  rfl

/-- A text is accepted as a definition if it is a file with this definition only. -/
theorem parseDefinition_eq_ok {text : String} {d : Definition} :
    parseDefinition text = .ok d ↔
      ∃ f, parseFile text "definition" = .ok f ∧ f.content = [d] := by
  rw [parseDefinition, Except.bind_eq_ok]
  refine exists_congr fun f => and_congr_right fun _ => ?_
  rw [Forest.content]
  split
  · next d' hds => simp [hds, pure, Except.pure]
  · next ds hds =>
    refine iff_of_false (fun h => by cases h) fun h => ?_
    obtain ⟨d', hd', -⟩ := List.map_eq_singleton_iff.1 h
    exact hds d' hd'

/-- A file that was read is sound and intact for its source, and its text is the source. -/
theorem stands_of_parseFile {source file : String} {f : Forest} (h : parseFile source file = .ok f)
    (indentation : Indentation) : f.Stands { source := source.toList, indentation } :=
  Forest.parse_stands (parse_of_parseFile h)

/-- The text of a file that was not edited is its source, byte for byte. -/
theorem render_of_parseFile {source file : String} {f : Forest} (h : parseFile source file = .ok f)
    (indentation : Indentation) : f.render source indentation = source := by
  rw [Forest.render, (stands_of_parseFile h indentation).text_eq, String.ofList_toList]

/-- A file with a comment behind an entry and without a final line feed keeps them. -/
theorem render_of_parseFile_group :
    ∃ f, parseFile "group:g =\n host:a, # first\n host:b\n; # end" "policy" = .ok f ∧
      f.render "group:g =\n host:a, # first\n host:b\n; # end" { width := 4 } =
        "group:g =\n host:a, # first\n host:b\n; # end" := by
  refine ⟨_, rfl, ?_⟩
  exact render_of_parseFile (f := _) (rfl : parseFile _ "policy" = .ok _) _

end PolicyEditor
