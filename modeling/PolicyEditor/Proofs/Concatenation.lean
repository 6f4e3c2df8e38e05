import PolicyEditor.Proofs.RoundTrip

/-!
# Files one after the other

The grammar of files is compositional.  A text that is accepted consists of texts of definitions
with blanks and comments between them, and blanks or a comment at its end.  Behind a line feed such
an end is part of the blanks in front of whatever follows, so two texts one after the other are read
as the definitions of the first one and then those of the second one.  No look-ahead, no test of
adjacent bytes and no rest of a line reaches from one of them into the other.

## Main results

* `Strung.append_line` : statements, a quiet text and a line feed in front of statements.
* `parseFile_append` : two accepted texts with a line feed between them are accepted, with the
  definitions of both.
-/

namespace PolicyEditor

open Text

/-- Behind a line feed a quiet text is trivia, also if it ends in a comment. -/
theorem IsTrivia.line_of_quiet {text : List Char} (h : isQuiet false text = true) :
    IsTrivia (text ++ ['\n']) :=
  .append_of_newline h ⟨rfl, rfl⟩ fun _ => List.mem_singleton_self _

/-- Statements in front of a quiet text, a line feed and further statements are the statements of
both texts. -/
theorem Strung.append_line {ts us : List (List Char)} {a b q rest : List Char} (ha : Strung ts a)
    (hq : isQuiet false q = true) (hb : Strung us b) (hrest : isQuiet false rest = true) :
    ∃ body rest', a ++ (q ++ '\n' :: (b ++ rest)) = body ++ rest' ∧
      isQuiet false rest' = true ∧ Strung (ts ++ us) body := by
  have hline := IsTrivia.line_of_quiet hq
  induction ha with
  | nil =>
    cases hb with
    | nil =>
      refine ⟨[], q ++ ['\n'] ++ rest, by simp, ?_, .nil⟩
      rw [isQuiet_append, hline.quiet, hline.closed, hrest, Bool.and_self]
    | @cons trivia t text us htrivia hstrung =>
      exact ⟨q ++ ['\n'] ++ trivia ++ (t ++ text), rest, by simp, hrest,
        .cons (hline.append htrivia) hstrung⟩
  | @cons trivia t text ts htrivia _ ih =>
    obtain ⟨body, rest', htext, hrest', hstrung⟩ := ih
    exact ⟨trivia ++ (t ++ body), rest', by simp [htext], hrest', .cons htrivia hstrung⟩

namespace Forest

variable {a b : List Char} {f g : Forest}

/-- Two accepted texts with a line feed between them are accepted, with the definitions of both. -/
theorem parse_append (ha : parse a = .ok f) (hb : parse b = .ok g) :
    ∃ h, parse (a ++ '\n' :: b) = .ok h ∧ h.content = f.content ++ g.content := by
  obtain ⟨ts, body, rest, rfl, hrest, hstrung, hspells⟩ := strung_of_parse ha
  obtain ⟨ts', body', rest', rfl, hrest', hstrung', hspells'⟩ := strung_of_parse hb
  obtain ⟨text, last, htext, hlast, hstrung⟩ := hstrung.append_line hrest hstrung' hrest'
  rw [List.append_assoc, htext]
  exact parse_strung hstrung hlast (List.rel_append hspells hspells')

end Forest

/-- Parsing is compositional: two accepted texts with a line feed between them are accepted, and the
definitions are those of the first text followed by those of the second one, up to their layout. -/
theorem parseFile_append {a b fileA fileB : String} {f g : Forest} (ha : parseFile a fileA = .ok f)
    (hb : parseFile b fileB = .ok g) (file : String) :
    ∃ h, parseFile (a ++ "\n" ++ b) file = .ok h ∧
      h.definitions.map Definition.detach =
        f.definitions.map Definition.detach ++ g.definitions.map Definition.detach := by
  obtain ⟨h, hparse, hcontent⟩ :=
    Forest.parse_append (parse_of_parseFile ha) (parse_of_parseFile hb)
  refine ⟨h, parseFile_of_parse ?_ file, hcontent⟩
  rw [← hparse]
  simp

/-- A comment that is open at the end of the first text does not reach into the second one. -/
theorem parseFile_append_comment :
    ∃ f g h, parseFile "owner:x = \x7b\n a = b;\n\x7d # last" "one" = .ok f ∧
      parseFile "group:g = host:a;" "two" = .ok g ∧
      parseFile ("owner:x = \x7b\n a = b;\n\x7d # last" ++ "\n" ++ "group:g = host:a;") "both" =
        .ok h ∧
      h.definitions.map Definition.detach =
        f.definitions.map Definition.detach ++ g.definitions.map Definition.detach := by
  obtain ⟨f, hf⟩ : ∃ f, parseFile "owner:x = \x7b\n a = b;\n\x7d # last" "one" = .ok f := ⟨_, rfl⟩
  obtain ⟨g, hg⟩ : ∃ g, parseFile "group:g = host:a;" "two" = .ok g := ⟨_, rfl⟩
  obtain ⟨h, hparse, hcontent⟩ := parseFile_append hf hg "both"
  exact ⟨f, g, h, hf, hg, hparse, hcontent⟩

end PolicyEditor
