import PolicyEditor.Text.HiddenTable

/-!
# Quoted text

A message shows a text between double quotes.  Quotes and backslashes in it are escaped, and so are
characters that have no visible form of their own.

## Main definitions

* `Text.quoted` : the quoted form of a text.
-/

namespace PolicyEditor.Text

/-- The escape of a character by its code point. -/
def codeEscape (c : Char) : List Char :=
  "\\u\x7b".toList ++ Nat.toDigits 16 c.toNat ++ ['\x7d']

/-- The quoted form of a character. -/
def quotedChar (c : Char) : List Char :=
  if c = '"' ∨ c = '\\' then ['\\', c]
  else if c = '\n' then "\\n".toList
  else if c = '\r' then "\\r".toList
  else if c = '\t' then "\\t".toList
  else if c = '\x00' then "\\0".toList
  else if hiddenRanges.any fun range => range.1 ≤ c.toNat && c.toNat ≤ range.2 then codeEscape c
  else [c]

/-- The quoted form of a text. -/
def quoted (text : String) : String :=
  String.ofList ('"' :: text.toList.flatMap quotedChar ++ ['"'])

end PolicyEditor.Text
