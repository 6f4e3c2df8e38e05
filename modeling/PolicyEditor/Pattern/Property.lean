import PolicyEditor.Pattern.Property.Segment
import PolicyEditor.Text.AgeTable

/-!
# Character classes by property

A pattern can name a class by a Unicode property: a property that characters have or do not have, a
general category or a group of them, or a script.  For some other properties the value stands behind
the name.  In names, letter case and separators make no difference, and neither does `is` in front.

## Main definitions

* `CharClass.ofName?` : the class of a property.
* `CharClass.ofValue?` : the class of the characters whose property has a certain value.
* `CharClass.ofPosixName?` : the class of ASCII characters with a traditional name.
-/

namespace PolicyEditor.CharClass

/-- A name without separators and in lower case. -/
def plainName (name : List Char) : List Char :=
  (name.filter fun c => c.toNat < 128 && !(c == ' ' || c == '_' || c == '-')).map Char.toLower

/-- The name of a property or of a value in the form in which names are compared.  The abbreviation
`isc` is not `c` with `is` in front. -/
def normalName (name : List Char) : String :=
  let plain :=
    match name with
    | i :: s :: rest =>
      if i.toLower = 'i' ∧ s.toLower = 's' then
        if plainName rest = ['c'] then "isc".toList else plainName rest
      else plainName name
    | _ => plainName name
  String.ofList plain

/-- The names of a version of the standard. -/
def ageNames (age : Text.AgeEntry) : List String :=
  let major := toString age.major
  let minor := toString age.minor
  [major ++ "." ++ minor, "v" ++ major ++ minor]

/-- The characters with a meaning in a version of the standard, or in those up to it. -/
def ofAgeName? (name : String) : Option CharClass :=
  (Text.ages.findIdx? fun age => (ageNames age).contains name).map fun index =>
    ofRanges ((Text.ages.take (index + 1)).flatMap (·.ranges))

/-- The class of the property, general category or script of a name. -/
def ofName? (name : List Char) : Option CharClass :=
  let name := normalName name
  ((ofPropertyName? name).or (ofCategoryName? name)).or (ofScriptName? name)

/-- The class of the characters for which a property has a value. -/
def ofValue? (property value : List Char) : Option CharClass :=
  let value := normalName value
  match normalName property with
  | "age" => ofAgeName? value
  | "gc" | "generalcategory" => ofCategoryName? value
  | "gcb" | "graphemeclusterbreak" => ofClusterBreakName? value
  | "sb" | "sentencebreak" => ofSentenceBreakName? value
  | "sc" | "script" => ofScriptName? value
  | "scx" | "scriptextensions" => ofExtensionName? value
  | "wb" | "wordbreak" => ofWordBreakName? value
  | _ => none

/-- The class of ASCII characters with a traditional name. -/
def ofPosixName? : (name : String) → Option CharClass
  | "alnum" => some ⟨[(0x30, 0x39), (0x41, 0x5A), (0x61, 0x7A)]⟩
  | "alpha" => some asciiLetter
  | "ascii" => some ⟨[(0x00, 0x7F)]⟩
  | "blank" => some ⟨[(0x09, 0x09), (0x20, 0x20)]⟩
  | "cntrl" => some ⟨[(0x00, 0x1F), (0x7F, 0x7F)]⟩
  | "digit" => some asciiDigit
  | "graph" => some ⟨[(0x21, 0x7E)]⟩
  | "lower" => some ⟨[(0x61, 0x7A)]⟩
  | "print" => some ⟨[(0x20, 0x7E)]⟩
  | "punct" => some ⟨[(0x21, 0x2F), (0x3A, 0x40), (0x5B, 0x60), (0x7B, 0x7E)]⟩
  | "space" => some asciiWhite
  | "upper" => some ⟨[(0x41, 0x5A)]⟩
  | "word" => some asciiWord
  | "xdigit" => some asciiHexDigit
  | _ => none

end PolicyEditor.CharClass
