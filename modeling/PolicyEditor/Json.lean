import PolicyEditor.Decimal.Shortest
import PolicyEditor.Text.Quoted

/-!
# JSON values

Job files and the parameters of jobs are JSON values.  A number is an integer if it is written
without fraction and exponent and fits into 64 bits, and a floating point number otherwise.  The
members of an object are kept in the order of their keys.

## Main definitions

* `Json` : a JSON value.
* `Json.insertMember` : an object with one more member.
* `Json.describe` : a value as messages about wrong types call it.
-/

namespace PolicyEditor

/-- A JSON value. -/
inductive Json where
  | null
  | bool (b : Bool)
  | integer (n : Int)
  | float (x : Float)
  | string (s : String)
  | array (items : List Json)
  | object (members : List (String × Json))
deriving Inhabited

namespace Json

/-- The members of an object with one more member, in the order of their keys.  A member with the
same key is replaced. -/
def insertMember (key : String) (value : Json) : List (String × Json) → List (String × Json)
  | [] => [(key, value)]
  | (k, v) :: members =>
    if key = k then (key, value) :: members
    else if key < k then (key, value) :: (k, v) :: members
    else (k, v) :: insertMember key value members

/-- The member `key` of an object. -/
def member? (key : String) (members : List (String × Json)) : Option Json :=
  (members.find? (·.1 == key)).map (·.2)

/-- The number of negative integers of 64 bits, `2 ^ 63`. -/
def int64Bound : Nat := 0x8000000000000000

/-- The integer fits into 64 bits with a sign. -/
def isInt64 (n : Int) : Bool :=
  -int64Bound ≤ n && n < int64Bound

/-! ### Texts of numbers -/

/-- The text of a decimal: positional for magnitudes from `10 ^ -5` up to `10 ^ 16`, and with an
exponent otherwise, which has a sign.  A positional number has a point. -/
def decimalText (d : Decimal) : String :=
  let digits := Nat.toDigits 10 d.digits
  let length : Int := digits.length
  let point := length + d.exponent
  String.ofList <|
    if 0 ≤ d.exponent ∧ point ≤ 16 then
      digits ++ List.replicate d.exponent.toNat '0' ++ ['.', '0']
    else if 0 < point ∧ point ≤ 16 then
      digits.take point.toNat ++ '.' :: digits.drop point.toNat
    else if -5 < point ∧ point ≤ 0 then
      ['0', '.'] ++ List.replicate (-point).toNat '0' ++ digits
    else
      let fraction := digits.drop 1
      digits.take 1 ++ (if fraction.isEmpty then [] else '.' :: fraction) ++ ['e'] ++
        (if 0 < point then ['+'] else []) ++ (toString (point - 1)).toList

/-- The text of a floating point number with the fewest digits that read back. -/
def floatText (x : Float) : String :=
  let sign := if x.toBits.toNat < int64Bound then "" else "-"
  match Decimal.ofFloat? x with
  | some d => sign ++ decimalText d
  | none => sign ++ "inf"

/-- A value as messages about wrong types call it. -/
def describe : Json → String
  | null => "null"
  | bool b => s!"boolean `{b}`"
  | integer n => s!"integer `{n}`"
  | float x => s!"floating point `{floatText x}`"
  | string s => "string " ++ Text.quoted s
  | array _ => "sequence"
  | object _ => "map"

end Json

end PolicyEditor
