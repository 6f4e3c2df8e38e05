import PolicyEditor.Error
import PolicyEditor.Text.Pieces

/-!
# Addresses of networks

An address is a number of 32 bits, written as four decimal octets.  A mask selects the network of
an address: its first bits are ones and all others are zeros.

## Main definitions

* `Address.ofText?`, `Address.text` : the reading and the writing of addresses.
* `Address.maskLength?` : the number of ones of a mask.
* `networkAddress` : the network of an address, such as `10.1.1.0/24`.
-/

namespace PolicyEditor

namespace Address

/-- A decimal digit. -/
def isDigit (c : Char) : Bool :=
  '0' ≤ c && c ≤ '9'

/-- The number that decimal digits stand for. -/
def ofDigits (digits : List Char) : Nat :=
  digits.foldl (fun n d => 10 * n + (d.toNat - '0'.toNat)) 0

/-- The number of an octet: up to three digits without a leading zero, at most 255. -/
def octet? (digits : List Char) : Option Nat :=
  if digits.isEmpty || 3 < digits.length || !digits.all isDigit then none
  else if digits.head? == some '0' && digits.length != 1 then none
  else if ofDigits digits ≤ 255 then some (ofDigits digits)
  else none

/-- The address that four octets stand for. -/
def ofText? (text : String) : Option Nat :=
  match (Text.fields '.' text.toList).mapM octet? with
  | some [a, b, c, d] => some (((a * 256 + b) * 256 + c) * 256 + d)
  | _ => none

/-- The four octets of an address. -/
def text (address : Nat) : String :=
  let octet := fun unit => toString (address / unit % 256)
  octet 0x1000000 ++ "." ++ octet 0x10000 ++ "." ++ octet 0x100 ++ "." ++ octet 1

/-- The number of ones at the front of a number of 32 bits. -/
def leadingOnes (n : Nat) : Nat :=
  ((List.range 32).takeWhile fun i => n.testBit (31 - i)).length

/-- The number of zeros at the end of a number of 32 bits. -/
def trailingZeros (n : Nat) : Nat :=
  ((List.range 32).takeWhile fun i => !n.testBit i).length

/-- The number of ones of a mask, if all of them stand in front of its zeros. -/
def maskLength? (mask : Nat) : Option Nat :=
  if leadingOnes mask + trailingZeros mask = 32 then some (leadingOnes mask) else none

end Address

/-- The network of the address `ip` under a mask, such as `10.1.1.0/24`. -/
def networkAddress (ip : String) (mask : Option String) : Except PolicyError String :=
  match Address.ofText? ip with
  | none => .error (.invalidArgument (.address ip))
  | some address =>
    let maskText := mask.getD ""
    match Address.ofText? maskText with
    | none => .error (.invalidArgument (.mask maskText))
    | some mask =>
      match Address.maskLength? mask with
      | none => .error (.invalidArgument (.mask maskText))
      | some length => .ok (Address.text (address &&& mask) ++ "/" ++ toString length)

end PolicyEditor
