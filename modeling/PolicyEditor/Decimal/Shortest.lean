/-!
# Shortest decimal digits of a floating point number

A positive finite number is `m * 2 ^ q` for natural `m`.  The reals that round to it form an
interval around it, whose ends belong to it if `m` is even.  Its shortest digits are those of the
coarsest decimal grid `10 ^ e` with a point in this interval, and of two such points those of the
nearer one.

## Main definitions

* `Decimal` : digits and a power of ten.
* `Decimal.ofScaled` : the shortest decimal of `m * 2 ^ q`.
* `Decimal.ofFloat?` : the shortest decimal of the magnitude of a number.
-/

namespace PolicyEditor

/-- The decimal `digits * 10 ^ exponent`. -/
structure Decimal where
  digits : Nat
  exponent : Int
deriving DecidableEq, Repr

namespace Decimal

/-- An interval of reals on a common scale: its `value` and the bounds `low` and `high`, all in
units of `1 / unit`. -/
structure Interval where
  low : Nat
  value : Nat
  high : Nat
  unit : Nat
  /-- The bounds belong to the interval. -/
  closed : Bool

/-- The power `b ^ e`, or one if `e` is negative. -/
def power (b : Nat) (e : Int) : Nat :=
  Nat.pow b e.toNat

/-- The interval of `m * 2 ^ q`.  At a power of two the lower neighbour may be nearer. -/
def Interval.ofScaled (m : Nat) (q : Int) (nearBelow : Bool) : Interval :=
  let up := power 2 q
  let low := if nearBelow then 4 * m - 1 else 4 * m - 2
  ⟨low * up, 4 * m * up, (4 * m + 2) * up, 4 * power 2 (-q), m % 2 == 0⟩

/-- The point `n * 10 ^ e` lies in the interval. -/
def Interval.contains (i : Interval) (n : Nat) (e : Int) : Bool :=
  let x := n * power 10 e * i.unit
  let scale := power 10 (-e)
  if i.closed then i.low * scale ≤ x && x ≤ i.high * scale
  else i.low * scale < x && x < i.high * scale

/-- The point `n * 10 ^ e` of the grid below or at the value. -/
def Interval.floorAt (i : Interval) (e : Int) : Nat :=
  i.value * power 10 (-e) / (i.unit * power 10 e)

/-- The digits of the neighbour of the value on the grid `10 ^ e` that lies in the interval; of two
neighbours the nearer one, and of two equally near ones the even one. -/
def Interval.onGrid? (i : Interval) (e : Int) : Option Nat :=
  let n := i.floorAt e
  match i.contains n e, i.contains (n + 1) e with
  | true, false => some n
  | false, true => some (n + 1)
  | false, false => none
  | true, true =>
    let twice := 2 * i.value * power 10 (-e)
    let middle := (2 * n + 1) * power 10 e * i.unit
    if twice < middle then some n
    else if middle < twice then some (n + 1)
    else some (if n % 2 == 0 then n else n + 1)

/-- The first grid with a point in the interval, from `10 ^ top` down to finer ones. -/
def Interval.search (i : Interval) : (steps : Nat) → (top : Int) → Decimal
  | 0, top => ⟨i.floorAt top, top⟩
  | steps + 1, top =>
    match i.onGrid? top with
    | some 0 | none => i.search steps (top - 1)
    | some n => ⟨n, top⟩

/-- The shortest decimal of `m * 2 ^ q`. -/
def ofScaled (m : Nat) (q : Int) (nearBelow : Bool) : Decimal :=
  (Interval.ofScaled m q nearBelow).search 700 310

/-- The number of fractions of a binade, `2 ^ 52`. -/
def fractionCount : Nat := 0x10000000000000

/-- The shortest decimal of the magnitude of a finite number. -/
def ofFloat? (x : Float) : Option Decimal :=
  let bits : Nat := x.toBits.toNat % 0x8000000000000000
  let field : Nat := bits / fractionCount
  let fraction : Nat := bits % fractionCount
  if field = 2047 then none
  else if bits = 0 then some ⟨0, 0⟩
  else if field = 0 then some (ofScaled fraction (-1074) false)
  else some (ofScaled (fractionCount + fraction) ((field : Int) - 1075)
    (fraction == 0 && 1 < field))

end Decimal

end PolicyEditor
