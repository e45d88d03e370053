/-!
# Shortest decimals

The decimal with the fewest digits among those that read back as a given binary floating point number; of several such
decimals the one nearest to the number. All arithmetic is on natural numbers.
-/

namespace Invocation

def twoTo (n : Nat) : Nat := Nat.pow 2 n

def tenTo (n : Nat) : Nat := Nat.pow 10 n

/-- The positive number `digits * 10 ^ (point - length of digits)`; the last digit is not zero. -/
structure Decimal where
  digits : Nat
  point : Int
deriving DecidableEq

namespace Decimal

def digitCount (n : Nat) : Nat := (Nat.toDigits 10 n).length

/-- The number without the zeros at its end, and how many those were. -/
def stripZeros (fuel n : Nat) : Nat × Nat :=
  match fuel with
  | 0 => (n, 0)
  | fuel + 1 =>
    if n ≠ 0 ∧ n % 10 = 0 then
      let (m, zeros) := stripZeros fuel (n / 10)
      (m, zeros + 1)
    else (n, 0)

/-- The decimal `n * 10 ^ scale`. -/
def ofScaled (n : Nat) (scale : Int) : Decimal :=
  let (digits, _) := stripZeros (digitCount n) n
  ⟨digits, digitCount n + scale⟩

/-! ## The interval of a binary number -/

/-- The binary number `value / unit` and the bounds of what rounds to it, all over one denominator. -/
structure Interval where
  low : Nat
  value : Nat
  high : Nat
  unit : Nat
  closed : Bool

/-- The interval of `m * 2 ^ q`. Below a power of two its lower half is only half as wide, except at the least
exponent. -/
def Interval.ofBinary (m : Nat) (q : Int) : Interval :=
  let narrow := m = twoTo 52 ∧ q > -1074
  let up := twoTo (q - 2).toNat
  { low := (4 * m - if narrow then 1 else 2) * up
    value := 4 * m * up
    high := (4 * m + 2) * up
    unit := twoTo (2 - q).toNat
    closed := m % 2 = 0 }

/-- Whether `n * 10 ^ scale` lies in the interval. -/
def Interval.contains (i : Interval) (n : Nat) (scale : Int) : Bool :=
  let point := n * tenTo scale.toNat * i.unit
  let down := tenTo (-scale).toNat
  if i.closed then i.low * down ≤ point && point ≤ i.high * down
  else i.low * down < point && point < i.high * down

/-- The place of the decimal point: the value is below `10 ^ point` and not below `10 ^ (point - 1)`. -/
def Interval.point (i : Interval) : Int :=
  let guess : Int := (digitCount i.value : Int) - digitCount i.unit
  if i.value * tenTo (-guess).toNat < i.unit * tenTo guess.toNat then guess else guess + 1

/-- The grid point with `count` digits that lies in the interval nearest to the value; of two equally near ones the
even. -/
def Interval.nearest? (i : Interval) (count : Nat) : Option Decimal :=
  let scale := i.point - count
  let top := i.value * tenTo (-scale).toNat
  let bottom := i.unit * tenTo scale.toNat
  let below := top / bottom
  let rest := top % bottom
  match i.contains below scale, i.contains (below + 1) scale with
  | false, false => none
  | true, false => some (ofScaled below scale)
  | false, true => some (ofScaled (below + 1) scale)
  | true, true =>
    if 2 * rest < bottom ∨ (2 * rest = bottom ∧ below % 2 = 0) then some (ofScaled below scale)
    else some (ofScaled (below + 1) scale)

/-- Seventeen digits are always enough. -/
def Interval.shortest (i : Interval) : Decimal :=
  ((List.range 17).findSome? fun n => i.nearest? (n + 1)).getD ⟨0, 0⟩

end Decimal

/-! ## Floating point numbers -/

/-- What the bits of a floating point number say. -/
inductive Binary where
  | nan
  | infinite (negative : Bool)
  | finite (negative : Bool) (m : Nat) (q : Int)

def Binary.ofFloat (x : Float) : Binary :=
  let bits := x.toBits.toNat
  let negative := bits / twoTo 63 = 1
  let exponent : Nat := bits / twoTo 52 % 2048
  let fraction : Nat := bits % twoTo 52
  if exponent = 2047 then if fraction = 0 then infinite negative else nan
  else if exponent = 0 then finite negative fraction (-1074)
  else finite negative (twoTo 52 + fraction) ((exponent : Int) - 1075)

end Invocation
