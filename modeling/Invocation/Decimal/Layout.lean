import Invocation.Text.Basic
import Invocation.Decimal.Shortest

/-!
# The text of a floating point number

How the digits of a shortest decimal are laid out, and how a decimal text is read.
-/

namespace Invocation

namespace Decimal

/-- Where the plain form ends, and how the exponent of the other form is written. -/
structure Layout where
  leastPlain : Int
  greatestPlain : Int
  exponentDigits : Nat

/-- Plain from `0.0001` up to sixteen digits before the point; otherwise an exponent of at least two digits. -/
def numberLayout : Layout := ⟨-3, 16, 2⟩

def Layout.exponent (l : Layout) (e : Int) : Text :=
  let mark : Text := if e < 0 then "e-" else "e+"
  mark ++ Text.ofNatPadded l.exponentDigits e.natAbs

def Layout.write (l : Layout) (d : Decimal) : Text :=
  let digits := Text.ofNat d.digits
  let count : Int := digits.length
  let whole : Text := digits.take d.point.toNat
  let fraction : Text := digits.drop d.point.toNat
  if d.point < l.leastPlain ∨ l.greatestPlain < d.point then
    let first : Text := digits.take 1
    let others : Text := digits.drop 1
    first ++ (if others.isEmpty then [] else .scalar '.' :: others) ++ l.exponent (d.point - 1)
  else if d.point ≤ 0 then "0." ++ Text.fill (-d.point).toNat '0' ++ digits
  else if count ≤ d.point then digits ++ Text.fill (d.point - count).toNat '0' ++ ".0"
  else whole ++ "." ++ fraction

end Decimal

/-- The shortest text that reads back as the number. -/
def floatText (x : Float) : Text :=
  let sign := fun (negative : Bool) => if negative then ("-" : Text) else []
  match Binary.ofFloat x with
  | .nan => "nan"
  | .infinite negative => sign negative ++ "inf"
  | .finite negative 0 _ => sign negative ++ "0.0"
  | .finite negative m q => sign negative ++ Decimal.numberLayout.write (Decimal.Interval.ofBinary m q).shortest

/-! ## Reading -/

/-- The number nearest to `digits * 10 ^ scale`. Far outside the range of the format nothing has to be computed. -/
def floatOfScaled (digits : Nat) (scale : Int) : Float :=
  let magnitude := Decimal.digitCount digits + scale
  if digits = 0 ∨ magnitude < -400 then 0.0
  else if magnitude > 400 then 1.0 / 0.0
  else if scale < 0 then Float.ofScientific digits true scale.natAbs
  else Float.ofScientific digits false scale.natAbs

/-- A decimal numeral taken apart. -/
structure Numeral where
  negative : Bool
  whole : Text
  fraction : Text
  exponent : Option Int
deriving DecidableEq

/-- An optional sign: whether it is a minus, and what follows it. -/
def signOf : Text → Bool × Text
  | .scalar '-' :: r => (true, r)
  | .scalar '+' :: r => (false, r)
  | t => (false, t)

/-- Digits with an optional sign before them and nothing behind. -/
def Text.toInt? (t : Text) : Option Int :=
  let (negative, digits) := signOf t
  (Text.toNat? 10 digits).map fun n => if negative then -(n : Int) else n

/-- Sign, digits, point, digits and exponent, of which only one digit before the exponent has to be there. -/
def Numeral.read? (t : Text) : Option Numeral :=
  let (negative, t) := signOf t
  let whole := t.takeWhile CodePoint.isAsciiDigit
  let rest := t.dropWhile CodePoint.isAsciiDigit
  let (fraction, rest) :=
    match rest with
    | .scalar '.' :: r => (r.takeWhile CodePoint.isAsciiDigit, r.dropWhile CodePoint.isAsciiDigit)
    | _ => ([], rest)
  if whole.isEmpty && fraction.isEmpty then none
  else
    match rest with
    | [] => some ⟨negative, whole, fraction, none⟩
    | e :: digits =>
      if e.isOneOf ['e', 'E'] then (Text.toInt? digits).map fun n => ⟨negative, whole, fraction, some n⟩
      else none

def Numeral.toFloat (n : Numeral) : Float :=
  let digits := (Text.toNat? 10 (n.whole ++ n.fraction)).getD 0
  let size := floatOfScaled digits (n.exponent.getD 0 - n.fraction.length)
  if n.negative then -size else size

end Invocation
