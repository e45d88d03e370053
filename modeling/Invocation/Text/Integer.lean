import Invocation.Decimal.Layout
import Invocation.Text.Blank
import Invocation.Text.Quoted
import Invocation.Text.Word

/-!
# Integers in texts

An integer may have blanks around it, a sign, the mark of its base, and single low lines between its digits. The digits
of every script count.
-/

namespace Invocation

/-- The greatest number of decimal digits of an integer that is read or written. -/
def greatestDigitCount : Nat := 4300

/-- The report on a text with too many digits. -/
def longIntegerMessage (digits : Nat) : Text :=
  "Exceeds the limit (4300 digits) for integer string conversion: value has " ++ Text.ofNat digits
    ++ " digits; use sys.set_int_max_str_digits() to increase the limit"

/-- The report on a text that is no integer. Of a long text only the beginning is shown. -/
def malformedIntegerMessage (base : Nat) (t : Text) : Text :=
  "invalid literal for int() with base " ++ Text.ofNat base ++ ": " ++ t.quoted.take 200

/-! ## Digits of every script -/

/-- The value of a decimal digit. The digits of a script follow one another. -/
def CodePoint.decimal? (c : CodePoint) : Option Nat :=
  let table := decimalDigits.boundaries
  if c.isDecimalDigit then
    some ((c.toNat - table.getD (RangeTable.rank table c.toNat 0 table.size - 1) 0) % 10)
  else none

namespace Text

/-- Digits of every script as ASCII digits, and blanks outside of ASCII as spaces. -/
def plainNumber (t : Text) : Text :=
  t.map fun c =>
    if c.toNat < 0x7F then c
    else if c.isBlank then ' '
    else ((c.decimal?.bind fun d => (Text.ofNat d).head?).getD c)

/-- Space, tab, and what moves to another line or page. -/
def isNumberBlank (c : CodePoint) : Bool := c = ' ' || c.isBetween '\t' '\r'

/-- What remains of a number without the blanks around it. -/
def trimNumber (t : Text) : Text := dropTrailing isNumberBlank ((plainNumber t).dropWhile isNumberBlank)

/-! ## Reading -/

inductive IntegerFault where
  | malformed
  | tooLong (digits : Nat)
deriving DecidableEq

/-- The letters that mark a base behind a zero. -/
def baseMarks (base : Nat) : List Char :=
  match base with
  | 2 => ['b', 'B']
  | 8 => ['o', 'O']
  | 16 => ['x', 'X']
  | _ => []

/-- What follows the mark of a base in front of digits; a low line may follow the mark. -/
def withoutBaseMark (base : Nat) : Text → Text
  | .scalar '0' :: c :: r =>
    if c.isOneOf (baseMarks base) then (if r.head? = some (.scalar '_') then r.drop 1 else r) else .scalar '0' :: c :: r
  | t => t

def isDigitIn (base : Nat) (c : CodePoint) : Bool := c.digit?.any fun d => decide (d < base)

/-- Whether low lines stand only between digits. -/
def hasSingleLines : Text → Bool
  | [] => true
  | [c] => c ≠ '_'
  | c :: d :: r => !(c = '_' && d = '_') && hasSingleLines (d :: r)

/-- The integer that the text is. Only in base ten, where reading is slow, the number of digits is limited. -/
def readInteger (base : Nat) (t : Text) : Except IntegerFault Int :=
  let (negative, marked) := signOf ((plainNumber t).dropWhile isNumberBlank)
  let size := withoutBaseMark base marked
  let isPart := fun c => isDigitIn base c || c = .scalar '_'
  let part := size.takeWhile isPart
  let digits := part.filter fun c => c ≠ .scalar '_'
  if part.isEmpty || part.head? = some (.scalar '_') || !hasSingleLines part then .error .malformed
  else if base = 10 ∧ greatestDigitCount < digits.length then .error (.tooLong digits.length)
  else if (size.dropWhile isPart).all isNumberBlank then
    let n := (Text.toNat? base digits).getD 0
    .ok (if negative then -(n : Int) else n)
  else .error .malformed

end Text

end Invocation
