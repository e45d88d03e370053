import Invocation.Calendar.Basic
import Invocation.Text.Case
import Invocation.Text.Utf8

/-!
# Date formats

A date format is text with directives. A directive is a percent sign, flags for padding and case, a width, a modifier
and a letter that names a part of the date; one that names nothing is copied. A local time is in no time zone, and the
name of the zone and the distance from universal time are empty.
-/

namespace Invocation

namespace DateFormat

def dayNames : List String := ["Monday", "Tuesday", "Wednesday", "Thursday", "Friday", "Saturday", "Sunday"]

def monthNames : List String :=
  ["January", "February", "March", "April", "May", "June", "July", "August", "September", "October", "November",
    "December"]

/-! ## Directives -/

structure Directive where
  flags : Text
  width : Text
  modifier : Text
  letter : Text

def isFlag (c : CodePoint) : Bool := c.isOneOf ['_', '-', '0', '^', '#']

/-- The directive at the beginning of what follows a percent sign, and what follows it. -/
def Directive.read (t : Text) : Directive × Text :=
  let afterFlags := t.dropWhile isFlag
  let afterWidth := afterFlags.dropWhile CodePoint.isAsciiDigit
  let named := if (afterWidth.take 1).any (·.isOneOf ['E', 'O']) then 1 else 0
  ({ flags := t.takeWhile isFlag
     width := afterFlags.takeWhile CodePoint.isAsciiDigit
     modifier := afterWidth.take named
     letter := (afterWidth.drop named).take 1 },
    afterWidth.drop (named + 1))

theorem Directive.read_length (t : Text) : (Directive.read t).2.length ≤ t.length := by
  have h₁ := (List.dropWhile_suffix isFlag (l := t)).length_le
  have h₂ := (List.dropWhile_suffix CodePoint.isAsciiDigit (l := t.dropWhile isFlag)).length_le
  simp only [Directive.read, List.length_drop]
  omega

namespace Directive

def source (d : Directive) : Text := "%" ++ d.flags ++ d.width ++ d.modifier ++ d.letter

/-- The last padding flag. -/
def padding (d : Directive) : Option CodePoint := (d.flags.filter (·.isOneOf ['_', '-', '0'])).getLast?

def widthNumber (d : Directive) : Nat := (Text.toNat? 10 d.width).getD 0

def wantsUpper (d : Directive) : Bool := d.flags.contains (.scalar '^')

def wantsChange (d : Directive) : Bool := d.flags.contains (.scalar '#')

/-- A text filled up to the width: with spaces, or with zeros where that flag is given. -/
def filled (d : Directive) (t : Text) : Text :=
  Text.padLeft d.widthNumber (if d.padding = some (.scalar '0') then '0' else ' ') t

def cased (d : Directive) (t : Text) : Text := d.filled (if d.wantsUpper then t.upper else t)

/-- A name, which the flag for a change of case sets in capitals. -/
def name (d : Directive) (t : Text) : Text :=
  d.filled (if d.wantsUpper || d.wantsChange then t.upper else t)

/-- A number with at least `digits` digits or blanks in their place. -/
def number (d : Directive) (digits : Nat) (blank : Bool) (n : Int) : Text :=
  let wide := max digits d.widthNumber
  let zeros := d.padding = some (.scalar '0')
  let bare := d.padding = some (.scalar '-')
  if bare then d.filled (Text.ofInt n)
  else if d.padding = some (.scalar '_') || (blank && !zeros) then Text.padLeft wide ' ' (Text.ofInt n)
  else if n < 0 then "-" ++ Text.padLeft (wide - 1) '0' (Text.ofNat n.natAbs)
  else Text.padLeft wide '0' (Text.ofNat n.natAbs)

end Directive

/-! ## Parts of a date -/

def hourOfHalfDay (t : LocalTime) : Nat := if t.hour % 12 = 0 then 12 else t.hour % 12

def halfDay (t : LocalTime) : String := if t.hour < 12 then "AM" else "PM"

def dayName (t : LocalTime) : Text := (dayNames.getD t.date.weekday "" : String)

def monthName (t : LocalTime) : Text := (monthNames.getD (t.date.month - 1) "" : String)

def clock (t : LocalTime) : Text :=
  Text.ofNatPadded 2 t.hour ++ ":" ++ Text.ofNatPadded 2 t.minute ++ ":" ++ Text.ofNatPadded 2 t.second

def slashed (t : LocalTime) : Text :=
  Text.ofNatPadded 2 t.date.month ++ "/" ++ Text.ofNatPadded 2 t.date.day ++ "/"
    ++ Text.ofNatPadded 2 (t.date.year % 100)

def hyphened (t : LocalTime) : Text :=
  Text.ofNat t.date.year ++ "-" ++ Text.ofNatPadded 2 t.date.month ++ "-" ++ Text.ofNatPadded 2 t.date.day

def abbreviated (name : Text) : Text := name.take 3

/-- Date and time as one line. -/
def line (t : LocalTime) : Text :=
  abbreviated (dayName t) ++ " " ++ abbreviated (monthName t) ++ " " ++ Text.padLeft 2 ' ' (Text.ofNat t.date.day)
    ++ " " ++ clock t ++ " " ++ Text.ofNat t.date.year

def secondsOfEpoch (t : LocalTime) : Int := (t.instant - (LocalTime.mk ⟨1970, 1, 1⟩ 0 0 0 0).instant).fdiv 1000000

/-! ## Writing -/

/-- Whether the letter may carry the modifier. -/
def allowsModifier (letter modifier : Char) : Bool :=
  if modifier = 'E' then !(['a', 'A', 'b', 'B', 'h', 'D', 'F', 'd', 'e', 'H', 'I', 'j', 'k', 'l', 'm', 'M', 'S', 'U',
    'V', 'g', 'G', 'W', 'w'].contains letter)
  else !(['a', 'A', 'c', 'x', 'D', 'F', 'X', 'Y'].contains letter)

def Directive.writeLetter (d : Directive) (t : LocalTime) : Char → Option Text
  | '%' => some (d.filled "%")
  | 'n' => some (d.filled "\n")
  | 't' => some (d.filled "\t")
  | 'a' => some (d.name (abbreviated (dayName t)))
  | 'A' => some (d.name (dayName t))
  | 'b' | 'h' => some (d.name (abbreviated (monthName t)))
  | 'B' => some (d.name (monthName t))
  | 'c' => some (d.cased (line t))
  | 'C' => some (d.number 1 false (t.date.year / 100))
  | 'D' | 'x' => some (d.cased (slashed t))
  | 'd' => some (d.number 2 false t.date.day)
  | 'e' => some (d.number 2 true t.date.day)
  | 'F' => some (d.cased (hyphened t))
  | 'g' => some (d.number 2 false (t.date.weekOfThursday.1 % 100))
  | 'G' => some (d.number 1 false t.date.weekOfThursday.1)
  | 'H' => some (d.number 2 false t.hour)
  | 'I' => some (d.number 2 false (hourOfHalfDay t))
  | 'j' => some (d.number 3 false t.date.dayOfYear)
  | 'k' => some (d.number 2 true t.hour)
  | 'l' => some (d.number 2 true (hourOfHalfDay t))
  | 'm' => some (d.number 2 false t.date.month)
  | 'M' => some (d.number 2 false t.minute)
  | 'p' => some (if d.wantsChange then d.filled (Text.asciiLower (halfDay t)) else d.filled (halfDay t))
  | 'P' => some (d.filled (Text.asciiLower (halfDay t)))
  | 'r' => some (d.cased (Text.ofNatPadded 2 (hourOfHalfDay t) ++ (clock t).drop 2 ++ " " ++ halfDay t))
  | 'R' => some (d.cased ((clock t).take 5))
  | 's' => some (d.filled (Text.ofInt (secondsOfEpoch t)))
  | 'S' => some (d.number 2 false t.second)
  | 'T' | 'X' => some (d.cased (clock t))
  | 'u' => some (d.number 1 false (t.date.weekday + 1))
  | 'U' => some (d.number 2 false (t.date.weekFrom 6))
  | 'V' => some (d.number 2 false t.date.weekOfThursday.2)
  | 'w' => some (d.number 1 false ((t.date.weekday + 1) % 7))
  | 'W' => some (d.number 2 false (t.date.weekFrom 0))
  | 'Y' => some (d.number 1 false t.date.year)
  | 'y' => some (d.number 2 false (t.date.year % 100))
  | 'Z' => some (d.filled [])
  | 'z' => some []
  | _ => none

/-- A directive that names nothing is copied. The flag for a change of case has an effect on short names of months
before their modifier is looked at. -/
def Directive.copied (d : Directive) : Text :=
  if d.letter = ("b" : Text) || d.letter = ("h" : Text) then d.name d.source else d.cased d.source

def Directive.write (d : Directive) (t : LocalTime) : Text :=
  let written :=
    match d.letter, d.modifier with
    | [.scalar letter], [] => d.writeLetter t letter
    | [.scalar letter], [.scalar modifier] =>
      if allowsModifier letter modifier then d.writeLetter t letter else none
    | _, _ => none
  written.getD d.copied

def writeDirectives (t : LocalTime) : Text → Text
  | [] => []
  | c :: r =>
    if c = '%' then
      have := Directive.read_length r
      (Directive.read r).1.write t ++ writeDirectives t (Directive.read r).2
    else c :: writeDirectives t r
termination_by format => format.length

/-- Fractions of a second are put in before anything else, and the names of the time zone, which are empty. -/
def writeFractions (t : LocalTime) : Text → Text
  | .scalar '%' :: .scalar 'f' :: r => Text.ofNatPadded 6 t.microsecond ++ writeFractions t r
  | .scalar '%' :: .scalar 'z' :: r => writeFractions t r
  | .scalar '%' :: .scalar 'Z' :: r => writeFractions t r
  | .scalar '%' :: c :: r => .scalar '%' :: c :: writeFractions t r
  | c :: r => c :: writeFractions t r
  | [] => []

/-- The least of the sizes 1024, 2048, ... that is 256 times as long as the format: a longer result is given up. -/
def sizeLimit (length : Nat) : Nat :=
  (List.range 64).foldl (fun size _ => if size < 256 * length then 2 * size else size) 1024

/-- Whether a width in the format alone reaches the limit. The distance of the time zone is not written at all. -/
def tooWide (limit : Nat) : Text → Bool
  | [] => false
  | c :: r =>
    if c = '%' then
      have := Directive.read_length r
      let d := (Directive.read r).1
      (limit ≤ d.widthNumber && d.letter ≠ ("z" : Text)) || tooWide limit (Directive.read r).2
    else tooWide limit r
termination_by format => format.length

/-- The date as the format says. A format ends at its first null character and has to be writable as UTF-8. -/
def write (t : LocalTime) (format : Text) : Except Utf8.EncodeError Text := do
  let _ ← Utf8.encode format
  let prepared := writeFractions t (format.takeWhile fun c => c ≠ .scalar '\x00')
  let limit := sizeLimit prepared.length
  if tooWide limit prepared then return []
  let written := writeDirectives t prepared
  return if written.length < limit then written else []

end DateFormat

end Invocation
