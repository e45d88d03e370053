import Invocation.Decimal.Layout
import Invocation.Text.Integer
import Invocation.Text.LowerCase
import Invocation.Value.Rendering
import Invocation.Yaml.Fault
import Invocation.Yaml.Resolution

/-!
# Numbers and dates in YAML

The values of scalars that are to be numbers or points in time. Low lines in numbers have no meaning, and a number with
colons is written to the base sixty.
-/

namespace Invocation

namespace Yaml

def withoutLines (t : Text) : Text := t.filter fun c => c ≠ .scalar '_'

/-! ## Integers -/

/-- The integer that a text is, with a sign, the mark of its base, and blanks around it allowed. -/
def integerIn (base : Nat) (t : Text) : Except ValueFault Int :=
  (Text.readInteger base t).mapError fun
    | .malformed => .integer base t
    | .tooLong digits => .digitLimit digits

/-- The value of parts to the base sixty, the most significant first. -/
def sexagesimal {α : Type} [Add α] [Mul α] (zero : α) (ofNat : Nat → α) (parts : List α) : α :=
  (parts.reverse.foldl (fun (value, base) part => (value + part * ofNat base, base * 60)) (zero, 1)).1

def partsOf (t : Text) : List Text := t.splitAll fun c => c = ':'

/-- The size of an integer without its sign. -/
def integerSize (t : Text) : Except ValueFault Int :=
  match t with
  | [] => .error .emptyNumber
  | [.scalar '0'] => .ok 0
  | .scalar '0' :: .scalar 'b' :: r => integerIn 2 r
  | .scalar '0' :: .scalar 'x' :: r => integerIn 16 r
  | .scalar '0' :: _ => integerIn 8 t
  | _ =>
    if t.contains (.scalar ':') then ((partsOf t).mapM (integerIn 10)).map (sexagesimal 0 Int.ofNat)
    else integerIn 10 t

def integer (content : Text) : Except ValueFault Int :=
  match withoutLines content with
  | [] => .error .emptyNumber
  | c :: r =>
    if c = '-' then (integerSize r).map fun n => -n
    else integerSize (if c = '+' then r else c :: r)

/-! ## Floating point numbers -/

/-- The number that a decimal text is, with blanks around it allowed. -/
def floatIn (t : Text) : Except ValueFault Float :=
  let number := t.trimNumber
  let (negative, size) := signOf number
  let signed := fun (x : Float) => if negative then -x else x
  if isOneOfWords ["inf", "infinity"] size then .ok (signed (1.0 / 0.0))
  else if isOneOfWords ["nan"] size then .ok (signed (0.0 / 0.0))
  else
    match Numeral.read? number with
    | some n => .ok n.toFloat
    | none => .error (.float t)

/-- How many parts to the base sixty a number can have before the value of the first one is out of range. -/
def greatestPartCount : Nat := 174

def floatOfParts (parts : List Float) : Except ValueFault Float :=
  if greatestPartCount < parts.length then .error .sixtiethsTooLarge else .ok (sexagesimal 0.0 Float.ofNat parts)

def floatSize (t : Text) : Except ValueFault Float :=
  if isOneOfWords [".inf"] t then .ok (1.0 / 0.0)
  else if isOneOfWords [".nan"] t then .ok (0.0 / 0.0)
  else if t.contains (.scalar ':') then do floatOfParts (← (partsOf t).mapM floatIn)
  else floatIn t

/-- A number as it is read: in lower case and without low lines. -/
def floatSpelling (content : Text) : Text := (withoutLines content).lower

def float (content : Text) : Except ValueFault Float :=
  match floatSpelling content with
  | [] => .error .emptyNumber
  | c :: r =>
    if c = '-' then (floatSize r).map fun x => -1.0 * x
    else floatSize (if c = '+' then r else c :: r)

/-! ## Points in time -/

def decimal (t : Text) : Nat := (Text.toNat? 10 t).getD 0

/-- Six digits of a fraction of a second. -/
def microseconds (fraction : Text) : Nat := decimal ((fraction ++ Text.fill 6 '0').take 6)

/-- Minutes ahead of universal time. -/
def zoneOffset : Option (Bool × Text × Text) → Int
  | none => 0
  | some (negative, hour, minute) =>
    let minutes : Int := decimal hour * 60 + decimal minute
    if negative then -minutes else minutes

/-- A date, or a date with a time. -/
def timestamp (content : Text) : Except ValueFault Value :=
  match dateParts (withoutFinalBreak content) with
  | none => .error .timestamp
  | some p =>
    let date : Date := ⟨decimal p.year, decimal p.month, decimal p.day⟩
    match p.time with
    | none => (date.check.map .date).mapError .calendar
    | some t =>
      let time : Timestamp :=
        ⟨⟨date, decimal t.hour, decimal t.minute, decimal t.second, microseconds t.fraction⟩, t.zone.map zoneOffset⟩
      (time.check.map .timestamp).mapError .calendar

end Yaml

end Invocation
