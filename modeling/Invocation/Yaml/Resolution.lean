import Invocation.Text.Basic

/-!
# Tags of plain scalars

The tag of a scalar that has none follows from its form: truth values, numbers, dates and null are recognized by their
spelling, and everything else is a text.
-/

namespace Invocation

namespace Yaml

/-- A tag that every document knows. -/
def standardTag (name : String) : Text := "tag:yaml.org,2002:" ++ Text.ofString name

def isOneOfWords (words : List String) (t : Text) : Bool := words.any fun w => t == Text.ofString w

def truthWords : List String := ["yes", "no", "true", "false", "on", "off"]

/-- A word in lower case, in upper case, or with a capital in front. -/
def isCased (words : List String) (t : Text) : Bool :=
  let isUpper := fun (u : Text) => u.all CodePoint.isAsciiUpper
  let isLower := fun (u : Text) => u.all CodePoint.isAsciiLower
  isOneOfWords words t.asciiLower && (isLower t || isUpper t || (isUpper (t.take 1) && isLower (t.drop 1)))

def isTruth (t : Text) : Bool := isCased truthWords t

def isNull (t : Text) : Bool := t.isEmpty || isOneOfWords ["~"] t || isCased ["null"] t

/-! ## Numbers -/

def isSign (c : CodePoint) : Bool := c.isOneOf ['+', '-']

def withoutSign : Text → Text
  | [] => []
  | c :: r => if isSign c then r else c :: r

def isDigitOrLine (c : CodePoint) : Bool := c.isAsciiDigit || c = '_'

/-- Digits, with low lines between or behind them. -/
def isDigits : Text → Bool
  | [] => false
  | c :: r => c.isAsciiDigit && r.all isDigitOrLine

/-- A part of a number to the base sixty: one digit, or two of which the first is below six. -/
def isSixtieth : Text → Bool
  | [c] => c.isAsciiDigit
  | [c, d] => c.isBetween '0' '5' && d.isAsciiDigit
  | _ => false

/-- Parts between colons, at least two of them. -/
def isSexagesimal (first : Text → Bool) (t : Text) : Bool :=
  match t.splitAll fun c => c = ':' with
  | whole :: part :: parts => first whole && (part :: parts).all isSixtieth
  | _ => false

/-- Digits that do not begin with a zero. -/
def isPositive (t : Text) : Bool := isDigits t && t.head? ≠ some (.scalar '0')

def isInteger (t : Text) : Bool :=
  match withoutSign t with
  | [.scalar '0'] => true
  | .scalar '0' :: .scalar 'b' :: c :: r => (c :: r).all fun d => d.isOneOf ['0', '1', '_']
  | .scalar '0' :: .scalar 'x' :: c :: r => (c :: r).all fun d => d.isHexDigit || d = '_'
  | .scalar '0' :: c :: r => (c :: r).all fun d => d.isBetween '0' '7' || d = '_'
  | u => isPositive u || isSexagesimal isPositive u

/-- Nothing, or an exponent with its sign. -/
def isExponent : Text → Bool
  | [] => true
  | e :: s :: c :: r => e.isOneOf ['e', 'E'] && isSign s && (c :: r).all CodePoint.isAsciiDigit
  | _ => false

/-- The part behind the point, and an exponent. -/
def isFraction (t : Text) : Bool := isExponent (t.dropWhile isDigitOrLine)

def isFloat (t : Text) : Bool :=
  let u := withoutSign t
  let hasSign := u.length < t.length
  match u.cutAt '.' with
  | some ([], r) =>
    isCased ["inf"] r
      || (!hasSign && (isOneOfWords ["nan", "NaN", "NAN"] r || (r.head?.any CodePoint.isAsciiDigit && isFraction r)))
  | some (whole, r) =>
    (isDigits whole && isFraction r) || (isSexagesimal isDigits whole && r.all isDigitOrLine)
  | none => false

/-! ## Dates -/

/-- Between `least` and `greatest` digits at the front, and what follows them. -/
def digitsOf (least greatest : Nat) (t : Text) : Option (Text × Text) :=
  let digits := (t.take greatest).takeWhile CodePoint.isAsciiDigit
  if digits.length < least then none else some (digits, t.drop digits.length)

def isSpaceOrTab (c : CodePoint) : Bool := c.isOneOf [' ', '\t']

/-- The parts of a point in time as they are written. -/
structure TimeParts where
  hour : Text
  minute : Text
  second : Text
  fraction : Text
  /-- Nothing, `Z`, or sign, hours and minutes. -/
  zone : Option (Option (Bool × Text × Text))
deriving DecidableEq

structure DateParts where
  year : Text
  month : Text
  day : Text
  time : Option TimeParts
deriving DecidableEq

/-- The zone at the end of a point in time. -/
def zoneParts (t : Text) : Option (Option (Option (Bool × Text × Text))) := do
  match t.dropWhile isSpaceOrTab with
  | [] => if t.isEmpty then some none else none
  | [.scalar 'Z'] => some (some none)
  | c :: r =>
    if !isSign c then none
    else
      let (hour, rest) ← digitsOf 1 2 r
      match rest with
      | [] => some (some (some (c = '-', hour, [])))
      | .scalar ':' :: rest =>
        let (minute, rest) ← digitsOf 2 2 rest
        if rest.isEmpty then some (some (some (c = '-', hour, minute))) else none
      | _ => none

def timeParts (t : Text) : Option TimeParts := do
  let (hour, rest) ← digitsOf 1 2 t
  let (minute, rest) ← digitsOf 2 2 (← Text.after? ":" rest)
  let (second, rest) ← digitsOf 2 2 (← Text.after? ":" rest)
  let (fraction, rest) :=
    match rest with
    | .scalar '.' :: r => (r.takeWhile CodePoint.isAsciiDigit, r.dropWhile CodePoint.isAsciiDigit)
    | _ => ([], rest)
  let zone ← zoneParts rest
  return ⟨hour, minute, second, fraction, zone⟩

/-- A date, or a date and a time with a `T` or blanks between them. -/
def dateParts (t : Text) : Option DateParts := do
  let (year, rest) ← digitsOf 4 4 t
  let (month, rest) ← digitsOf 1 2 (← Text.after? "-" rest)
  let (day, rest) ← digitsOf 1 2 (← Text.after? "-" rest)
  match rest with
  | [] => return ⟨year, month, day, none⟩
  | c :: r =>
    if c.isOneOf ['T', 't'] then return ⟨year, month, day, some (← timeParts r)⟩
    else if isSpaceOrTab c then return ⟨year, month, day, some (← timeParts (r.dropWhile isSpaceOrTab))⟩
    else none

/-- A date without a time is only recognized if month and day have two digits. -/
def isTimestamp (t : Text) : Bool :=
  match dateParts t with
  | some p => p.time.isSome || (p.month.length = 2 && p.day.length = 2)
  | none => false

/-! ## Tags -/

/-- The text without the line break at its end, which does not count for the form of a scalar. -/
def withoutFinalBreak (t : Text) : Text := if t.length > 1 ∧ t.getLast? = some (.scalar '\n') then t.dropLast else t

/-- The tag that the form of a scalar asks for. -/
def resolvedTag (content : Text) : Text :=
  let t := withoutFinalBreak content
  standardTag (
    if isTruth t then "bool"
    else if isFloat t then "float"
    else if isInteger t then "int"
    else if isOneOfWords ["<<"] t then "merge"
    else if isNull t then "null"
    else if isTimestamp t then "timestamp"
    else if isOneOfWords ["="] t then "value"
    else if isOneOfWords ["!", "&", "*"] t then "yaml"
    else "str")

end Yaml

end Invocation
