import Invocation.Value.Basic
import Invocation.Decimal.Layout
import Invocation.Text.Integer
import Invocation.Text.Quoted

/-!
# The text of a value

A value becomes an argument by its text. A text is its own text; inside a collection it is quoted. A collection inside
of itself is only hinted at. An integer with too many digits has no text, and neither has a collection that holds one.
-/

namespace Invocation

def integerLimitMessage : Text :=
  "Exceeds the limit (4300 digits) for integer string conversion; "
    ++ "use sys.set_int_max_str_digits() to increase the limit"

namespace Value

/-- The decimal digits of an integer that is not too long. -/
def integerText? (n : Int) : Option Text :=
  let t := Text.ofNat n.natAbs
  if greatestDigitCount < t.length then none else some (if n < 0 then "-" ++ t else t)

def boolText (b : Bool) : Text := if b then "True" else "False"

/-- A date as a call that yields it. -/
def dateCall (d : Date) : Text :=
  "datetime.date(" ++ Text.joinWith ", " ([d.year, d.month, d.day].map Text.ofNat) ++ ")"

/-- A point in time as a call that yields it; trailing zeros of the time are left out after the minutes. -/
def timestampCall (t : Timestamp) : Text :=
  let seconds := if t.microsecond ≠ 0 then [t.second, t.microsecond] else if t.second ≠ 0 then [t.second] else []
  let numbers := [t.date.year, t.date.month, t.date.day, t.hour, t.minute] ++ seconds
  let zone : List Text :=
    match t.offset with
    | none => []
    | some 0 => ["tzinfo=datetime.timezone.utc"]
    | some minutes => ["tzinfo=datetime.timezone(" ++ durationText minutes ++ ")"]
  "datetime.datetime(" ++ Text.joinWith ", " (numbers.map Text.ofNat ++ zone) ++ ")"

/-- What stands for a collection inside of itself. -/
def hint (isMapping : Bool) : Text := if isMapping then "\x7b...\x7d" else "[...]"

/-- Whether what is in a label is a mapping. -/
def isMapping : Value → Bool
  | mapping _ => true
  | _ => false

mutual

/-- The text of a value inside the collections with the labels `around`. -/
def textWithin? (around : List Nat) : Value → Option Text
  | null => some "None"
  | bool b => some (boolText b)
  | int n => integerText? n
  | float x => some (floatText x)
  | text t => some t.quoted
  | bytes bs => some (Text.quotedBytes bs)
  | date d => some (dateCall d)
  | timestamp t => some (timestampCall t)
  | list items => (textsWithin? around items).map fun ts => "[" ++ Text.joinWith ", " ts ++ "]"
  | pair v w =>
    match textWithin? around v, textWithin? around w with
    | some s, some t => some ("(" ++ s ++ ", " ++ t ++ ")")
    | _, _ => none
  | mapping entries => (entryTexts? around entries).map fun ts => "\x7b" ++ Text.joinWith ", " ts ++ "\x7d"
  | set [] => some "set()"
  | set (m :: members) =>
    match textWithin? around m, textsWithin? around members with
    | some t, some ts => some ("\x7b" ++ Text.joinWith ", " (t :: ts) ++ "\x7d")
    | _, _ => none
  | labelled l v => if around.contains l then some (hint v.isMapping) else textWithin? (l :: around) v
  | enclosing _ isMapping => some (hint isMapping)

def textsWithin? (around : List Nat) : List Value → Option (List Text)
  | [] => some []
  | v :: vs =>
    match textWithin? around v, textsWithin? around vs with
    | some t, some ts => some (t :: ts)
    | _, _ => none

def entryTexts? (around : List Nat) : List (Value × Value) → Option (List Text)
  | [] => some []
  | (k, v) :: es =>
    match textWithin? around k, textWithin? around v, entryTexts? around es with
    | some s, some t, some ts => some ((s ++ ": " ++ t) :: ts)
    | _, _, _ => none

end

/-- The text of a value inside a collection. -/
def inner? (v : Value) : Option Text := textWithin? [] v

/-- The text of a value on its own. -/
def text? : Value → Option Text
  | text t => some t
  | date d => some d.text
  | timestamp t => some t.text
  | v => v.inner?

end Value

end Invocation
