import Invocation.Text.Basic

/-!
# Lines of a property file

A natural line ends with a line feed, a carriage return, or both in this order. A logical line is made of one or more
natural lines: an odd number of backslashes at the end of one continues it on the next. Blanks at the beginning of a
natural line are dropped, and blank lines and comments that do not continue anything are skipped.
-/

namespace Invocation

namespace Properties

def isBlank (c : CodePoint) : Bool := c.isOneOf [' ', '\t', '\x0c']

/-- A line break at the end of the text ends its last line and begins no other. -/
def naturalLines : Text → List Text
  | [] => []
  | .scalar '\r' :: .scalar '\n' :: r => [] :: naturalLines r
  | .scalar '\r' :: r => [] :: naturalLines r
  | .scalar '\n' :: r => [] :: naturalLines r
  | c :: r =>
    match naturalLines r with
    | [] => [[c]]
    | line :: lines => (c :: line) :: lines

def withoutIndent (line : Text) : Text := line.dropWhile isBlank

/-- Whether an unindented line has nothing to say. -/
def isSkipped : Text → Bool
  | [] => true
  | c :: _ => c.isOneOf ['#', '!']

/-- Whether the text ends in an odd number of backslashes. -/
def continues (line : Text) : Bool := (line.reverse.takeWhile fun c => c = .scalar '\\').length % 2 == 1

/-- A logical line: the number of its first natural line, its text without the continuation marks, and whether the
last of its natural lines is complete. -/
structure LogicalLine where
  start : Nat
  text : Text
  complete : Bool
deriving DecidableEq

/-- The logical lines of natural lines that are numbered from `number`, where `opened` is a line still to be continued.
Only the last logical line can be incomplete. -/
def linesFrom (number : Nat) (opened : Option (Nat × Text)) : List Text → List LogicalLine
  | [] =>
    match opened with
    | none => []
    | some (start, text) => [⟨start, text, false⟩]
  | line :: rest =>
    let body := withoutIndent line
    match opened with
    | none =>
      if isSkipped body then linesFrom (number + 1) none rest
      else if continues body then linesFrom (number + 1) (some (number, body.dropLast)) rest
      else ⟨number, body, true⟩ :: linesFrom (number + 1) none rest
    | some (start, text) =>
      if continues body then linesFrom (number + 1) (some (start, text ++ body.dropLast)) rest
      else ⟨start, text ++ body, true⟩ :: linesFrom (number + 1) none rest

def logicalLines (t : Text) : List LogicalLine := linesFrom 1 none (naturalLines t)

end Properties

end Invocation
