import Invocation.Literal.Token
import Invocation.Text.Integer

/-!
# Numbers in literals

A number is whole, real or imaginary. Between its digits there may be single low lines, and no name may follow it
immediately, except for the words that join expressions.
-/

namespace Invocation

namespace Literal

/-! ## Digits -/

def Notation.base : Notation → Nat
  | hexadecimal => 16
  | octal => 8
  | binary => 2
  | decimal | imaginary => 10

def Notation.isDigit (n : Notation) (c : CodePoint) : Bool := Text.isDigitIn n.base c

/-- What is wrong where a digit is missing. -/
def Notation.missingDigit (n : Notation) : Text → TokenFault
  | c :: _ => if c.isAsciiDigit ∧ n ≠ .hexadecimal then .badDigit c n else .badNumber n
  | [] => .badNumber n

/-- The digits that a text begins with, and the rest. A low line has to be followed by a digit. -/
def digitsOf (n : Notation) : Text → Except TokenFault (Text × Text)
  | [] => return ([], [])
  | c :: r =>
    if n.isDigit c then (digitsOf n r).map fun (digits, rest) => (c :: digits, rest)
    else if c = '_' then
      match r with
      | d :: r =>
        if n.isDigit d then (digitsOf n r).map fun (digits, rest) => (d :: digits, rest)
        else throw (n.missingDigit (d :: r))
      | [] => throw (n.missingDigit [])
    else return ([], c :: r)

/-! ## Ends -/

def isNamePart (c : CodePoint) : Bool := c.isAsciiAlphanumeric || c = '_' || 128 ≤ c.toNat

/-- Words that may follow a number without a blank. -/
def joiningWords : List Text := ["and", "else", "for", "or", "not"]

/-- The first letters of words that may follow a number without a blank, whatever they go on with. -/
def joiningLetters : List Text := ["if", "in", "is"]

def startsJoined (rest : Text) : Bool :=
  joiningLetters.any (Text.startsWith rest)
    || joiningWords.any fun word => (Text.after? word rest).any fun r => !r.head?.any isNamePart

/-- No ASCII letter may follow a number but in a word that joins expressions. -/
def checkEnd (n : Notation) (rest : Text) : Except TokenFault Unit :=
  if (rest.head?.any fun c => isNamePart c && c.toNat < 128) && !startsJoined rest then throw (.badNumber n)
  else return ()

/-! ## Numbers -/

def wholeNumber (base : Nat) (digits : Text) : Number :=
  if base = 10 ∧ greatestDigitCount < digits.length then .tooLong digits.length
  else .whole ((Text.toNat? base digits).getD 0)

/-- A number with the mark of a base in front of it. -/
def markedNumber (n : Notation) (t : Text) : Except TokenFault (Number × Text) := do
  let (digits, rest) ← digitsOf n (if t.head? = some (.scalar '_') then t.drop 1 else t)
  if digits.isEmpty then throw (n.missingDigit rest)
  if n ≠ .hexadecimal ∧ rest.head?.any CodePoint.isAsciiDigit then throw (n.missingDigit rest)
  checkEnd n rest
  return (wholeNumber n.base digits, rest)

/-- The end of a number: a letter makes it imaginary. -/
def endNumber (n : Number) (rest : Text) : Except TokenFault (Number × Text) := do
  if rest.head?.any fun c => c.isOneOf ['j', 'J'] then
    checkEnd .imaginary (rest.drop 1)
    return (.imaginary, rest.drop 1)
  else
    checkEnd .decimal rest
    return (n, rest)

/-- An exponent if there is one, and the end of a number. -/
def endWithExponent (n : Number) (rest : Text) : Except TokenFault (Number × Text) :=
  match rest with
  | e :: r =>
    if e.isOneOf ['e', 'E'] then
      let isSigned : Bool := r.head?.any fun c => c.isOneOf ['+', '-']
      let power := if isSigned then r.drop 1 else r
      if power.head?.any CodePoint.isAsciiDigit then do
        endNumber .real (← digitsOf .decimal power).2
      else if isSigned then throw (.badNumber .decimal)
      else do
        checkEnd .decimal rest
        return (n, rest)
    else endNumber n rest
  | [] => endNumber n rest

/-- What follows a decimal point, behind which there may be no digit. -/
def endWithFraction (rest : Text) : Except TokenFault (Number × Text) := do
  let hasDigit := rest.head?.any CodePoint.isAsciiDigit
  endWithExponent .real (← if hasDigit then (·.2) <$> digitsOf .decimal rest else pure rest)

/-- A number without a mark of a base. Zeros may lead only a zero, a real or an imaginary number. -/
def plainNumberOf (t : Text) : Except TokenFault (Number × Text) := do
  let (digits, rest) ← digitsOf .decimal t
  match rest with
  | .scalar '.' :: r => endWithFraction r
  | _ =>
    let hasLeadingZeros := digits.head? = some (.scalar '0') ∧ digits.any (· ≠ .scalar '0')
    if hasLeadingZeros ∧ !rest.head?.any fun c => c.isOneOf ['e', 'E', 'j', 'J'] then throw .leadingZeros
    endWithExponent (wholeNumber 10 digits) rest

/-- The number that a text begins with, and the rest of the text. -/
def numberOf (t : Text) : Except TokenFault (Number × Text) :=
  match t with
  | .scalar '.' :: r => endWithFraction r
  | .scalar '0' :: c :: r =>
    if c.isOneOf ['x', 'X'] then markedNumber .hexadecimal r
    else if c.isOneOf ['o', 'O'] then markedNumber .octal r
    else if c.isOneOf ['b', 'B'] then markedNumber .binary r
    else plainNumberOf t
  | t => plainNumberOf t

end Literal

end Invocation
