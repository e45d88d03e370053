import Invocation.Text.Quoted

/-!
# Tokens of literals

A literal is written in names, numbers, quoted texts and marks. What is no token at all is reported with its cause.
-/

namespace Invocation

namespace Literal

/-! ## Kinds of tokens -/

/-- What a number is; of a whole number too long to read only the number of digits. -/
inductive Number where
  | whole (n : Nat)
  | tooLong (digits : Nat)
  | real
  | imaginary
deriving DecidableEq

/-- A quoted text with the letters in front of it. -/
structure QuotedText where
  letters : Text
  body : Text
deriving DecidableEq

inductive TokenKind where
  | name
  | number (n : Number)
  | quoted (q : QuotedText)
  /-- An operator, a bracket or a reserved word. -/
  | mark
  | lineEnd
  | indent
  | finish
deriving DecidableEq

def TokenKind.isQuoted : TokenKind → Bool
  | quoted _ => true
  | _ => false

/-- A token with the number of brackets that are open behind it and the line on which it ends. -/
structure Token where
  kind : TokenKind
  text : Text
  depth : Nat
  line : Nat

/-! ## What is no token -/

/-- How the digits of a number are to be read. -/
inductive Notation where
  | decimal
  | hexadecimal
  | octal
  | binary
  | imaginary
deriving DecidableEq

def Notation.word : Notation → String
  | decimal => "decimal"
  | hexadecimal => "hexadecimal"
  | octal => "octal"
  | binary => "binary"
  | imaginary => "imaginary"

inductive TokenFault where
  | unmatched (bracket : CodePoint)
  /-- A bracket of another kind is open, perhaps since another line. -/
  | mismatched (closing opening : CodePoint) (line : Option Nat)
  | tooDeep
  | badNumber (n : Notation)
  | badDigit (digit : CodePoint) (n : Notation)
  | leadingZeros
  | unterminated (long : Bool) (line : Nat)
  | badCharacter (c : CodePoint)
  | invisibleCharacter (c : CodePoint)
  | badContinuation
  | endOfText
  | unclosed (bracket : CodePoint) (line : Nat)
deriving DecidableEq

namespace TokenFault

def message : TokenFault → Text
  | unmatched bracket => "unmatched '" ++ [bracket] ++ "'"
  | mismatched closing opening line =>
    "closing parenthesis '" ++ [closing] ++ "' does not match opening parenthesis '" ++ [opening] ++ "'"
      ++ (match line with
          | some n => " on line " ++ Text.ofNat n
          | none => "")
  | tooDeep => "too many nested parentheses"
  | badNumber n => "invalid " ++ n.word ++ " literal"
  | badDigit digit n => "invalid digit '" ++ [digit] ++ "' in " ++ n.word ++ " literal"
  | leadingZeros =>
    "leading zeros in decimal integer literals are not permitted; use an 0o prefix for octal integers"
  | unterminated long line =>
    "unterminated " ++ (if long then "triple-quoted " else "" : String) ++ "string literal (detected at line "
      ++ Text.ofNat line ++ ")"
  | badCharacter c => "invalid character '" ++ [c] ++ "' (U+" ++ Text.asciiUpper (Text.ofHex 4 c.toNat) ++ ")"
  | invisibleCharacter c => "invalid non-printable character U+" ++ Text.asciiUpper (Text.ofHex 4 c.toNat)
  | badContinuation => "unexpected character after line continuation character"
  | endOfText => "unexpected EOF while parsing"
  | unclosed bracket _ => "'" ++ [bracket] ++ "' was never closed"

/-- Whether the fault counts even if what stands before it makes no sense. -/
def prevails : TokenFault → Bool
  | badContinuation | endOfText | unclosed _ _ => false
  | _ => true

end TokenFault

end Literal

end Invocation
