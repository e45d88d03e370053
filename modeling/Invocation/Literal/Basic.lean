import Invocation.Literal.Grammar
import Invocation.Text.Utf8

/-!
# Literals

Whether a text is a literal. A text that is no expression is read a second time to find the reason; what is no token
counts more than that.
-/

namespace Invocation

namespace Literal

/-- Whether the token at a place is the last one and what follows it has been looked at. -/
def TokenList.isAtEnd (l : TokenList) (place : Nat) : Bool :=
  match l.tokens.drop place with
  | [t] => !t.kind.isQuoted
  | _ => false

/-- The fault to report in place of `f`, which has been found when so many tokens had been looked at. A bracket that is
never closed counts if another line has begun since, unless the end of the text is known when a reason is found. -/
def prevailing (list : TokenList) (seen : Nat) (f : ReadingFault) : ReadingFault :=
  match f, list.fault with
  | .token t, _ => .token t
  | f, none => f
  | f, some (.unclosed bracket opened) =>
    let line := (list.tokens[seen - 1]?.map Token.line).getD 1
    if opened < line ∧ !(f ≠ .noSense && list.isAtEnd (seen - 1)) then .token (.unclosed bracket opened) else f
  | f, some t => if t.prevails then .token t else f

/-- The expression that a text is. -/
def readExpression (t : Text) : Except ReadingFault Expression :=
  let list := TokenList.ofText t
  let setting : Setting := ⟨list.tokens.toArray, list.fault, false⟩
  match Grammar.whole setting ⟨0, 0, ∅⟩ with
  | (.found e, _) => return e
  | (.refused f, s) => throw (prevailing list s.seen f)
  | (_, s) =>
    match Grammar.whole { setting with explaining := true } ⟨0, s.seen, ∅⟩ with
    | (.refused f, s) => throw (prevailing list s.seen f)
    | (_, s') =>
      if list.tokens[s.seen - 1]?.any fun t => t.kind = .indent then throw .unexpectedIndent
      else throw (prevailing list s'.seen .noSense)

inductive Fault where
  | encoding (f : Utf8.EncodeError)
  | reading (f : ReadingFault)
  | value (f : Expression.LiteralFault)
deriving DecidableEq

def check (t : Text) : Except Fault Unit := do
  let _ ← (Utf8.encode t).mapError .encoding
  if t.any fun c => c.toNat = 0 then throw (.reading .nullCharacter)
  (← (readExpression t).mapError .reading).check.mapError .value

end Literal

end Invocation
