import Invocation.Decimal.Shortest
import Invocation.Text.Basic

/-!
# Expressions and literals

An expression is a literal if it is made of numbers, texts and other constants, of tuples, sets and mappings of
literals, and of sums of a real and an imaginary number. Of other expressions only the kind is kept.
-/

namespace Invocation

namespace Literal

inductive Expression where
  | whole (n : Nat)
  | real
  | imaginary
  | truth (b : Bool)
  | nothing
  | ellipsis
  | text
  | template
  | name (t : Text)
  | tuple (items : List Expression)
  | set (items : List Expression)
  /-- Keys with values; a mapping that is unpacked has no key. -/
  | mapping (entries : List (Option Expression × Expression))
  | call (function : Expression) (isBare : Bool)
  /-- A plus or minus sign in front of an expression. -/
  | signed (e : Expression)
  /-- A sum or a difference. -/
  | sum (a b : Expression)
  | starred (e : Expression)
  | comparison (left : Expression) (isMembership : Bool)
  /-- Any other expression, by the name of its kind. -/
  | other (kind : String)

namespace Expression

/-- What an expression is called in a report. -/
def described : Expression → String
  | whole _ | real | imaginary | text => "literal"
  | truth true => "True"
  | truth false => "False"
  | nothing => "None"
  | ellipsis => "ellipsis"
  | template => "f-string expression"
  | name _ => "name"
  | tuple _ => "tuple"
  | set _ => "set display"
  | mapping _ => "dict literal"
  | call _ _ => "function call"
  | signed _ | sum _ _ => "expression"
  | starred _ => "starred"
  | comparison _ _ => "comparison"
  | other kind => kind

/-! ## Literals -/

inductive LiteralFault where
  | noLiteral
  /-- A mapping inside a mapping is unpacked. -/
  | unpacked
  /-- A value that cannot be in a set or be a key. -/
  | unhashable (kind : String)
  | tooGreat
deriving DecidableEq

def LiteralFault.message : LiteralFault → Text
  | noLiteral => "malformed node or string"
  | unpacked => "malformed node or string: None"
  | unhashable kind => ("unhashable type: '" ++ kind ++ "'" : String)
  | tooGreat => "int too large to convert to float"

/-- The least whole number that is nearer to the number after the greatest float than to the greatest float. -/
def firstTooGreat : Nat := twoTo 1024 - twoTo 970

def isSetCall : Expression → Bool
  | call (name t) true => t = "set"
  | _ => false

mutual

/-- The first part of a literal that can be in no set. -/
def unhashable? : Expression → Option String
  | set _ => some "set"
  | mapping _ => some "dict"
  | tuple items => unhashableItem? items
  | e => if e.isSetCall then some "set" else none

def unhashableItem? : List Expression → Option String
  | [] => none
  | e :: es => (unhashable? e).or (unhashableItem? es)

end

def checkHash (e : Expression) : Except LiteralFault Unit :=
  match e.unhashable? with
  | some kind => throw (.unhashable kind)
  | none => return ()

/-- A whole or real number, perhaps with a sign, to which an imaginary one is added. -/
def checkRealPart : Expression → Except LiteralFault Unit
  | whole n | signed (whole n) => if firstTooGreat ≤ n then throw .tooGreat else return ()
  | real | signed real => return ()
  | _ => throw .noLiteral

mutual

/-- Whether the expression is a literal. Values are put into sets and mappings one after the other. -/
def check : Expression → Except LiteralFault Unit
  | whole _ | real | imaginary | truth _ | nothing | ellipsis | text => return ()
  | signed (whole _) | signed real | signed imaginary => return ()
  | sum a imaginary => a.checkRealPart
  | tuple items => checkItems false items
  | set items => checkItems true items
  | mapping entries => checkEntries entries
  | e => if e.isSetCall then return () else throw .noLiteral

def checkItems (inSet : Bool) : List Expression → Except LiteralFault Unit
  | [] => return ()
  | e :: es => do
    check e
    if inSet then e.checkHash
    checkItems inSet es

def checkEntries : List (Option Expression × Expression) → Except LiteralFault Unit
  | [] => return ()
  | (none, _) :: _ => throw .unpacked
  | (some key, value) :: r => do
    check key
    check value
    key.checkHash
    checkEntries r

end

end Expression

end Literal

end Invocation
