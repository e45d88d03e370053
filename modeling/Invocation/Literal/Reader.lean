import Invocation.Literal.Expression
import Invocation.Literal.Fault
import Invocation.Literal.Tokens
import Std.Data.HashMap

/-!
# Readers of expressions

A reader looks at the tokens from a position on. It finds something and moves on, it finds nothing, or it refuses the
text for a reason. What is found by a rule at a position is kept, so that no rule is tried twice in one place.
-/

namespace Invocation

namespace Literal

/-- Kinds of expressions from the loosest to the tightest, and the names that a loop may set. -/
inductive Rule where
  | named
  | expression
  | disjunction
  | conjunction
  | inversion
  | union
  | factor
  | primary
  | target
deriving DecidableEq, Hashable

def Rule.count : Nat := 9

structure Setting where
  tokens : Array Token
  /-- What is wrong behind the last token. -/
  fault : Option TokenFault
  /-- Whether to look for the reason why a text is no expression. -/
  explaining : Bool

structure Progress where
  position : Nat
  /-- The number of tokens that have been looked at. -/
  seen : Nat
  known : Std.HashMap (Rule × Nat) (Option (Expression × Nat))

inductive Outcome (α : Type) where
  | found (a : α)
  | absent
  /-- Nothing is found, and nothing else is to be tried in its place. -/
  | settled
  | refused (f : ReadingFault)

def Reader (α : Type) := Setting → Progress → Outcome α × Progress

namespace Reader

instance : Monad Reader where
  pure a := fun _ s => (.found a, s)
  bind p f := fun setting s =>
    match p setting s with
    | (.found a, s) => f a setting s
    | (.absent, s) => (.absent, s)
    | (.settled, s) => (.settled, s)
    | (.refused f, s) => (.refused f, s)

def absent {α : Type} : Reader α := fun _ s => (.absent, s)

def refuse {α : Type} (f : ReadingFault) : Reader α := fun _ s => (.refused f, s)

/-! ## Tokens -/

/-- The next token, which stays where it is. -/
def peek : Reader Token := fun setting s =>
  match setting.tokens[s.position]? with
  | some t => (.found t, { s with seen := max s.seen (s.position + 1) })
  | none =>
    match setting.fault with
    | some f => (.refused (.token f), s)
    | none => (.absent, s)

/-- The next token, if it satisfies `p`. -/
def take (p : Token → Bool) : Reader Token := do
  let t ← peek
  if p t then fun _ s => (.found t, { s with position := s.position + 1 }) else absent

def oneOf (marks : List Text) : Reader Token := take fun t => t.kind = .mark && marks.contains t.text

def mark (m : Text) : Reader Unit := do
  let _ ← oneOf [m]

def name : Reader Text := (·.text) <$> take fun t => t.kind = .name

def quoted : Reader QuotedText := do
  match (← peek).kind with
  | .quoted q =>
    let _ ← take fun _ => true
    return q
  | _ => absent

/-- The token before this position. -/
def previous : Reader Token := fun setting s =>
  match setting.tokens[s.position - 1]? with
  | some t => (.found t, s)
  | none => (.absent, s)

/-! ## Combinations -/

/-- The first reader that finds something. -/
def first {α : Type} : List (Reader α) → Reader α
  | [] => absent
  | p :: ps => fun setting s =>
    match p setting s with
    | (.absent, s') => first ps setting { s' with position := s.position }
    | (.settled, s') => (.absent, { s' with position := s.position })
    | r => r

def optional {α : Type} (p : Reader α) : Reader (Option α) := first [some <$> p, pure none]

def atMost {α : Type} (p : Reader α) : Nat → Reader (List α)
  | 0 => pure []
  | n + 1 => first [do return (← p) :: (← atMost p n), pure []]

/-- As often as something is found, which is once for every token at most. -/
def many {α : Type} (p : Reader α) : Reader (List α) := fun setting => atMost p setting.tokens.size setting

def atLeastOne {α : Type} (p : Reader α) : Reader (List α) := do return (← p) :: (← many p)

/-- One or more with commas between them. -/
def separated {α : Type} (p : Reader α) : Reader (List α) := do
  return (← p) :: (← many do mark ","; p)

/-- Looks whether something follows, without moving on. -/
def ahead {α : Type} (p : Reader α) : Reader Unit := fun setting s =>
  match p setting s with
  | (.found _, s') => (.found (), { s' with position := s.position })
  | (.refused f, s') => (.refused f, s')
  | (_, s') => (.absent, { s' with position := s.position })

/-- Looks whether something does not follow. -/
def notAhead {α : Type} (p : Reader α) : Reader Unit := fun setting s =>
  match p setting s with
  | (.found _, s') => (.absent, { s' with position := s.position })
  | (.refused f, s') => (.refused f, s')
  | (_, s') => (.found (), { s' with position := s.position })

/-- If nothing is found here, nothing else is tried in place of what has been read before. -/
def settle {α : Type} (p : Reader α) : Reader α := fun setting s =>
  match p setting s with
  | (.absent, s') => (.settled, s')
  | r => r

/-! ## Reasons -/

/-- A reader that only looks for a reason. -/
def explain {α : Type} (p : Reader α) : Reader α := fun setting s =>
  if setting.explaining then p setting s else (.absent, s)

/-- A reader that looks for no reasons. -/
def quietly {α : Type} (p : Reader α) : Reader α := fun setting s => p { setting with explaining := false } s

/-! ## Rules -/

/-- What a rule finds, unless that is known already. -/
def remember (r : Rule) (p : Reader Expression) : Reader Expression := fun setting s =>
  match s.known[(r, s.position)]? with
  | some (some (e, position)) => (.found e, { s with position })
  | some none => (.absent, s)
  | none =>
    match p setting s with
    | (.found e, s') => (.found e, { s' with known := s'.known.insert (r, s.position) (some (e, s'.position)) })
    | (.refused f, s') => (.refused f, s')
    | (_, s') => (.absent, { s' with known := s'.known.insert (r, s.position) none })

end Reader

end Literal

end Invocation
