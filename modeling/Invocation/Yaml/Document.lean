import Invocation.Yaml.Unfolding

/-!
# YAML documents

The value of the one document that a text holds.
-/

namespace Invocation

namespace Yaml

/-- Whether a document may hold the code point: no surrogate, and no control but a tab and the ends of lines. -/
def isAllowed (c : CodePoint) : Bool :=
  c.isOneOf ['\t', '\n', '\r', '\x85'] || c.isBetween ' ' '~' || c.isBetween '\u00A0' '\uD7FF'
    || c.isBetween '\uE000' '\uFFFD' || 0x10000 ≤ c.toNat

/-- The first code point that no document may hold, and its index. -/
def firstDisallowed (index : Nat) : Text → Option (Nat × CodePoint)
  | [] => none
  | c :: r => if isAllowed c then firstDisallowed (index + 1) r else some (index, c)

/-- The value of the document. A text without a document has the value null. -/
def read (t : Text) : Except Fault Value := do
  if let some (index, c) := firstDisallowed 0 t then throw (.unprintable index c)
  match ← Graph.ofText t with
  | none => return .null
  | some (g, root) => return (← g.content root).value

end Yaml

end Invocation
