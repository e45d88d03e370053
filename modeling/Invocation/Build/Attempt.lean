import Invocation.Argument.Step
import Invocation.Spec.Basic

/-!
# Expanding the values of entries

The values of an entry are expanded one after the other. An expansion may warn, and a value without a text ends it.
-/

namespace Invocation

inductive EntryFault where
  | valueMissing (kind : EntryKind)
  | argument (f : ArgumentFault)
deriving DecidableEq

def EntryFault.message : EntryFault → Text
  | valueMissing kind => "a value is required for kind '" ++ kind.word ++ "'"
  | argument f => f.message

/-! ## Attempts -/

/-- A computation that warns and may fail. The warnings before a failure stay. -/
structure Attempt (α : Type) where
  warnings : List Macro.Warning
  result : Except EntryFault α

namespace Attempt

variable {α β : Type}

def done (a : α) : Attempt α := ⟨[], .ok a⟩

def fail (f : EntryFault) : Attempt α := ⟨[], .error f⟩

def ofExpansion (e : Macro.Expansion) : Attempt Text := ⟨e.warnings, .ok e.text⟩

def andThen (a : Attempt α) (next : α → Attempt β) : Attempt β :=
  match a.result with
  | .ok x => ⟨a.warnings ++ (next x).warnings, (next x).result⟩
  | .error f => ⟨a.warnings, .error f⟩

def map (f : α → β) (a : Attempt α) : Attempt β := ⟨a.warnings, a.result.map f⟩

/-- One attempt after the other up to the first that fails. -/
def inOrder (f : α → Attempt β) : List α → Attempt (List β)
  | [] => done []
  | x :: xs => (f x).andThen fun y => (inOrder f xs).map (y :: ·)

end Attempt

/-! ## Values -/

/-- The text of a value with its references replaced. Only texts have references; null has no text. -/
def Value.expand (s : Macro.Scope) : Value → Attempt (Option Text)
  | .null => .done none
  | .text t => (Attempt.ofExpansion (s.expand t)).map some
  | v =>
    match v.text? with
    | some t => .done (some t)
    | none => .fail (.argument .integerTooLong)

/-- A pair whose value is null or empty has an empty value. -/
def expandPair (s : Macro.Scope) (pair : Text × Value) : Attempt (Text × Text) :=
  (pair.2.expand s).map fun t => (pair.1, t.getD [])

end Invocation
