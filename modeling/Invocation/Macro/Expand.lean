import Invocation.Macro.Lookup
import Invocation.Macro.Template

/-!
# Expanding templates

The pieces of a template are replaced one by one and put together again; no text that comes from a value is looked at
a second time. A reference that has no value stays as it is written, so that it is left to a shell further down.
-/

namespace Invocation

namespace Macro

/-- A text and the warnings that came up on the way to it. -/
structure Expansion where
  text : Text
  warnings : List Warning
deriving DecidableEq

namespace Scope

/-- The value of a reference in braces. A fallback behind a bar is used where the value is missing or empty; what is
missing is reported all the same. -/
def braced (s : Scope) (body : Text) : Option Text × List Warning :=
  match Text.cutAt '|' body with
  | none =>
    match s.lookup body.trim with
    | .ok value => (some value, [])
    | .error w => (none, [w])
  | some (name, fallback) =>
    match s.lookup name.trim with
    | .ok [] => (some fallback.trim, [])
    | .ok value => (some value, [])
    | .error w => (some fallback.trim, [w])

/-- What a piece of a template becomes. -/
def expandPiece (s : Scope) : Piece → Expansion
  | .literal c => ⟨[c], []⟩
  | .dollar => ⟨"$", []⟩
  | .named name =>
    match s.lookup name with
    | .ok value => ⟨value, []⟩
    | .error w => ⟨Piece.source (.named name), [w]⟩
  | .braced body =>
    let (value, warnings) := s.braced body
    ⟨value.getD (Piece.source (.braced body)), warnings⟩

def expandPieces (s : Scope) (ps : List Piece) : Expansion :=
  let parts := ps.map s.expandPiece
  ⟨parts.flatMap Expansion.text, parts.flatMap Expansion.warnings⟩

def expand (s : Scope) (template : Text) : Expansion := s.expandPieces (pieces template)

end Scope

end Macro

/-! ## Resolvers -/

/-- What may be done to the value of a property before it becomes part of an argument. The key of the property may be
looked at. -/
structure Resolver where
  resolve (template : Text) (key : Option Text) : Macro.Expansion

namespace Resolver

/-- Every value stays as it is. -/
def identity : Resolver := ⟨fun template _ => ⟨template, []⟩⟩

/-- Every value is expanded, whatever its key is. -/
def macros (scope : Macro.Scope) : Resolver := ⟨fun template _ => scope.expand template⟩

@[simp] theorem resolve_macros (scope : Macro.Scope) (template : Text) (key : Option Text) :
    (macros scope).resolve template key = scope.expand template := rfl

end Resolver

end Invocation
