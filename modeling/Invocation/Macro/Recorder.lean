import Invocation.Macro.Expand

/-!
# Recorders

A recorder expands one template after the other and keeps the warnings of all of them.
-/

namespace Invocation

namespace Macro

structure Recorder where
  scope : Scope
  /-- The warnings so far, the oldest first. -/
  warnings : List Warning

namespace Recorder

def start (s : Scope) : Recorder := ⟨s, []⟩

/-- An expansion that is not recorded. -/
def preview (r : Recorder) (template : Text) : Expansion := r.scope.expand template

/-- The text of an expansion, and the recorder with its warnings. -/
def expand (r : Recorder) (template : Text) : Text × Recorder :=
  let expansion := r.preview template
  (expansion.text, { r with warnings := r.warnings ++ expansion.warnings })

end Recorder

end Macro

end Invocation
