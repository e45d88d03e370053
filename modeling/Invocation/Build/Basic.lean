import Invocation.Build.Entry

/-!
# Building a command line

The argument list of a specification: what stands in front, the command, and the arguments of the entries in order.
It can be wrapped for `cmd.exe`, and it has a form that may be shown.
-/

namespace Invocation

structure Build where
  arguments : Arguments
  resolved : List Resolved
  /-- The command line without its secrets. -/
  display : Text
  windows : Bool
  warnings : List Macro.Warning

namespace Build

def errors (b : Build) : List Text := b.resolved.flatMap Resolved.errors

end Build

namespace Spec

/-- The command, the entries one after the other behind it, and in the end what stands in front. -/
def assemble (s : Spec) : StateM Draft (List Resolved) := do
  let command ← s.command.mapM Draft.expand
  let _ ← Draft.take (.add (command.map Item.ofText))
  let resolved ← s.entries.mapM Entry.apply
  let front ← s.prepend.mapM Draft.expand
  let _ ← Draft.take (.prepend (front.map Item.ofText))
  return resolved

/-- In a wrapped command every secret is hidden before the command is put together to be shown. -/
def build (s : Spec) (scope : Macro.Scope) (windows : Bool) : Build :=
  let assembled := s.assemble.run (.start scope)
  let plain := assembled.2.arguments
  { arguments := if windows then Shell.wrapHiding plain else plain
    resolved := assembled.1
    display := if windows then (Shell.wrap plain.redacted.values).display else plain.maskedDisplay
    windows
    warnings := assembled.2.warnings }

end Spec

end Invocation
