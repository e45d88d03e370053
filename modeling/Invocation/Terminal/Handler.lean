import Invocation.Literal.Basic

/-!
# Handlers

A tag whose name begins with an at sign names a handler. What stands behind its equals sign is the name of an action
with its arguments in brackets, or a literal.
-/

namespace Invocation

namespace Terminal

/-- A literal among the parameters of a handler that is none. -/
structure HandlerFault where
  parameters : Text
  literal : Text
  cause : Literal.Fault
deriving DecidableEq

def HandlerFault.message (f : HandlerFault) : Text :=
  let place : Text := "error parsing "
  match f.cause with
  | .reading cause => place ++ f.literal.quoted ++ " in " ++ f.parameters.quoted ++ "; " ++ cause.message
  | .encoding cause => place ++ f.parameters.quoted ++ "; " ++ cause.message
  | .value cause => place ++ f.parameters.quoted ++ "; " ++ cause.message

/-- The literal among the parameters: the brackets behind the name of an action, or everything. An action without
brackets has no arguments. -/
def handlerLiteral (parameters : Text) : Text :=
  let written := parameters.trim
  match written.dropWhile fun (c : CodePoint) => c.isWord || c = '.' with
  | [] => "()"
  | .scalar '(' :: r =>
    if r.getLast? = some (.scalar ')') ∧ !r.contains (.scalar '\n') then .scalar '(' :: r else written
  | _ => written

def checkHandler (parameters : Text) : Except HandlerFault Unit :=
  (Literal.check (handlerLiteral parameters)).mapError fun f => ⟨parameters, handlerLiteral parameters, f⟩

end Terminal

end Invocation
