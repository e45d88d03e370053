import Invocation.Dotenv.Binding
import Invocation.OrderedMap
import Invocation.Text.LineBreak
import Invocation.Text.Utf8

/-!
# Values of a dotenv file

In a value `${NAME}` and `${NAME:-fallback}` stand for the value of another key. The keys that the same file has set so
far come before the environment.
-/

namespace Invocation

namespace Dotenv

inductive Piece where
  | literal (c : CodePoint)
  | reference (name : Text) (fallback : Option Text)
deriving DecidableEq

/-- A reference whose dollar sign and opening brace have been taken, and the rest behind it. -/
def reference? (t : Text) : Option (Piece × Text) :=
  let isEnd := fun (c : CodePoint) => c.isOneOf ['\x7d', ':']
  let name := t.takeWhile fun c => !isEnd c
  match t.dropWhile fun c => !isEnd c with
  | .scalar '\x7d' :: r => some (.reference name none, r)
  | .scalar ':' :: .scalar '-' :: r =>
    (Text.cutAt '\x7d' r).map fun (fallback, rest) => (.reference name (some fallback), rest)
  | _ => none

def pieces (t : Text) : List Piece :=
  match t with
  | .scalar '$' :: .scalar '\x7b' :: r =>
    match reference? r with
    | some (p, rest) =>
      if _shorter : rest.length < r.length then p :: pieces rest else [p]
    | none => .literal '$' :: pieces (.scalar '\x7b' :: r)
  | c :: r => .literal c :: pieces r
  | [] => []
termination_by t.length

/-- The value of a name: a key of the file without a value counts as empty. -/
def resolve (environment : OrderedMap Text Text) (defined : OrderedMap Text (Option Text)) : Piece → Text
  | .literal c => [c]
  | .reference name fallback =>
    match defined.get? name, environment.get? name with
    | some value, _ => value.getD []
    | none, some value => value
    | none, none => fallback.getD []

/-- One binding after the other, each seeing those before it. -/
def define (environment : OrderedMap Text Text) (defined : OrderedMap Text (Option Text)) (b : Binding) :
    OrderedMap Text (Option Text) :=
  defined.insert b.key (b.value.map fun v => (pieces v).flatMap (resolve environment defined))

/-- The variables of a dotenv file: the keys that have a value. -/
def ofText (environment : OrderedMap Text Text) (t : Text) : OrderedMap Text Text :=
  ((bindings t).foldl (define environment) ∅).filterMap fun _ v => v

/-- A byte order mark at the beginning is no part of the text. -/
def withoutMark : Text → Text
  | .scalar '\uFEFF' :: r => r
  | t => t

/-- The variables of a file with the given content. -/
def ofBytes (environment : OrderedMap Text Text) (content : List UInt8) :
    Except Utf8.DecodeError (OrderedMap Text Text) :=
  (Utf8.decode content).map fun t => ofText environment (withoutMark t.normalizeBreaks)

end Dotenv

end Invocation
