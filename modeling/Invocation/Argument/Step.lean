import Invocation.Argument.Tokens
import Invocation.Macro.Expand
import Invocation.Path
import Invocation.Properties.Parse
import Invocation.Shell.Wrap
import Invocation.Value.Rendering

/-!
# Building argument lists

The steps by which a list of arguments grows. A path becomes an argument as seen from the directory in which the step is
taken. A step that cannot be taken says why and leaves behind what it had done up to there.
-/

namespace Invocation

/-- What may be given as an argument: the path of a file, or a value. -/
inductive Item where
  | path (p : Path)
  | value (v : Value)

namespace Item

def ofText (t : Text) : Item := .value (.text t)

/-- The value that stands for no argument. -/
@[match_pattern] def absent : Item := .value .null

end Item

inductive ArgumentFault where
  | secretMissing
  | integerTooLong
  | properties (e : Properties.Error)
deriving DecidableEq

def ArgumentFault.message : ArgumentFault → Text
  | secretMissing => "Masked argument must not be None"
  | integerTooLong => integerLimitMessage
  | properties e => e.message

/-- The list after a step, the warnings that came up, and what kept the step from being completed. -/
structure Outcome where
  arguments : Arguments
  warnings : List Macro.Warning
  fault : Option ArgumentFault
deriving DecidableEq

def Value.argumentText (v : Value) : Except ArgumentFault Text :=
  match v.text? with
  | some t => .ok t
  | none => .error .integerTooLong

namespace Item

/-- The text of an item as it stands inside of another text: a path as it is written, and what is absent by its name. -/
def formatted : Item → Except ArgumentFault Text
  | path p => .ok p.text
  | value v => v.argumentText

/-- The argument text of an item, if there is an item. A path is made absolute in the directory `here`. -/
def argumentText (here : Path) : Item → Except ArgumentFault (Option Text)
  | absent => .ok none
  | path p => .ok (some (here.join p).text)
  | value v => v.argumentText.map some

/-- The item as one argument or none. -/
def plain (here : Path) (i : Item) : Except ArgumentFault Arguments :=
  (i.argumentText here).map fun t => (t.map Argument.plain).toList

def quoted (here : Path) (i : Item) : Except ArgumentFault Arguments :=
  (i.argumentText here).map fun t => (t.map fun t => Argument.plain t.inQuotes).toList

/-- A secret has to be there. -/
def hidden (here : Path) (i : Item) : Except ArgumentFault Arguments :=
  (i.argumentText here).bind fun
    | some t => .ok [Argument.hidden t]
    | none => .error .secretMissing

end Item

/-- The argument `lead` + `key=value`. -/
def pairText (lead key value : Text) : Text := lead ++ key ++ "=" ++ value

/-- Key and value of a pair as one argument. -/
def pairArgument (lead : Text) (secret : Bool) (pair : Item × Item) : Except ArgumentFault Arguments := do
  let key ← pair.1.formatted
  let value ← pair.2.formatted
  return [⟨pairText lead key value, secret⟩]

/-- The arguments of a property text, with every value resolved; nothing is resolved unless the whole text is good. -/
def propertyArguments (lead : Text) (resolver : Resolver) (secret : Bool) (properties : Text) :
    Except Properties.Error (Arguments × List Macro.Warning) :=
  (Properties.parse properties).map fun entries =>
    let resolved := entries.toList.map fun e => (e.1, resolver.resolve e.2 (some e.1))
    (resolved.map fun e => ⟨pairText lead e.1 e.2.text, secret⟩, resolved.flatMap fun e => e.2.warnings)

inductive Step where
  | append (item : Item)
  | appendQuoted (item : Item)
  | appendHidden (item : Item)
  | add (items : List Item)
  | prepend (items : List Item)
  | appendTokens (text : Option Text)
  | appendPairs (lead : Text) (pairs : List (Item × Item)) (secret : Bool)
  | appendProperties (lead : Text) (properties : Option Text) (resolver : Resolver) (secret : Bool)
  | clear

namespace Arguments

/-- The arguments given one after the other at the end of the list, up to the first that cannot be given. -/
def appendAll (as : Arguments) : List (Except ArgumentFault Arguments) → Outcome
  | [] => ⟨as, [], none⟩
  | .ok bs :: r => appendAll (as ++ bs) r
  | .error f :: _ => ⟨as, [], some f⟩

/-- The items in front of the list, all of them or none. -/
def prepend (here : Path) (as : Arguments) (items : List Item) : Outcome :=
  match items.mapM (Item.plain here) with
  | .ok front => ⟨front.flatten ++ as, [], none⟩
  | .error f => ⟨as, [], some f⟩

def appendProperties (as : Arguments) (lead : Text) (properties : Option Text) (resolver : Resolver)
    (secret : Bool) : Outcome :=
  match properties with
  | none => ⟨as, [], none⟩
  | some text =>
    match propertyArguments lead resolver secret text with
    | .ok (bs, warnings) => ⟨as ++ bs, warnings, none⟩
    | .error e => ⟨as, [], some (.properties e)⟩

end Arguments

/-- The list after the step is taken in the directory `here`. -/
def Step.take (here : Path) (as : Arguments) : Step → Outcome
  | append item => as.appendAll [item.plain here]
  | appendQuoted item => as.appendAll [item.quoted here]
  | appendHidden item => as.appendAll [item.hidden here]
  | add items => as.appendAll (items.map (Item.plain here))
  | prepend items => as.prepend here items
  | appendTokens text => as.appendAll ((tokensOf text).map fun t => .ok [Argument.plain t])
  | appendPairs lead pairs secret => as.appendAll (pairs.map (pairArgument lead secret))
  | appendProperties lead properties resolver secret => as.appendProperties lead properties resolver secret
  | clear => ⟨[], [], none⟩

/-! ## Sessions -/

/-- Named lists that are built side by side. -/
abbrev Session := OrderedMap Text Arguments

inductive Command where
  | new (items : List Item)
  | step (s : Step)
  | duplicate (target : Text)
  | wrap (target : Text)

namespace Session

def get (s : Session) (name : Text) : Arguments := (s.get? name).getD []

/-- The session after a command to the list `name`, given in the directory `here`. A list that cannot be begun is not
there afterwards, unless it was there before; a copy and a wrapped command have nothing to do with their source any
more. -/
def run (here : Path) (s : Session) (name : Text) : Command → Session × Outcome
  | .new items =>
    match Arguments.appendAll [] (items.map (Item.plain here)) with
    | ⟨as, warnings, none⟩ => (s.insert name as, ⟨as, warnings, none⟩)
    | ⟨_, warnings, some f⟩ => (s, ⟨s.get name, warnings, some f⟩)
  | .step step =>
    let outcome := step.take here (s.get name)
    (s.insert name outcome.arguments, outcome)
  | .duplicate target => (s.insert target (s.get name), ⟨s.get name, [], none⟩)
  | .wrap target =>
    let wrapped := Shell.wrap (s.get name).values
    (s.insert target wrapped, ⟨wrapped, [], none⟩)

end Session

end Invocation
