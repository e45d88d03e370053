import Invocation.FileTree

/-!
# Requests

What a command line asks for. The name of an action comes first; then come options and operands in any order, and
behind two hyphens only operands.
-/

namespace Invocation

namespace CommandLine

/-! ## Actions and options -/

inductive Action where
  | render
  | validate
  | explain
  | escape
  | printSchema
deriving DecidableEq

inductive Switch where
  | windows
  | noWindows
  | json
  | workingDirectory
  | strict
  | verbose
  | quiet
deriving DecidableEq

namespace Switch

def name : Switch → Text
  | windows => "--windows"
  | noWindows => "--no-windows"
  | json => "--json"
  | workingDirectory => "--working-dir"
  | strict => "--strict"
  | verbose => "--verbose"
  | quiet => "--quiet"

/-- The letter behind a single hyphen. -/
def letter? : Switch → Option CodePoint
  | verbose => some 'v'
  | quiet => some 'q'
  | _ => none

/-- Whether a value belongs to the option. -/
def takesValue (s : Switch) : Bool := s == workingDirectory

end Switch

namespace Action

def all : List Action := [render, validate, explain, escape, printSchema]

def name : Action → Text
  | render => "render"
  | validate => "validate"
  | explain => "explain"
  | escape => "escape"
  | printSchema => "print-schema"

def ofName? (t : Text) : Option Action := all.find? fun a => a.name = t

def switches : Action → List Switch
  | render => [.windows, .noWindows, .json, .workingDirectory, .verbose, .quiet]
  | validate => [.strict, .verbose, .quiet]
  | explain => [.verbose, .quiet]
  | escape | printSchema => []

end Action

/-! ## Settings -/

/-- What the options say. Of two options that contradict each other the last one counts. -/
structure Settings where
  windows : Option Bool
  json : Bool
  workingDirectory : Option Text
  strict : Bool
  verbose : Bool
  quiet : Bool
deriving DecidableEq

namespace Settings

def standard : Settings := ⟨none, false, none, false, false, false⟩

def switch (s : Settings) : Switch → Settings
  | .windows => { s with windows := some true }
  | .noWindows => { s with windows := some false }
  | .json => { s with json := true }
  | .workingDirectory => s
  | .strict => { s with strict := true }
  | .verbose => { s with verbose := true }
  | .quiet => { s with quiet := true }

end Settings

/-! ## Faults -/

inductive UsageFault where
  | actionMissing
  | unknownAction (name : Text)
  | unknownOption (name : Text)
  | valueMissing (name : Text)
  | needlessValue (name : Text)
  | operandMissing
  | needlessOperand (t : Text)
  | badFileName (f : FileFault)
deriving DecidableEq

def UsageFault.message : UsageFault → Text
  | actionMissing => "Missing command."
  | unknownAction name => "No such command " ++ name.quoted ++ "."
  | unknownOption name => "No such option: " ++ name
  | valueMissing name => "Option " ++ name.quoted ++ " requires an argument."
  | needlessValue name => "Option " ++ name.quoted ++ " does not take a value."
  | operandMissing => "Missing argument."
  | needlessOperand t => "Got unexpected extra argument (" ++ t ++ ")"
  | badFileName f => "Invalid value: " ++ f.message .top

/-! ## Arguments -/

/-- What has been read so far. -/
structure Reading where
  settings : Settings
  operands : List Text
  /-- The next argument is the value of an option. -/
  awaitsValue : Bool
  /-- Only operands follow. -/
  ended : Bool

namespace Reading

def start : Reading := ⟨.standard, [], false, false⟩

def takeValue (r : Reading) (value : Text) : Reading :=
  { r with settings := { r.settings with workingDirectory := some value }, awaitsValue := false }

def takeSwitch (r : Reading) (s : Switch) : Reading :=
  if s.takesValue then { r with awaitsValue := true } else { r with settings := r.settings.switch s }

/-- An option behind two hyphens; an equals sign may put its value next to it. -/
def takeLong (a : Action) (r : Reading) (argument : Text) : Except UsageFault Reading :=
  let (name, value) : Text × Option Text :=
    match argument.cutAt '=' with
    | some (name, value) => (name, some value)
    | none => (argument, none)
  match a.switches.find? fun s => s.name = name, value with
  | none, _ => .error (.unknownOption name)
  | some s, none => .ok (r.takeSwitch s)
  | some s, some value => if s.takesValue then .ok (r.takeValue value) else .error (.needlessValue name)

/-- Letters behind one hyphen, each of them an option. -/
def takeLetters (a : Action) (r : Reading) : Text → Except UsageFault Reading
  | [] => .ok r
  | c :: letters =>
    match a.switches.find? fun s => s.letter? = some c with
    | some s => takeLetters a (r.takeSwitch s) letters
    | none => .error (.unknownOption [.scalar '-', c])

def take (a : Action) (r : Reading) (argument : Text) : Except UsageFault Reading :=
  if r.awaitsValue then .ok (r.takeValue argument)
  else if r.ended then .ok { r with operands := r.operands ++ [argument] }
  else
    match argument with
    | [.scalar '-', .scalar '-'] => .ok { r with ended := true }
    | .scalar '-' :: .scalar '-' :: _ => takeLong a r argument
    | .scalar '-' :: c :: letters => takeLetters a r (c :: letters)
    | _ => .ok { r with operands := r.operands ++ [argument] }

end Reading

/-! ## Requests -/

inductive Request where
  | render (file : Text) (s : Settings)
  | validate (file : Text) (s : Settings)
  | explain (file : Text) (s : Settings)
  | escape (arguments : List Text)
  | printSchema
deriving DecidableEq

/-- The only operand. -/
def singleOperand : List Text → Except UsageFault Text
  | [] => .error .operandMissing
  | [t] => .ok t
  | _ :: t :: _ => .error (.needlessOperand t)

/-- The only operand, which has to be a path. -/
def fileOperand (operands : List Text) : Except UsageFault Text := do
  let file ← singleOperand operands
  let _ ← (nameBytes file).mapError .badFileName
  return file

def Action.request (a : Action) (r : Reading) : Except UsageFault Request :=
  match a with
  | .render => (fileOperand r.operands).map fun file => .render file r.settings
  | .validate => (fileOperand r.operands).map fun file => .validate file r.settings
  | .explain => (fileOperand r.operands).map fun file => .explain file r.settings
  | .escape => if r.operands.isEmpty then .error .operandMissing else .ok (.escape r.operands)
  | .printSchema =>
    match r.operands with
    | [] => .ok .printSchema
    | t :: _ => .error (.needlessOperand t)

/-- The request of an action with its arguments. -/
def Action.read (a : Action) (arguments : List Text) : Except UsageFault Request := do
  let r ← arguments.foldlM (Reading.take a) Reading.start
  if r.awaitsValue then .error (.valueMissing Switch.workingDirectory.name)
  a.request r

/-- The request that a command line makes. Two hyphens before the action say nothing. -/
def Request.ofArguments (arguments : List Text) : Except UsageFault Request :=
  let arguments := if arguments.head? = some ("--" : Text) then arguments.tail else arguments
  match arguments with
  | [] => .error .actionMissing
  | name :: rest =>
    match Action.ofName? name with
    | some a => a.read rest
    | none => .error (.unknownAction name)

end CommandLine

end Invocation
