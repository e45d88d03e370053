import Invocation.Dotenv.Interpolation
import Invocation.FileTree
import Invocation.Macro.Lookup
import Invocation.Provider.Filter

/-!
# Loading variables

A provider takes variables from the environment or from dotenv files and filters them. Later providers override earlier
ones, and what a specification says itself overrides them all.
-/

namespace Invocation

/-- What the program finds around it: the files, its environment, its home, and those of the users. -/
structure Host where
  files : FileTree
  environment : OrderedMap Text Text
  home : Text
  userHomes : OrderedMap Text Text

inductive Provider.LoadFault where
  | undecodable (e : Utf8.DecodeError)
  | unknownHome
  | unusable (path : Path) (f : FileFault)
deriving DecidableEq

def Provider.LoadFault.message : Provider.LoadFault → Text
  | undecodable e => e.message
  | unknownHome => "Could not determine home directory."
  | unusable path f => f.message path

/-- What a provider is loaded with. -/
structure LoadContext where
  host : Host
  environment : OrderedMap Text Text
  workingDirectory : Option Text

namespace LoadContext

/-- The directory in which files are looked for, which may be relative to that of the program. -/
def directory (c : LoadContext) : Path :=
  match c.workingDirectory with
  | some (d :: t) => .ofText (d :: t)
  | _ => c.host.files.current

/-- The same directory from the root on. It need not be there, but all that leads to it has to be a path. -/
def absoluteDirectory (c : LoadContext) : Except Provider.LoadFault Path := do
  let p := c.directory
  let start : Path := { p with root := if p.isAbsolute then "/" else [] }
  p.names.zipIdx.forM fun (name, index) => do
    let place := { start with names := p.names.take (index + 1) }.withoutDots
    if name ≠ ("..": Text) then let _ ← (nameBytes place.text).mapError (.unusable place)
  return (c.host.files.current.join start).withoutDots

/-- Whether there is something at a path. -/
def isThere (c : LoadContext) (p : Path) : Except Provider.LoadFault Bool :=
  (c.host.files.isThere p).mapError (.unusable p)

/-- The variables of a file. What is not a file has none. -/
def readFile (c : LoadContext) (p : Path) : Except Provider.LoadFault (OrderedMap Text Text) :=
  match c.host.files.read p with
  | .ok content => (Dotenv.ofBytes c.host.environment content).mapError .undecodable
  | .error _ => .ok ∅

end LoadContext

/-- The home of a user; without a name it is that of the program. -/
def Host.homeOf (h : Host) (user : Text) : Except Provider.LoadFault Text := do
  if user.isEmpty then return h.home
  let _ ← (nameBytes user).mapError (.unusable (.ofText user))
  match h.userHomes.get? user with
  | some home => return home
  | none => .error .unknownHome

/-- A path whose first name starts with a tilde leads from a home on. -/
def Host.expandHome (h : Host) (p : Path) : Except Provider.LoadFault Path :=
  match p.isAbsolute, p.names with
  | false, (.scalar '~' :: user : Text) :: names => (h.homeOf user).map fun home => (Path.ofText home).join ⟨[], names⟩
  | _, _ => .ok p

namespace Provider

/-- The one file of a provider that does not look into several directories. -/
def singleFile (p : Provider) (c : LoadContext) : Except Provider.LoadFault (Option Path) :=
  match p.path.getD [], p.filename.getD [] with
  | [], [] => .ok none
  | [], filename => .ok (some (c.directory.join (.ofText filename)))
  | path, _ => (c.host.expandHome (.ofText path)).map some

/-- The files of a provider that looks into every directory from the working directory up to the root. -/
def fileCandidates (p : Provider) (c : LoadContext) : Except Provider.LoadFault (List Path) :=
  match p.filename.getD [] with
  | [] => .ok []
  | filename => c.absoluteDirectory.map fun d => d.ancestors.map fun d => d.join (.ofText filename)

/-- The files in which the provider may look. -/
def lookedAt (p : Provider) (c : LoadContext) : List Path :=
  match p.kind with
  | .environment => []
  | .file =>
    if p.hierarchical.getD false then (p.fileCandidates c).toOption.getD []
    else (p.singleFile c).toOption.toList.filterMap fun file => file

/-- Files in the order in which they are merged: what is merged later wins. -/
def mergeOrder (precedence : Option Precedence) (files : List Path) : List Path :=
  match precedence with
  | some .shallowFirst => files
  | _ => files.reverse

def mergeFiles (c : LoadContext) (files : List Path) : Except Provider.LoadFault (OrderedMap Text Text) :=
  files.foldlM (fun merged f => (c.readFile f).map merged.update) ∅

def loadFiles (p : Provider) (c : LoadContext) : Except Provider.LoadFault (OrderedMap Text Text) :=
  if p.hierarchical.getD false then do
    let files ← (← p.fileCandidates c).filterM c.isThere
    mergeFiles c (mergeOrder p.precedence files)
  else do
    let files ← (← p.singleFile c).toList.filterM c.isThere
    mergeFiles c files

/-- What the provider finds before it filters. -/
def found (p : Provider) (c : LoadContext) : Except Provider.LoadFault (OrderedMap Text Text) :=
  match p.kind with
  | .environment => .ok c.environment
  | .file => p.loadFiles c

def load (p : Provider) (c : LoadContext) : Except Provider.LoadFault (OrderedMap Text Text) :=
  (p.found c).map (filterVariables p.filters)

end Provider

/-- The files in which a specification may look for variables. -/
def Spec.variableFiles (s : Spec) (c : LoadContext) : List Path :=
  s.enabledProviders.flatMap fun p => p.lookedAt c

/-- The variables of a specification, each provider seeing nothing of the others. -/
def Spec.loadVariables (s : Spec) (c : LoadContext) : Except Provider.LoadFault (OrderedMap Text Text) :=
  let override := fun (merged : OrderedMap Text Text) (p : Provider) => (p.load c).map merged.update
  (s.enabledProviders.foldlM override ∅).map fun merged => merged.update s.assignments

end Invocation
