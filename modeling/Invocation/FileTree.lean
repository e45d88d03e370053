import Invocation.Path
import Invocation.Text.Utf8

/-!
# File trees

The files and directories that a run can see. A path leads from name to name; every name but the last has to be that of
a directory, and two dots lead back to the directory above.
-/

namespace Invocation

inductive FileNode where
  | file (content : List UInt8)
  | directory
deriving DecidableEq, Inhabited

inductive FileFault where
  | missing
  | notDirectory
  | isDirectory
  | nameTooLong
  | nullByte
  | unencodable (e : Utf8.EncodeError)
deriving DecidableEq

/-- The report on a path that leads to no file. -/
def FileFault.message (path : Path) (f : FileFault) : Text :=
  let failed := fun (what : String) => what ++ ": " ++ path.text.quoted
  match f with
  | missing => failed "[Errno 2] No such file or directory"
  | notDirectory => failed "[Errno 20] Not a directory"
  | isDirectory => failed "[Errno 21] Is a directory"
  | nameTooLong => failed "[Errno 36] File name too long"
  | nullByte => "embedded null byte"
  | unencodable e => e.message

/-- The bytes of a text that can name a file or lead to one. -/
def nameBytes (t : Text) : Except FileFault (List UInt8) :=
  match Utf8.encodeName t with
  | .ok bytes => if bytes.contains 0 then .error .nullByte else .ok bytes
  | .error e => .error (.unencodable e)

/-- The greatest number of bytes in a name. -/
def greatestNameSize : Nat := 255

/-- The greatest number of bytes in a path. -/
def greatestPathSize : Nat := 4095

/-- Whether a name has more bytes than the name of a file can have. -/
def nameIsTooLong (name : Text) : Bool :=
  match nameBytes name with
  | .ok bytes => greatestNameSize < bytes.length
  | .error _ => false

/-- The path, if a file can be looked for at it. -/
def Path.checked (p : Path) : Except FileFault Path := do
  let bytes ← nameBytes p.text
  if greatestPathSize < bytes.length then .error .nameTooLong else .ok p

/-- Files by the names that lead to them from the root. Every directory on the way to a node is a node as well. -/
structure FileTree where
  nodes : List (List Text × FileNode)
  /-- The directory that relative paths start from. -/
  current : Path

namespace FileTree

def node? (t : FileTree) (names : List Text) : Option FileNode :=
  if names.isEmpty then some .directory else t.nodes.lookup names

/-- The tree with one more node, and the directories on the way to it. -/
def insert (t : FileTree) (names : List Text) (n : FileNode) : FileTree :=
  let above := ((List.range names.length).map fun count => (names.take count, FileNode.directory)).filter fun e =>
    !e.1.isEmpty && (t.nodes.lookup e.1).isNone
  { t with nodes := (names, n) :: above ++ t.nodes }

/-- Goes on from the directory `here` along the names. -/
def walk (t : FileTree) (here : List Text) : List Text → Except FileFault FileNode
  | [] => match t.node? here with
    | some n => .ok n
    | none => .error .missing
  | name :: names =>
    match t.node? here with
    | some .directory =>
      if nameIsTooLong name then .error .nameTooLong
      else t.walk (if name = ("..": Text) then here.dropLast else here ++ [name]) names
    | some (.file _) => .error .notDirectory
    | none => .error .missing

def find (t : FileTree) (p : Path) : Except FileFault FileNode := do
  let p ← p.checked
  t.walk [] (t.current.join p).names

/-- Whether there is something at a path. Names that are too long cannot be looked for; other paths that lead nowhere
have nothing at them. -/
def isThere (t : FileTree) (p : Path) : Except FileFault Bool :=
  match t.find p with
  | .ok _ => .ok true
  | .error .nameTooLong => .error .nameTooLong
  | .error _ => .ok false

/-- The content of the file at a path. -/
def read (t : FileTree) (p : Path) : Except FileFault (List UInt8) :=
  match t.find p with
  | .ok (.file content) => .ok content
  | .ok .directory => .error .isDirectory
  | .error f => .error f

end FileTree

end Invocation
