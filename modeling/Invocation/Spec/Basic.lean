import Invocation.OrderedMap
import Invocation.Pattern.Reading
import Invocation.Value.Basic

/-!
# Specifications

A specification says which command is to be run: what stands in front, the command itself, and a list of entries that
add arguments. Variables are given in place or come from providers.
-/

namespace Invocation

/-! ## Entries -/

/-- How an entry turns into arguments. -/
inductive EntryKind where
  | plain
  | quoted
  | masked
  | tokenized
  | keyValue
  | properties
deriving DecidableEq, Inhabited

namespace EntryKind

def all : List EntryKind := [plain, quoted, masked, tokenized, keyValue, properties]

def word : EntryKind → Text
  | plain => "plain"
  | quoted => "quoted"
  | masked => "masked"
  | tokenized => "tokenized"
  | keyValue => "key_value"
  | properties => "properties"

/-- Whether an entry of this kind is one argument, made of its value. -/
def isSingle : EntryKind → Bool
  | plain | quoted | masked => true
  | _ => false

/-- Whether an entry of this kind puts a lead in front of each argument. -/
def hasLead : EntryKind → Bool
  | keyValue | properties => true
  | _ => false

end EntryKind

/-- The lead of entries that name none. -/
def defaultLead : Text := "-D"

/-- One member of the argument list. A value that is null is not there. -/
structure Entry where
  name : Option Text
  kind : EntryKind
  value : Value
  lead : Text
  pairs : OrderedMap Text Value
  properties : Option Text
  sensitive : Bool
deriving Inhabited

namespace Entry

/-- The name of the entry; one without a name goes by its kind. -/
def label (e : Entry) : Text :=
  match e.name with
  | some (c :: r) => c :: r
  | _ => e.kind.word

/-- Whether what the entry adds is secret. -/
def isSecret (e : Entry) : Bool := e.sensitive || e.kind == .masked

end Entry

/-! ## Providers -/

/-- Which keys come in and which go out again. -/
structure FilterRule where
  includes : Option Pattern
  excludes : Option Pattern

/-- Where a provider takes its variables from. -/
inductive ProviderKind where
  | environment
  | file
deriving DecidableEq, Inhabited

namespace ProviderKind

def all : List ProviderKind := [environment, file]

def word : ProviderKind → Text
  | environment => "env"
  | file => "dotenv"

def ofWord? (t : Text) : Option ProviderKind := all.find? fun k => k.word = t

/-- The report on a word that names no kind of provider. -/
def unknownMessage (word : Text) : Text := "Unknown provider type: " ++ word

end ProviderKind

/-- Which file wins where files of several directories define one key. -/
inductive Precedence where
  | deepFirst
  | shallowFirst
deriving DecidableEq, Inhabited

namespace Precedence

def all : List Precedence := [deepFirst, shallowFirst]

def word : Precedence → Text
  | deepFirst => "deep-first"
  | shallowFirst => "shallow-first"

end Precedence

/-- A source of variables. -/
structure Provider where
  kind : ProviderKind
  id : Text
  name : Option Text
  enabled : Bool
  hierarchical : Option Bool
  filename : Option Text
  path : Option Text
  precedence : Option Precedence
  filters : List FilterRule

/-! ## Specifications -/

structure Spec where
  version : Text
  command : List Text
  prepend : List Text
  windows : Bool
  assignments : OrderedMap Text Text
  providers : List Provider
  entries : List Entry

/-- The providers that are asked. -/
def Spec.enabledProviders (s : Spec) : List Provider := s.providers.filter Provider.enabled

end Invocation
