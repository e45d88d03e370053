import Invocation.Properties.Parse
import Invocation.Spec.Basic

/-!
# Problems of specifications

What is wrong with a specification of the right form: nothing to run, names that are used twice, entries without what
their kind needs. Some problems are only looked for on request.
-/

namespace Invocation

inductive Problem where
  | nothingToRun
  | duplicateProvider (id : Text)
  | duplicateEntry (name : Text)
  | valueMissing (label : Text) (kind : EntryKind)
  | pairsMissing (label : Text)
  | badProperties (label : Text) (error : Properties.Error)
  | nameMissing (number : Nat) (kind : EntryKind)
  | leadMissing (label : Text)
  | emptySecret (label : Text)
deriving DecidableEq

def Problem.message : Problem → Text
  | nothingToRun => "Command must not be empty"
  | duplicateProvider id => "Duplicate provider ID: '" ++ id ++ "'"
  | duplicateEntry name => "Duplicate argument name: '" ++ name ++ "'"
  | valueMissing label kind => "Argument '" ++ label ++ "' of kind '" ++ kind.word ++ "' requires a value"
  | pairsMissing label => "Argument '" ++ label ++ "' of kind 'key_value' requires pairs"
  | badProperties label error => "Argument '" ++ label ++ "' has invalid properties: " ++ error.message
  | nameMissing number kind => "Argument #" ++ Text.ofNat number ++ " (" ++ kind.word ++ ") should have a name"
  | leadMissing label => "Argument '" ++ label ++ "' should have a prefix"
  | emptySecret label => "Sensitive argument '" ++ label ++ "' should not be empty"

/-- The members of a list that have come up before, given those that have. -/
def duplicates {α : Type} [DecidableEq α] (seen : List α) : List α → List α
  | [] => []
  | a :: r => if a ∈ seen then a :: duplicates seen r else duplicates (a :: seen) r

namespace Entry

def valueIsNull (e : Entry) : Bool := e.value matches .null

def valueIsEmptyText (e : Entry) : Bool := e.value matches .text []

/-- What the kind of the entry needs. -/
def fieldProblems (e : Entry) : List Problem :=
  if (e.kind.isSingle || e.kind == .tokenized) && e.valueIsNull then [.valueMissing e.label e.kind]
  else if e.kind == .keyValue && e.pairs.isEmpty then [.pairsMissing e.label]
  else []

def propertyProblems (e : Entry) : List Problem :=
  match e.kind, e.properties with
  | .properties, some text =>
    match Properties.parse text with
    | .ok _ => []
    | .error f => [.badProperties e.label f]
  | _, _ => []

/-- What is asked of the entry with the given number in a strict check. -/
def strictProblems (number : Nat) (e : Entry) : List Problem :=
  (if (e.name.getD []).isEmpty then [.nameMissing number e.kind] else [])
    ++ (if e.kind.hasLead && e.lead.isEmpty then [.leadMissing e.label] else [])
    ++ (if e.isSecret && e.kind.isSingle && e.valueIsEmptyText then [.emptySecret e.label] else [])

end Entry

namespace Spec

def commandProblems (s : Spec) : List Problem :=
  if s.command.isEmpty && s.prepend.isEmpty then [.nothingToRun] else []

def providerProblems (s : Spec) : List Problem :=
  (duplicates [] (s.providers.map Provider.id)).map .duplicateProvider

/-- Entries without a name do not count. -/
def nameProblems (s : Spec) : List Problem :=
  (duplicates [] (s.entries.filterMap Entry.name)).map .duplicateEntry

def fieldProblems (s : Spec) : List Problem := s.entries.flatMap Entry.fieldProblems

def propertyProblems (s : Spec) : List Problem := s.entries.flatMap Entry.propertyProblems

def strictProblemsFrom (number : Nat) : List Entry → List Problem
  | [] => []
  | e :: es => e.strictProblems number ++ strictProblemsFrom (number + 1) es

def strictProblems (s : Spec) : List Problem := strictProblemsFrom 1 s.entries

def problems (s : Spec) (strict : Bool) : List Problem :=
  s.commandProblems ++ s.providerProblems ++ s.nameProblems ++ s.fieldProblems ++ s.propertyProblems
    ++ if strict then s.strictProblems else []

end Spec

end Invocation
