import Invocation.Schema.Field
import Invocation.Spec.Basic

/-!
# Specifications from data

The fields of a specification in their order, with what they hold and what they are if they are left out.
-/

namespace Invocation

namespace Schema

open Checked

/-! ## Filters -/

def pattern : Reads Pattern := fun v =>
  (text v).andThen fun t =>
    match Pattern.ofText t with
    | .ok p => good p
    | .error (.overflow o) => halted o
    | .error f => fail (.badPattern t f)

def filterRule (ms : Members) : Checked FilterRule :=
  FilterRule.mk
    <$> withDefault ms "include" none (orNull pattern)
    <*> withDefault ms "exclude" none (orNull pattern)

/-- A member of a chain of filters: a rule, a mapping of texts, or a text, which is a pattern to include. A mapping or a
text that has the right form but a bad pattern in it is only found to be bad when all fields have been checked. -/
def filterMember : Reads (Checked FilterRule) := fun v =>
  match record "FilterRule" filterRule v with
  | good rule => good (good rule)
  | halted o => halted o
  | bad asRule =>
    match mapping text v, text v with
    | good _, _ => good (bad asRule)
    | _, good t => good (filterRule [(.text "include", .text t)])
    | asMapping, asText =>
      ((bad asRule : Checked (Checked FilterRule)).inside (.name "FilterRule"))
        <* asMapping.inside (.name "dict[str,str]") <* asText.inside (.name "str")

/-! ## Providers -/

/-- The fields of a provider. Of the filters with a bad pattern only the first one counts, and only where no field has
failed. -/
def provider (ms : Members) : Checked Provider :=
  let fields := (fun kind id name enabled hierarchical filename path precedence filters =>
      (filters, Provider.mk kind id name enabled hierarchical filename path precedence []))
    <$> required ms "type" (choice ProviderKind.all ProviderKind.word)
    <*> required ms "id" text
    <*> withDefault ms "name" none (orNull text)
    <*> withDefault ms "enabled" true truth
    <*> withDefault ms "hierarchical" none (orNull truth)
    <*> withDefault ms "filename" none (orNull text)
    <*> withDefault ms "path" none (orNull text)
    <*> withDefault ms "precedence" none (orNull (choice Precedence.all Precedence.word))
    <*> withDefault ms "filter_chain" [] (list filterMember)
  fields.andThen fun (filters, p) => (untilBad filters).map fun rules => { p with filters := rules }

/-! ## Entries -/

def argument (ms : Members) : Checked Entry :=
  Entry.mk
    <$> withDefault ms "name" none (orNull text)
    <*> withDefault ms "kind" .plain (choice EntryKind.all EntryKind.word)
    <*> withDefault ms "value" .null anything
    <*> withDefault ms "prefix" defaultLead text
    <*> withDefault ms "pairs" ∅ (mapping anything)
    <*> withDefault ms "properties" none (orNull text)
    <*> withDefault ms "sensitive" false truth

/-! ## Specifications -/

def spec (ms : Members) : Checked Spec :=
  Spec.mk
    <$> required ms "version" text
    <*> required ms "command" (list text)
    <*> withDefault ms "prepend" [] (list text)
    <*> withDefault ms "windows" false truth
    <*> withDefault ms "variables" ∅ (mapping text)
    <*> withDefault ms "variable_providers" [] (list (record "Provider" provider))
    <*> withDefault ms "arguments" [] (list (record "ArgumentEntry" argument))

end Schema

/-! ## Documents -/

/-- Why a document is no specification. -/
inductive SpecFault where
  | notMapping (kind : String)
  | keyNotText
  | invalid (details : List Schema.Detail)
  | halted (o : Pattern.Overflow)
deriving DecidableEq

/-- Where a fault is, the way to it separated by dots. -/
def Schema.Detail.place (d : Schema.Detail) : Text :=
  Text.joinWith "." (d.location.map fun | .name t => t | .number n => Text.ofInt n)

namespace SpecFault

/-- The number of faults, and each of them under the place where it is. -/
def invalidMessage (details : List Schema.Detail) : Text :=
  let count : Text :=
    if details.length = 1 then "1 validation error" else Text.ofNat details.length ++ " validation errors"
  let lines := fun (d : Schema.Detail) =>
    "\n" ++ d.place ++ "\n  " ++ d.fault.message ++ " [type=" ++ d.fault.kind ++ "]"
  count ++ " for CommandSpec" ++ details.flatMap lines

def message : SpecFault → Text
  | notMapping kind => "argv_builder.models.CommandSpec() argument after ** must be a mapping, not " ++ kind
  | keyNotText => "keywords must be strings"
  | invalid details => invalidMessage details
  | halted o => o.message

end SpecFault

/-- The name by which the kind of a value is reported. -/
def Value.kindName : Value → String
  | null => "NoneType"
  | bool _ => "bool"
  | int _ => "int"
  | float _ => "float"
  | text _ => "str"
  | bytes _ => "bytes"
  | date _ => "datetime.date"
  | timestamp _ => "datetime.datetime"
  | list _ => "list"
  | pair _ _ => "tuple"
  | mapping _ => "dict"
  | set _ => "set"
  | labelled _ v => v.kindName
  | enclosing _ isMapping => if isMapping then "dict" else "list"

/-- The specification that a document holds. A document that counts as nothing is an empty mapping. -/
def Spec.ofDocument (v : Value) : Except SpecFault Spec :=
  let document := if v.isEmpty then .mapping [] else v.opened
  match document with
  | .mapping ms =>
    if ms.all fun e => match e.1 with | .text _ => true | _ => false then
      match Schema.spec ms with
      | .good s => .ok s
      | .bad details => .error (.invalid details)
      | .halted o => .error (.halted o)
    else .error .keyNotText
  | v => .error (.notMapping v.kindName)

end Invocation
