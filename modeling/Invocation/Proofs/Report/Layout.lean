import Invocation.Proofs.Build.Layout
import Invocation.Report.Basic

/-!
# The layout of a report

A report shows the arguments of a build twice: all in a row, and entry by entry. Both show the same.
-/

namespace Invocation

namespace Json

/-- The member of an object; a member that is not there is null. -/
def member (name : String) : Json → Json
  | object members => ((members.find? fun m => m.1 = Text.ofString name).map Prod.snd).getD null
  | _ => null

def items : Json → List Json
  | array items => items
  | _ => []

end Json

namespace Report

variable (r : Report)

theorem items_values_entryJson (resolved : Resolved) :
    ((entryJson resolved).member "values").items = resolved.arguments.shownValues.map Json.text := by
  simp [entryJson, Json.record, Json.member, Json.items, Json.texts]

theorem items_arguments_json : (r.json.member "arguments").items = r.build.resolved.map entryJson := by
  simp [json, Json.record, Json.member, Json.items]

theorem items_argv_json :
    ((r.json.member "build").member "argv").items = r.build.arguments.shownValues.map Json.text := by
  simp [json, Json.record, Json.member, Json.items, Json.texts]

/-- The values of the entries stand at the end of the arguments. -/
theorem items_values_json (s : Spec) (context : Context) (assignments : OrderedMap Text Text) :
    let r := ofSpec s context assignments false
    ((r.json.member "arguments").items.flatMap fun a => (a.member "values").items) =
      ((r.json.member "build").member "argv").items.drop (s.prepend.length + s.command.length) := by
  intro r
  have harguments : r.build.arguments = _ := s.arguments_build_plain ⟨context, assignments⟩
  have hresolved (rs : List Resolved) :
      (rs.map entryJson).flatMap (fun a => (a.member "values").items) =
        (Arguments.shownValues (rs.flatMap Resolved.arguments)).map Json.text := by
    simp [List.flatMap_map, items_values_entryJson, Arguments.shownValues, List.map_flatMap]
  rw [items_arguments_json, items_argv_json, harguments, hresolved, Arguments.shownValues_append, List.map_append]
  refine (List.drop_left' ?_).symm
  simp [Arguments.shownValues]

/-- The arguments of a command that is not wrapped stand in the order in front, command, entries, although what stands
in front is worked on last. The stretch of each entry is secret as a whole or not at all; errors come entry by entry,
warnings in the order of the work; and what is shown entry by entry is the end of what is shown in a row. -/
theorem ofSpec_layout (s : Spec) (context : Context) (assignments : OrderedMap Text Text) :
    let scope : Macro.Scope := ⟨context, assignments⟩
    let r := ofSpec s context assignments false
    let b := r.build
    let expanded := fun (ts : List Text) => ts.map fun t => (scope.expand t).text
    let warnings := fun (ts : List Text) => ts.flatMap fun t => (scope.expand t).warnings
    b.resolved.map Resolved.entry = s.entries ∧
    b.arguments.values =
      expanded s.prepend ++ expanded s.command ++ (b.resolved.flatMap fun r => r.arguments.values) ∧
    b.arguments.flags =
      List.replicate (s.prepend.length + s.command.length) false ++
        (b.resolved.flatMap fun r => List.replicate r.arguments.length r.entry.isSecret) ∧
    b.arguments.flags.length = b.arguments.values.length ∧
    b.errors = (b.resolved.flatMap fun r => r.errors) ∧
    b.warnings =
      warnings s.command ++ (s.entries.flatMap fun e => warnings e.expandedTemplates) ++ warnings s.prepend ∧
    ((r.json.member "arguments").items.flatMap fun a => (a.member "values").items) =
      ((r.json.member "build").member "argv").items.drop (s.prepend.length + s.command.length) := by
  intro scope r b expanded warnings
  exact ⟨s.entries_build scope false, s.values_build scope, s.flags_build scope, by simp [Arguments.values], rfl,
    s.warnings_build scope false, items_values_json s context assignments⟩

end Report

end Invocation
