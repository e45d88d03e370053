import Invocation.Build.Draft

/-!
# Applying entries

An entry is applied to a draft by the steps that its kind asks for. What has become of it is read off the draft: the
arguments and the warnings that were not there before.
-/

namespace Invocation

namespace Entry

/-- The steps for an entry whose value has the text `value`. -/
def workFor (e : Entry) (value : Option Text) : Drafting Unit := do
  match e.kind, value with
  | .plain, none | .quoted, none | .masked, none => throw (.valueMissing e.kind)
  | .plain, some t => Draft.complete (if e.sensitive then .appendHidden (.ofText t) else .append (.ofText t))
  | .quoted, some t =>
    Draft.complete (if e.sensitive then .appendHidden (.ofText t.inQuotes) else .appendQuoted (.ofText t))
  | .masked, some t => Draft.complete (.appendHidden (.ofText t))
  | .tokenized, t =>
    if e.sensitive then forM (tokensOf t) fun token => Draft.complete (.appendHidden (.ofText token))
    else Draft.complete (.appendTokens t)
  | .keyValue, _ =>
    let pairs ← Draft.perform fun s => Attempt.inOrder (expandPair s) e.pairs.toList
    Draft.complete (.appendPairs e.lead (pairs.map fun pair => (.ofText pair.1, .ofText pair.2)) e.sensitive)
  | .properties, _ =>
    let d ← get
    Draft.complete (.appendProperties e.lead e.properties (.macros d.scope) e.sensitive)

/-- The value is expanded for every kind of entry, also for those that make no use of it. -/
def work (e : Entry) : Drafting Unit := do
  let value ← Draft.perform fun s => e.value.expand s
  e.workFor value

end Entry

/-- An entry with what has become of it. -/
structure Resolved where
  entry : Entry
  arguments : Arguments
  warnings : List Macro.Warning
  fault : Option EntryFault

namespace Resolved

/-- The message of a failure names the entry. -/
def error (r : Resolved) : Option Text :=
  r.fault.map fun f => "Argument '" ++ r.entry.label ++ "': " ++ f.message

def errors (r : Resolved) : List Text := r.error.toList

end Resolved

/-- The entry applied to the draft. A failure is noted and does not stop what comes after it. -/
def Entry.apply (e : Entry) : StateM Draft Resolved := do
  let before ← get
  let outcome ← e.work.run
  let after ← get
  let fault := match outcome with
    | .ok _ => none
    | .error f => some f
  return ⟨e, after.arguments.drop before.arguments.length, after.warnings.drop before.warnings.length, fault⟩

end Invocation
