import Invocation.Build.Entry
import Invocation.Proofs.Argument.Growth
import Invocation.Proofs.Build.Entry

/-!
# Work on drafts

All work on a draft adds arguments at the end of its list and warnings behind those recorded. The work for an entry
adds what the attempt at the entry results in, and nothing if the attempt fails.
-/

namespace Invocation

namespace Draft

/-- The draft with more arguments at the end of its list, and what has been warned about on the way. -/
def extend (d : Draft) (as : Arguments) (warnings : List Macro.Warning) : Draft :=
  { d with arguments := d.arguments ++ as }.note warnings

variable {α β : Type} (d : Draft)

section extend

variable (as bs : Arguments) (ws vs : List Macro.Warning)

@[simp] theorem warnings_mk (s : Macro.Scope) : (Draft.mk as ⟨s, ws⟩).warnings = ws := rfl

@[simp] theorem scope_extend : (d.extend as ws).scope = d.scope := rfl

@[simp] theorem arguments_extend : (d.extend as ws).arguments = d.arguments ++ as := rfl

@[simp] theorem warnings_extend : (d.extend as ws).warnings = d.warnings ++ ws := rfl

@[simp] theorem extend_nil : d.extend [] [] = d := by
  simp [extend, note, warnings]

@[simp] theorem extend_extend : (d.extend as ws).extend bs vs = d.extend (as ++ bs) (ws ++ vs) := by
  simp [extend, note, warnings]

end extend

/-! ## Runs -/

theorem run_andThen (w : StateM Draft α) (next : α → StateM Draft β) :
    (w >>= next).run d = (next (w.run d).1).run (w.run d).2 :=
  rfl

/-- Work that goes on if the first part of it has succeeded. -/
theorem run_bind (w : Drafting α) (next : α → Drafting β) :
    (w >>= next).run.run d =
      match w.run.run d with
      | (.ok x, d') => (next x).run.run d'
      | (.error f, d') => (.error f, d') := by
  simp only [ExceptT.run_bind, StateT.run_bind]
  rcases w.run.run d with ⟨x | f, d'⟩ <;> rfl

theorem run_expand (t : Text) :
    (expand t).run d = ((d.scope.expand t).text, d.extend [] (d.scope.expand t).warnings) := by
  simp [extend]
  rfl

theorem run_mapM_expand (ts : List Text) :
    (ts.mapM expand).run d =
      (ts.map fun t => (d.scope.expand t).text, d.extend [] (ts.flatMap fun t => (d.scope.expand t).warnings)) := by
  induction ts generalizing d with
  | nil => exact congrArg (Prod.mk []) d.extend_nil.symm
  | cons t ts ih =>
      rw [List.mapM_cons, run_andThen, run_expand, run_andThen, ih]
      simp
      rfl

theorem run_perform (attempt : Macro.Scope → Attempt α) :
    (perform attempt).run.run d = ((attempt d.scope).result, d.extend [] (attempt d.scope).warnings) := by
  simp [extend]
  rfl

/-- The draft after the step, whether the step has met a fault or not. -/
def stepped (step : Step) : Draft :=
  { d with arguments := (step.take .top d.arguments).arguments }.note (step.take .top d.arguments).warnings

theorem stepped_eq {step : Step} {as : Arguments} {warnings : List Macro.Warning} {fault : Option ArgumentFault}
    (h : step.take .top d.arguments = ⟨d.arguments ++ as, warnings, fault⟩) :
    d.stepped step = d.extend as warnings := by
  rw [stepped, h]
  rfl

/-- A step that meets no fault and has nothing to warn of. -/
theorem run_take {d : Draft} {step : Step} {as : Arguments} (h : step.take .top d.arguments = ⟨as, [], none⟩) :
    (take step).run d = (none, { d with arguments := as }) := by
  have htake : (take step).run d = ((step.take .top d.arguments).fault, d.stepped step) := rfl
  rw [htake, stepped, h]
  simp [note, warnings]

theorem run_complete_eq (step : Step) :
    (complete step).run.run d =
      match (step.take .top d.arguments).fault with
      | none => (.ok (), d.stepped step)
      | some f => (.error (.argument f), d.stepped step) := by
  have htake : (liftM (take step) : Drafting (Option ArgumentFault)).run.run d =
      (.ok (step.take .top d.arguments).fault, d.stepped step) := rfl
  rw [complete, run_bind, htake]
  cases (step.take .top d.arguments).fault <;> rfl

theorem run_complete {step : Step} {as : Arguments} {warnings : List Macro.Warning}
    (h : step.take .top d.arguments = ⟨d.arguments ++ as, warnings, none⟩) :
    (complete step).run.run d = (.ok (), d.extend as warnings) := by
  rw [run_complete_eq, d.stepped_eq h, h]

/-- A step that leaves nothing behind but its fault. -/
theorem run_complete_of_fault {step : Step} {f : ArgumentFault}
    (h : step.take .top d.arguments = ⟨d.arguments, [], some f⟩) :
    (complete step).run.run d = (.error (.argument f), d.extend [] []) := by
  have hnothing : step.take .top d.arguments = ⟨d.arguments ++ [], [], some f⟩ := by rw [h, List.append_nil]
  rw [run_complete_eq, d.stepped_eq hnothing, hnothing]

/-! ## Work -/

/-- The work adds what the attempt results in, and nothing if the attempt fails; it fails and warns as the attempt
does. -/
def Adds (w : Drafting Unit) (attempt : Macro.Scope → Attempt Arguments) : Prop :=
  ∀ d : Draft, w.run.run d =
    ((attempt d.scope).result.map fun _ => (), d.extend (attempt d.scope).added (attempt d.scope).warnings)

theorem adds_throw (f : EntryFault) : Adds (throw f) fun _ => .fail f :=
  fun d => congrArg (Prod.mk _) d.extend_nil.symm

/-- An attempt in front of the work is made first; if it fails, there is no work. -/
theorem Adds.perform {first : Macro.Scope → Attempt α} {next : α → Drafting Unit}
    {rest : Macro.Scope → α → Attempt Arguments} (h : ∀ x, Adds (next x) fun s => rest s x) :
    Adds (Draft.perform first >>= next) fun s => (first s).andThen (rest s) := by
  intro d
  rw [run_bind, run_perform]
  cases hfirst : (first d.scope).result with
  | error f => simp [Attempt.andThen, Attempt.added, Except.map, hfirst]
  | ok x =>
      have hrest := h x (d.extend [] (first d.scope).warnings)
      simpa [Attempt.andThen, Attempt.added, hfirst] using hrest

/-- A step that adds the same to every list. -/
theorem adds_complete {step : Step} {as : Arguments}
    (h : ∀ bs : Arguments, step.take .top bs = ⟨bs ++ as, [], none⟩) :
    Adds (complete step) fun _ => .done as :=
  fun d => d.run_complete (h d.arguments)

theorem adds_forM_hidden (ts : List Text) :
    Adds (forM ts fun t => complete (.appendHidden (.ofText t))) fun _ => .done (ts.map Argument.hidden) := by
  intro d
  induction ts generalizing d with
  | nil => exact congrArg (Prod.mk _) d.extend_nil.symm
  | cons t ts ih =>
      have hstep : (Step.appendHidden (.ofText t)).take .top d.arguments =
          ⟨d.arguments ++ [.hidden t], [], none⟩ := rfl
      rw [List.forM_cons, run_bind, d.run_complete hstep]
      simpa [Attempt.done, Attempt.added, Except.map] using ih (d.extend [.hidden t] [])

end Draft

/-! ## Entries -/

namespace Entry

variable (e : Entry)

theorem isSecret_of_kind {e : Entry} (h : e.kind ≠ .masked) : e.isSecret = e.sensitive := by
  simp [isSecret, h]

theorem adds_pairs : Draft.Adds
    (do
      let pairs ← Draft.perform fun s => Attempt.inOrder (expandPair s) e.pairs.toList
      Draft.complete (.appendPairs e.lead (pairs.map fun pair => (.ofText pair.1, .ofText pair.2)) e.isSecret))
    fun s => e.pairArguments s := by
  have hadds : Draft.Adds _ fun s => (Attempt.inOrder (expandPair s) e.pairs.toList).andThen _ :=
    .perform fun pairs => Draft.adds_complete fun as => Step.take_appendPairs .top as e.lead pairs e.isSecret
  simpa only [pairArguments, Attempt.andThen_done] using hadds

theorem adds_properties : Draft.Adds
    (do
      let d ← get
      Draft.complete (.appendProperties e.lead e.properties (.macros d.scope) e.isSecret))
    fun s => e.propertyArguments s := by
  intro d
  rw [Draft.run_bind, show (get : Drafting Draft).run.run d = (.ok d, d) from rfl]
  cases hp : e.properties with
  | none =>
      have htake : (Step.appendProperties e.lead none (.macros d.scope) e.isSecret).take .top d.arguments =
          ⟨d.arguments ++ [], [], none⟩ := by
        simp [Step.take, Arguments.appendProperties]
      simpa [propertyArguments, hp, Attempt.done, Attempt.added, Except.map] using d.run_complete htake
  | some text =>
      cases hr : Invocation.propertyArguments e.lead (.macros d.scope) e.isSecret text with
      | error f =>
          have htake : (Step.appendProperties e.lead (some text) (.macros d.scope) e.isSecret).take .top d.arguments =
              ⟨d.arguments, [], some (.properties f)⟩ := by
            simp [Step.take, Arguments.appendProperties, hr]
          simpa [propertyArguments, hp, hr, Attempt.fail, Attempt.added, Except.map] using d.run_complete_of_fault htake
      | ok added =>
          have htake : (Step.appendProperties e.lead (some text) (.macros d.scope) e.isSecret).take .top d.arguments =
              ⟨d.arguments ++ added.1, added.2, none⟩ := by
            simp [Step.take, Arguments.appendProperties, hr]
          simpa [propertyArguments, hp, hr, Attempt.added, Except.map] using d.run_complete htake

/-- Each kind of entry marks what it adds in its own way, and all of them as the entry says. -/
theorem adds_workFor (value : Option Text) : Draft.Adds (e.workFor value) fun s => e.argumentsFor s value := by
  cases hk : e.kind with
  | plain =>
      have hs : e.isSecret = e.sensitive := isSecret_of_kind (by simp [hk])
      cases value with
      | none => simpa only [workFor, argumentsFor, hk] using Draft.adds_throw _
      | some t =>
          simp only [workFor, argumentsFor, hk, hs]
          cases e.sensitive <;> exact Draft.adds_complete fun _ => rfl
  | quoted =>
      have hs : e.isSecret = e.sensitive := isSecret_of_kind (by simp [hk])
      cases value with
      | none => simpa only [workFor, argumentsFor, hk] using Draft.adds_throw _
      | some t =>
          simp only [workFor, argumentsFor, hk, hs]
          cases e.sensitive <;> exact Draft.adds_complete fun _ => rfl
  | masked =>
      have hs : e.isSecret = true := by simp [isSecret, hk]
      cases value with
      | none => simpa only [workFor, argumentsFor, hk] using Draft.adds_throw _
      | some t =>
          simp only [workFor, argumentsFor, hk, hs]
          exact Draft.adds_complete fun _ => rfl
  | tokenized =>
      have hs : e.isSecret = e.sensitive := isSecret_of_kind (by simp [hk])
      simp only [workFor, argumentsFor, hk, hs]
      cases e.sensitive with
      | true => exact Draft.adds_forM_hidden _
      | false => exact Draft.adds_complete fun as => Step.take_appendTokens .top as value
  | keyValue =>
      have hs : e.isSecret = e.sensitive := isSecret_of_kind (by simp [hk])
      simpa only [workFor, argumentsFor, hk, hs] using e.adds_pairs
  | properties =>
      have hs : e.isSecret = e.sensitive := isSecret_of_kind (by simp [hk])
      simpa only [workFor, argumentsFor, hk, hs] using e.adds_properties

theorem adds_work : Draft.Adds e.work fun s => e.attempt s :=
  .perform e.adds_workFor

theorem run_apply_of_ok {d d' : Draft} (h : e.work.run.run d = (.ok (), d')) :
    e.apply.run d =
      (⟨e, d'.arguments.drop d.arguments.length, d'.warnings.drop d.warnings.length, none⟩, d') := by
  have hget : (get : StateM Draft Draft).run d = (d, d) := rfl
  rw [apply, Draft.run_andThen, hget, Draft.run_andThen, h]
  rfl

theorem run_apply_of_error {d d' : Draft} {f : EntryFault} (h : e.work.run.run d = (.error f, d')) :
    e.apply.run d =
      (⟨e, d'.arguments.drop d.arguments.length, d'.warnings.drop d.warnings.length, some f⟩, d') := by
  have hget : (get : StateM Draft Draft).run d = (d, d) := rfl
  rw [apply, Draft.run_andThen, hget, Draft.run_andThen, h]
  rfl

/-- What becomes of an entry depends on the scope of the draft only, and the draft grows by just that. -/
theorem run_apply (d : Draft) :
    e.apply.run d =
      (e.resolve d.scope, d.extend (e.resolve d.scope).arguments (e.resolve d.scope).warnings) := by
  have hwork := e.adds_work d
  cases hr : (e.attempt d.scope).result with
  | ok as =>
      rw [hr] at hwork
      rw [e.run_apply_of_ok hwork]
      simp [resolve, Attempt.added, hr]
  | error f =>
      rw [hr] at hwork
      rw [e.run_apply_of_error hwork]
      simp [resolve, Attempt.added, hr]

theorem run_mapM_apply (es : List Entry) (d : Draft) :
    (es.mapM apply).run d =
      (es.map (resolve d.scope),
        d.extend (es.flatMap fun e => (e.resolve d.scope).arguments)
          (es.flatMap fun e => (e.resolve d.scope).warnings)) := by
  induction es generalizing d with
  | nil => exact congrArg (Prod.mk []) d.extend_nil.symm
  | cons e es ih =>
      rw [List.mapM_cons, Draft.run_andThen, run_apply, Draft.run_andThen, ih]
      simp
      rfl

end Entry

end Invocation
