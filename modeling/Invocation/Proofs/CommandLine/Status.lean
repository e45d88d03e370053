import Invocation.CommandLine.Run
import Invocation.Proofs.CommandLine.Printing

/-!
# Exit status

An action on a specification succeeds if the specification loads, its dry run has nothing to report and the console
prints what it is given. Names of entries, the version, the name of the file and warnings are given to it as markup, so
that they can make an action fail; of these, all but the names are printed on demand only.
-/

namespace Invocation

namespace Text

/-- A number is written in digits only. -/
theorem not_mem_ofNat {c : Char} (h : c.isDigit = false) (n : Nat) : .scalar c ∉ ofNat n := by
  intro hc
  obtain ⟨d, hd, heq⟩ := List.mem_map.mp hc
  cases heq
  rw [Nat.repr_eq_ofList_toDigits, String.toList_ofList] at hd
  have hdigit := Nat.isDigit_of_mem_toDigits (by decide) (by decide) hd
  rw [h] at hdigit
  cases hdigit

end Text

namespace CommandLine

open Console Terminal Printing

/-! ## Parts of actions -/

variable (w : Surroundings) (file : Path) (s : Settings)

theorem yields_checkVerbosity : Yields (checkVerbosity w s) fun _ => ¬(s.verbose = true ∧ s.quiet = true) := by
  rw [checkVerbosity]
  cases hboth : s.verbose && s.quiet with
  | false => exact (yields_pure ()).congr fun _ => by simpa using hboth
  | true =>
      refine ((yields_emit _).andThen (yields_throw .refused)).congr fun _ => ?_
      simpa using hboth

theorem yields_loadSpec : Yields (loadSpec w file) fun spec => Spec.load w.host.files file = .ok spec := by
  rw [loadSpec]
  cases Spec.load w.host.files file with
  | ok spec => exact (yields_pure spec).congr fun _ => by simp [eq_comm]
  | error f => exact (yields_throw _).congr fun _ => by simp

/-- What a dry run of the specification gives. -/
def dryRun (spec : Spec) (workingDirectory : Option Text) (windows : Option Bool) :
    Except Provider.LoadFault Report :=
  Report.dryRun spec w.context ⟨w.host, w.host.environment, workingDirectory⟩ windows

theorem eq_ok_of_toOption {ε α : Type} {e : Except ε α} {a : α} (h : e.toOption = some a) : e = .ok a := by
  cases e with
  | error f => cases h
  | ok b => exact congrArg Except.ok (Option.some.inj h)

/-- A file that was found to load and to have a dry run. -/
theorem exists_dryRun {α : Type} {w : Surroundings} {file : Path} {f : Spec → Report → α} {x : α}
    (h : ((Spec.load w.host.files file).toOption.bind fun spec =>
      (dryRun w spec none none).toOption.map (f spec)) = some x) :
    ∃ spec, Spec.load w.host.files file = .ok spec ∧ ∃ r, dryRun w spec none none = .ok r ∧ f spec r = x := by
  obtain ⟨spec, hload, hspec⟩ := Option.bind_eq_some_iff.mp h
  obtain ⟨r, hr, hfound⟩ := Option.map_eq_some_iff.mp hspec
  exact ⟨spec, eq_ok_of_toOption hload, r, eq_ok_of_toOption hr, hfound⟩

theorem yields_report (spec : Spec) (workingDirectory : Option Text) (windows : Option Bool) :
    Yields (report w spec workingDirectory windows) fun r => dryRun w spec workingDirectory windows = .ok r := by
  rw [report, dryRun]
  cases Report.dryRun spec w.context ⟨w.host, w.host.environment, workingDirectory⟩ windows with
  | ok r => exact (yields_pure r).congr fun _ => by simp [eq_comm]
  | error f => exact (yields_throw _).congr fun _ => by simp

theorem yields_refuse (heading : Text) (complaints : List Text) :
    Yields (refuse w heading complaints) fun _ => complaints = [] := by
  rw [refuse]
  cases complaints with
  | nil => exact (yields_pure ()).congr fun _ => by simp
  | cons c cs =>
      exact ((yields_printList w.console heading (c :: cs)).andThen (yields_throw .refused)).congr fun _ => by simp

/-! ## Lines -/

/-- A count behind a text. -/
theorem isBalanced_count (lead : String) (h : IsBare (Text.ofString lead)) (n : Nat) :
    IsBalanced (lead ++ Text.ofNat n) := by
  have hcount : IsBare (Text.ofNat n) := ⟨Text.not_mem_ofNat (by decide) n, Text.not_mem_ofNat (by decide) n⟩
  exact .plain ((isHarmless_ofString h).append (isHarmless_ofString hcount))

/-- A line that is given as it is, in one style. -/
theorem isBalanced_line {line : Text} (lead word body : String) (hword : Text.ofString word ∈ printedStyles)
    (hbare : IsBare (Text.ofString lead) ∧ IsBare (Text.ofString body))
    (hline : line = lead ++ ("[" ++ Text.ofString word ++ "]" ++
      (body ++ ("[" ++ .scalar '/' :: Text.ofString word ++ "]")))) :
    IsBalanced line := by
  rw [hline]
  exact .styled (isHarmless_ofString hbare.1) (isHarmless_ofString hbare.2) hword

theorem isBalanced_semanticValidation : IsBalanced "[blue]Performing semantic validation...[/blue]" :=
  isBalanced_line "" "blue" "Performing semantic validation..." (by decide) (by decide) (by simp [Text.ofString])

theorem isBalanced_dryRunValidation : IsBalanced "[blue]Performing dry run validation...[/blue]" :=
  isBalanced_line "" "blue" "Performing dry run validation..." (by decide) (by decide) (by simp [Text.ofString])

theorem isBalanced_valid : IsBalanced "[green]✓ Specification is valid[/green]" :=
  isBalanced_line "" "green" "✓ Specification is valid" (by decide) (by decide) (by simp [Text.ofString])

theorem isBalanced_strictlyValid : IsBalanced "[green]✓ Specification is valid (strict mode)[/green]" :=
  isBalanced_line "" "green" "✓ Specification is valid (strict mode)" (by decide) (by decide) (by simp [Text.ofString])

theorem isBalanced_commandLine : IsBalanced "\n[bold]Command Line:[/bold]" :=
  isBalanced_line "\n" "bold" "Command Line:" (by decide) (by decide) (by simp [Text.ofString])

/-- A harmless text behind some words, in one colour. -/
theorem isBalanced_colored {line t : Text} (word lead : String) (hword : Text.ofString word ∈ printedStyles)
    (hlead : IsBare (Text.ofString lead)) (ht : IsHarmless t)
    (hline : line = "[" ++ Text.ofString word ++ "]" ++
      ((lead ++ t) ++ ("[" ++ .scalar '/' :: Text.ofString word ++ "]"))) :
    IsBalanced line := by
  have hnothing : IsHarmless [] := ⟨⟨List.not_mem_nil, List.not_mem_nil⟩, .nil⟩
  rw [hline]
  exact .styled hnothing ((isHarmless_ofString hlead).append ht) hword

theorem isBalanced_warningLine {warning : Macro.Warning} (h : IsHarmless warning.message) :
    IsBalanced (warningLine warning) :=
  isBalanced_colored "yellow" "Warning: " (by decide) (by decide) h (by simp [warningLine, Text.ofString])

theorem isBalanced_loadedLine {file : Path} (h : IsHarmless file.text) : IsBalanced (loadedLine file) :=
  isBalanced_colored "blue" "Loaded specification from " (by decide) (by decide) h (by simp [loadedLine, Text.ofString])

/-- The first tag of the text is one that closes a style. -/
def ClosesFirst (name t : Text) : Prop :=
  IsLowerWord name ∧ ∃ lead rest, IsBare lead ∧ t = lead ++ ("[" ++ .scalar '/' :: name ++ "]" ++ rest)

theorem ClosesFirst.closesUnopened {name t : Text} (h : ClosesFirst name t) : ClosesUnopened t := by
  obtain ⟨hname, lead, rest, hlead, rfl⟩ := h
  exact .alone rest hlead hname

theorem ClosesFirst.warningLine {name : Text} {warning : Macro.Warning} (h : ClosesFirst name warning.message)
    (hne : name ≠ "yellow") : ClosesUnopened (warningLine warning) := by
  obtain ⟨hname, lead, rest, hlead, hmessage⟩ := h
  have hline : Printing.warningLine warning = ([] : Text) ++ ("[" ++ Text.ofString "yellow" ++ "]" ++
      (("Warning: " ++ lead) ++ ("[" ++ .scalar '/' :: name ++ "]" ++ (rest ++ "[/yellow]")))) := by
    simp [Printing.warningLine, hmessage, Text.ofString]
  have hbefore : IsBare ("Warning: " ++ lead : Text) := IsBare.append (by decide) hlead
  rw [hline]
  exact .within _ ⟨List.not_mem_nil, List.not_mem_nil⟩ (by decide) hbefore hname hne

/-! ## Actions -/

/-- What `render` prints in the end is printed. -/
def RenderPrints (s : Settings) (r : Report) : Prop :=
  if s.json then Prints (w.console.json r.json)
  else if s.verbose then
    (∀ warning ∈ r.build.warnings, Prints (w.console.markup (warningLine warning))) ∧
      Prints (w.console.panel "Command Plan" (w.console.escape r.text))
  else Prints (w.console.plain r.build.display)

theorem yields_render : Yields (render w file s) fun _ =>
    ¬(s.verbose = true ∧ s.quiet = true) ∧ ∃ spec, Spec.load w.host.files file = .ok spec ∧
      ∃ r, dryRun w spec s.workingDirectory s.windows = .ok r ∧ r.build.errors = [] ∧ RenderPrints w s r :=
  (yields_checkVerbosity w s).andThen ((yields_loadSpec w file).bind fun spec =>
    (yields_report w spec s.workingDirectory s.windows).bind fun r =>
      (yields_refuse w _ r.build.errors).andThen (.ite (yields_emit (w.console.json r.json))
        (.ite ((yields_printWarnings w.console r.build.warnings).andThen (yields_emit _)) (yields_emit _))))

/-- What `validate` prints on demand is printed. -/
def ValidatePrints (spec : Spec) (r : Report) : Prop :=
  Prints (w.console.markup (loadedLine file)) ∧ Prints (w.console.markup ("Version: " ++ spec.version)) ∧
    ∀ warning ∈ r.build.warnings, Prints (w.console.markup (warningLine warning))

variable {w} in
theorem yields_validate (hc : w.console.Lawful) : Yields (validate w file s) fun _ =>
    ¬(s.verbose = true ∧ s.quiet = true) ∧ ∃ spec, Spec.load w.host.files file = .ok spec ∧
      spec.problems s.strict = [] ∧ ∃ r, dryRun w spec none none = .ok r ∧ r.build.errors = [] ∧
        (s.verbose = true → ValidatePrints w file spec r) := by
  have hvalid : Yields (do
      if !s.quiet then
        if s.strict then emit (w.console.markup "[green]✓ Specification is valid (strict mode)[/green]")
        else emit (w.console.markup "[green]✓ Specification is valid[/green]")) fun _ => True := by
    refine (Yields.ite (.ite (yields_emit _) (yields_emit _)) (yields_pure ())).congr fun _ => ?_
    simp [hc.balanced isBalanced_valid, hc.balanced isBalanced_strictlyValid]
  have hreport := fun spec => (yields_report w spec none none).bind fun r =>
    (yields_refuse w "[red]Validation failed:[/red]" r.build.errors).andThen
      (.when ((yields_printWarnings w.console r.build.warnings).andThen hvalid) hvalid s.verbose)
  have hproblems := fun spec : Spec =>
    (yields_refuse w "[red]Semantic validation failed:[/red]" ((spec.problems s.strict).map Problem.message)).andThen
      (.either (.afterPrinted (hc.balanced isBalanced_dryRunValidation) (hreport spec)) (hreport spec) s.verbose)
  have hintroduction := fun spec : Spec =>
    ((yields_emit (w.console.markup (loadedLine file))).andThen <|
      (yields_emit (w.console.markup ("Version: " ++ spec.version))).andThen <|
        .afterPrinted (hc.balanced (isBalanced_count "Providers: " (by decide) spec.providers.length)) <|
          .afterPrinted (hc.balanced (isBalanced_count "Arguments: " (by decide) spec.entries.length)) <|
            .afterPrinted (hc.balanced isBalanced_semanticValidation) (hproblems spec)).congr
      fun _ => and_assoc.symm
  refine ((yields_checkVerbosity w s).andThen ((yields_loadSpec w file).bind fun spec =>
    .when (hintroduction spec) (hproblems spec) s.verbose)).congr fun _ => ?_
  constructor
  · rintro ⟨hboth, spec, hload, hlines, hnone, r, hr, herrors, hwarnings, -⟩
    exact ⟨hboth, spec, hload, List.map_eq_nil_iff.mp hnone, r, hr, herrors,
      fun h => ⟨(hlines h).1, (hlines h).2, hwarnings h⟩⟩
  · rintro ⟨hboth, spec, hload, hnone, r, hr, herrors, hprints⟩
    exact ⟨hboth, spec, hload, fun h => ⟨(hprints h).1, (hprints h).2.1⟩, List.map_eq_nil_iff.mpr hnone, r, hr, herrors,
      fun h => (hprints h).2.2, trivial⟩

/-- What `explain` prints is printed. -/
def ExplainPrints (r : Report) : Prop :=
  Prints (entryTable w.console r.build) ∧ Prints (argumentTable w.console r.build) ∧
    Prints (w.console.plain r.build.display) ∧
    (s.verbose = true → Prints (w.console.markup (loadedLine file)) ∧
      ∀ warning ∈ r.build.warnings, Prints (w.console.markup (warningLine warning)))

variable {w} in
theorem yields_explain (hc : w.console.Lawful) : Yields (explain w file s) fun _ =>
    ¬(s.verbose = true ∧ s.quiet = true) ∧ ∃ spec, Spec.load w.host.files file = .ok spec ∧
      ∃ r, dryRun w spec none none = .ok r ∧ ExplainPrints w file s r := by
  have htables := fun b : Build =>
    (yields_emit (entryTable w.console b)).andThen (yields_emit (argumentTable w.console b))
  have hreport := fun spec => (yields_report w spec none none).bind fun r =>
    (htables r.build).andThen <| .afterPrinted (hc.balanced isBalanced_commandLine) <|
      (yields_emit (w.console.plain r.build.display)).andThen
        (.onDemand (yields_printWarnings w.console r.build.warnings) s.verbose)
  refine ((yields_checkVerbosity w s).andThen ((yields_loadSpec w file).bind fun spec =>
    .when ((yields_emit (w.console.markup (loadedLine file))).andThen (hreport spec)) (hreport spec) s.verbose)).congr
      fun _ => ?_
  constructor
  · rintro ⟨hboth, spec, hload, hline, r, hr, ⟨hentries, harguments⟩, hdisplay, hwarnings⟩
    exact ⟨hboth, spec, hload, r, hr, hentries, harguments, hdisplay, fun h => ⟨hline h, hwarnings h⟩⟩
  · rintro ⟨hboth, spec, hload, r, hr, hentries, harguments, hdisplay, hverbose⟩
    exact ⟨hboth, spec, hload, fun h => (hverbose h).1, r, hr, ⟨hentries, harguments⟩, hdisplay,
      fun h => (hverbose h).2⟩

/-! ## Texts of a specification -/

/-- Nothing in the report keeps it from being written. -/
structure HasWritableTexts (r : Report) : Prop where
  json : (jsonLines r.json).IsWritable
  text : r.text.IsWritable
  display : r.build.display.IsWritable
  values : ∀ e ∈ r.build.resolved, (entryValues e).IsWritable
  arguments : ∀ a ∈ r.build.arguments, a.shown.IsWritable

theorem isInert_entryRow (c : Console) {e : Resolved} (hlabel : IsHarmless e.entry.label)
    (hvalues : (entryValues e).IsWritable) : ∀ cell ∈ entryRow c e, c.IsInert cell := by
  have hkind : IsHarmless e.entry.kind.word := by cases e.entry.kind <;> exact isHarmless_ofString (by decide)
  have hstatus : IsHarmless (if e.fault.isSome then ("✗ Error" : Text) else "✓ Resolved") := by
    split <;> exact isHarmless_ofString (by decide)
  simp only [entryRow, List.forall_mem_cons]
  exact ⟨.harmless hlabel, .harmless hkind, .harmless hstatus, .escaped hvalues,
    fun _ hcell => absurd hcell List.not_mem_nil⟩

theorem isInert_argumentRow (c : Console) (number : Nat) {a : Argument} (ha : a.shown.IsWritable) :
    ∀ cell ∈ argumentRow c number a, c.IsInert cell := by
  have hnumber : IsHarmless (Text.ofNat number) :=
    ⟨⟨Text.not_mem_ofNat (by decide) number, Text.not_mem_ofNat (by decide) number⟩, .ofString _⟩
  have hsecret : IsHarmless (if a.secret then ("yes" : Text) else "") := by
    split <;> exact isHarmless_ofString (by decide)
  simp only [argumentRow, List.forall_mem_cons]
  exact ⟨.harmless hnumber, .escaped ha, .harmless hsecret, fun _ hcell => absurd hcell List.not_mem_nil⟩

section lawful

variable {w s} {spec : Spec} {r : Report} (hc : w.console.Lawful)

include hc

theorem renderPrints_of_isHarmless (hr : HasWritableTexts r)
    (hwarnings : s.verbose = true → ∀ warning ∈ r.build.warnings, IsHarmless warning.message) : RenderPrints w s r := by
  rw [RenderPrints]
  split
  · exact hc.json hr.json
  · split
    · rename_i hverbose
      refine ⟨fun warning hwarning => ?_, hc.panel (isHarmless_ofString (by decide)) hr.text⟩
      exact hc.balanced (isBalanced_warningLine (hwarnings hverbose warning hwarning))
    · exact hc.plain hr.display

theorem validatePrints_of_isHarmless (hfile : IsHarmless file.text) (hversion : IsHarmless spec.version)
    (hwarnings : ∀ warning ∈ r.build.warnings, IsHarmless warning.message) : ValidatePrints w file spec r :=
  ⟨hc.balanced (isBalanced_loadedLine hfile),
    hc.balanced (.plain ((isHarmless_ofString (by decide : IsBare (Text.ofString "Version: "))).append hversion)),
    fun warning hwarning => hc.balanced (isBalanced_warningLine (hwarnings warning hwarning))⟩

theorem explainPrints_of_isHarmless (hr : HasWritableTexts r)
    (hlabels : ∀ e ∈ r.build.resolved, IsHarmless e.entry.label)
    (hverbose : s.verbose = true → IsHarmless file.text ∧ ∀ warning ∈ r.build.warnings, IsHarmless warning.message) :
    ExplainPrints w file s r := by
  refine ⟨hc.table (isHarmless_ofString (by decide)) ?_ ?_, hc.table (isHarmless_ofString (by decide)) ?_ ?_,
    hc.plain hr.display, fun h => ⟨hc.balanced (isBalanced_loadedLine (hverbose h).1), ?_⟩⟩
  · simp only [List.forall_mem_cons]
    exact ⟨isHarmless_ofString (by decide), isHarmless_ofString (by decide), isHarmless_ofString (by decide),
      isHarmless_ofString (by decide), fun _ hheading => absurd hheading List.not_mem_nil⟩
  · exact List.forall_mem_map.mpr fun e he => isInert_entryRow w.console (hlabels e he) (hr.values e he)
  · simp only [List.forall_mem_cons]
    exact ⟨isHarmless_ofString (by decide), isHarmless_ofString (by decide), isHarmless_ofString (by decide),
      fun _ hheading => absurd hheading List.not_mem_nil⟩
  · exact List.forall_mem_map.mpr fun (a, number) ha =>
      isInert_argumentRow w.console number (hr.arguments a (List.fst_mem_of_mem_zipIdx ha))
  · exact fun warning hwarning => hc.balanced (isBalanced_warningLine ((hverbose h).2 warning hwarning))

/-- A warning that closes a style first of all stops every action that shows warnings. -/
theorem not_prints_of_warning {warning : Macro.Warning} (hwarning : warning ∈ r.build.warnings) {name : Text}
    (hcloses : ClosesFirst name warning.message) (hne : name ≠ "yellow") (hverbose : s.verbose = true) :
    (s.json = false → ¬RenderPrints w s r) ∧ ¬ValidatePrints w file spec r ∧ ¬ExplainPrints w file s r := by
  have hline := hc.unopened (hcloses.warningLine hne)
  refine ⟨fun hjson h => ?_, fun h => hline (h.2.2 warning hwarning), fun h => ?_⟩
  · rw [RenderPrints, hjson, hverbose] at h
    exact hline (h.1 warning hwarning)
  · exact hline ((h.2.2.2 hverbose).2 warning hwarning)

/-- The name of an entry that closes a style first of all stops every explanation. -/
theorem not_explainPrints_of_label {e : Resolved} (he : e ∈ r.build.resolved) {name : Text}
    (hcloses : ClosesFirst name e.entry.label) : ¬ExplainPrints w file s r := by
  have hrow : entryRow w.console e ∈ r.build.resolved.map (entryRow w.console) := List.mem_map_of_mem he
  intro h
  refine hc.unopenedCell hrow ?_ List.mem_cons_self hcloses.closesUnopened h.1
  rfl

end lawful

/-! ## Exit status -/

theorem Exit.SucceedsIff.status_eq {e e' : Exit} {P Q : Prop} (h : e.SucceedsIff P) (h' : e'.SucceedsIff Q)
    (hiff : P ↔ Q) : e.status = e'.status := by
  by_cases hP : P
  · rw [h.1.mpr hP, h'.1.mpr (hiff.mp hP)]
  · rw [h.2.mpr hP, h'.2.mpr (mt hiff.mpr hP)]

variable {w} in
/-- With a lawful console, the status depends on the specification and its dry run, and on whether the console prints
what it is given. Being quiet does not change it. Texts that are harmless where they are printed without being escaped
do not change it either, but a warning or the name of an entry that closes a style first of all makes it one. -/
theorem Request.run_succeedsIff (hc : w.console.Lawful) (file : Text) :
    ((Request.render file s).run w).SucceedsIff
      (¬(s.verbose = true ∧ s.quiet = true) ∧ ∃ spec, Spec.load w.host.files (.ofText file) = .ok spec ∧
        ∃ r, dryRun w spec s.workingDirectory s.windows = .ok r ∧ r.build.errors = [] ∧ RenderPrints w s r) ∧
    ((Request.validate file s).run w).SucceedsIff
      (¬(s.verbose = true ∧ s.quiet = true) ∧ ∃ spec, Spec.load w.host.files (.ofText file) = .ok spec ∧
        spec.problems s.strict = [] ∧ ∃ r, dryRun w spec none none = .ok r ∧ r.build.errors = [] ∧
          (s.verbose = true → ValidatePrints w (.ofText file) spec r)) ∧
    ((Request.explain file s).run w).SucceedsIff
      (¬(s.verbose = true ∧ s.quiet = true) ∧ ∃ spec, Spec.load w.host.files (.ofText file) = .ok spec ∧
        ∃ r, dryRun w spec none none = .ok r ∧ ExplainPrints w (.ofText file) s r) ∧
    (let loud : Settings := { s with verbose := false, quiet := false }
     let quiet : Settings := { s with verbose := false, quiet := true }
     ((Request.render file quiet).run w).status = ((Request.render file loud).run w).status ∧
     ((Request.validate file quiet).run w).status = ((Request.validate file loud).run w).status ∧
     ((Request.explain file quiet).run w).status = ((Request.explain file loud).run w).status) ∧
    (∀ (spec : Spec) (r : Report), HasWritableTexts r →
      (s.verbose = true → IsHarmless (Path.ofText file).text ∧ IsHarmless spec.version ∧
        ∀ warning ∈ r.build.warnings, IsHarmless warning.message) →
      RenderPrints w s r ∧ (s.verbose = true → ValidatePrints w (.ofText file) spec r) ∧
        ((∀ e ∈ r.build.resolved, IsHarmless e.entry.label) → ExplainPrints w (.ofText file) s r)) ∧
    (∀ (spec : Spec) (r : Report), ∀ warning ∈ r.build.warnings, ∀ name : Text, ClosesFirst name warning.message →
      name ≠ "yellow" → s.verbose = true →
      (s.json = false → ¬RenderPrints w s r) ∧ ¬ValidatePrints w (.ofText file) spec r ∧
        ¬ExplainPrints w (.ofText file) s r) ∧
    (∀ r : Report, ∀ e ∈ r.build.resolved, ∀ name : Text, ClosesFirst name e.entry.label →
      ¬ExplainPrints w (.ofText file) s r) := by
  have hrender := fun s => (yields_render w (.ofText file) s).finish w.console "Error"
  have hvalidate := fun s => (yields_validate (.ofText file) s hc).finish w.console "Validation error"
  have hexplain := fun s => (yields_explain (.ofText file) s hc).finish w.console "Error"
  have hquiet : ¬(false = true ∧ true = true) ↔ ¬(false = true ∧ false = true) := by decide
  refine ⟨hrender s, hvalidate s, hexplain s, ⟨(hrender _).status_eq (hrender _) (and_congr_left' hquiet),
    (hvalidate _).status_eq (hvalidate _) (and_congr_left' hquiet),
    (hexplain _).status_eq (hexplain _) (and_congr_left' hquiet)⟩, ?_, ?_, ?_⟩
  · intro spec r hr hverbose
    refine ⟨renderPrints_of_isHarmless hc hr fun h => (hverbose h).2.2, fun h => ?_, fun hlabels => ?_⟩
    · exact validatePrints_of_isHarmless (.ofText file) hc (hverbose h).1 (hverbose h).2.1 (hverbose h).2.2
    · exact explainPrints_of_isHarmless (.ofText file) hc hr hlabels fun h => ⟨(hverbose h).1, (hverbose h).2.2⟩
  · exact fun spec r warning hwarning name hcloses hne hverbose =>
      not_prints_of_warning (.ofText file) hc hwarning hcloses hne hverbose
  · exact fun r e he name hcloses => not_explainPrints_of_label (.ofText file) hc he hcloses

/-! ## A closing tag in a warning -/

/-- A directory with a specification that refers to an unknown variable, whose name ends like a closing tag. -/
def closingTagFiles : FileTree :=
  let source : String := "version: '1'\ncommand: ['$\x7bdirs[/etc]\x7d']\n"
  ⟨[(["s.yaml"], .file source.toUTF8.toList)], .ofText "/"⟩

def closingTagSurroundings : Surroundings := ⟨⟨closingTagFiles, ∅, "/root", ∅⟩, default, 1, console 80⟩

def closingTagWarning : Macro.Warning := .unknownVariable "dirs[/etc]"

theorem dryRun_closingTag :
    ∃ spec, Spec.load closingTagFiles (.ofText "s.yaml") = .ok spec ∧ spec.problems false = [] ∧
      ∃ r, dryRun closingTagSurroundings spec none none = .ok r ∧ r.build.errors = [] ∧
        r.build.warnings = [closingTagWarning] := by
  have hrun : ((Spec.load closingTagSurroundings.host.files (.ofText "s.yaml")).toOption.bind fun spec =>
      (dryRun closingTagSurroundings spec none none).toOption.map fun r =>
        (spec.problems false, r.build.errors, r.build.warnings)) = some ([], [], [closingTagWarning]) := by
    decide +kernel
  obtain ⟨spec, hload, r, hr, hfound⟩ := exists_dryRun hrun
  obtain ⟨hproblems, hfound⟩ := Prod.mk.inj hfound
  obtain ⟨herrors, hwarnings⟩ := Prod.mk.inj hfound
  exact ⟨spec, hload, hproblems, r, hr, herrors, hwarnings⟩

theorem closesFirst_closingTag : ClosesFirst "etc" closingTagWarning.message := by
  refine ⟨⟨by decide, by decide⟩, "Unknown variable: dirs", [], by decide, ?_⟩
  simp [closingTagWarning, Macro.Warning.message, Text.ofString]

/-- The specification is valid, and being quiet does not change that, but its warning cannot be shown. -/
theorem run_succeedsIff_closingTag :
    closingTagSurroundings.console.Lawful ∧
    ((Request.validate "s.yaml" .standard).run closingTagSurroundings).status = 0 ∧
    ((Request.validate "s.yaml" { Settings.standard with quiet := true }).run closingTagSurroundings).status = 0 ∧
    ((Request.render "s.yaml" { Settings.standard with verbose := true }).run closingTagSurroundings).status = 1 := by
  obtain ⟨spec, hload, hproblems, r, hr, herrors, hwarnings⟩ := dryRun_closingTag
  have hc : closingTagSurroundings.console.Lawful := console_lawful 80
  obtain ⟨-, hvalidate, -, hquiet, -⟩ := Request.run_succeedsIff .standard hc "s.yaml"
  obtain ⟨hrender, -, -, -, -, hwarning, -⟩ :=
    Request.run_succeedsIff { Settings.standard with verbose := true } hc "s.yaml"
  have hvalid : ((Request.validate "s.yaml" .standard).run closingTagSurroundings).status = 0 :=
    hvalidate.1.mpr ⟨by decide, spec, hload, hproblems, r, hr, herrors, fun h => nomatch h⟩
  refine ⟨hc, hvalid, hquiet.2.1.trans hvalid, hrender.2.mpr ?_⟩
  rintro ⟨-, spec', hload', r', hr', -, hprints⟩
  cases hload.symm.trans hload'
  cases hr.symm.trans hr'
  have hmem : closingTagWarning ∈ r.build.warnings := hwarnings ▸ List.mem_cons_self
  exact (hwarning spec r closingTagWarning hmem "etc" closesFirst_closingTag (by decide) rfl).1 rfl hprints

/-- The specification is valid, but to say so at length fails. -/
theorem validate_verbose_fails :
    ((Request.validate "s.yaml" .standard).run closingTagSurroundings).status = 0 ∧
    ((Request.validate "s.yaml" { Settings.standard with verbose := true }).run closingTagSurroundings).status = 1 := by
  obtain ⟨spec, hload, hproblems, r, hr, herrors, hwarnings⟩ := dryRun_closingTag
  have hc : closingTagSurroundings.console.Lawful := console_lawful 80
  have hvalidate := fun s =>
    (yields_validate (.ofText "s.yaml") s hc).finish closingTagSurroundings.console "Validation error"
  constructor
  · exact (hvalidate _).1.mpr ⟨by decide, spec, hload, hproblems, r, hr, herrors, fun h => nomatch h⟩
  · refine (hvalidate _).2.mpr ?_
    rintro ⟨-, spec', hload', -, r', hr', -, hprints⟩
    cases hload.symm.trans hload'
    cases hr.symm.trans hr'
    have hline := hc.unopened (closesFirst_closingTag.warningLine (by decide))
    exact hline ((hprints rfl).2.2 closingTagWarning (hwarnings ▸ List.mem_cons_self))

end CommandLine

end Invocation
