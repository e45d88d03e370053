import Invocation.Proofs.Provider.Merging
import Invocation.Provider.Load

/-!
# Precedence of variables

What a specification says itself goes before what its providers load, and later providers go before earlier ones. A
provider that is disabled takes no part.
-/

namespace Invocation

namespace Spec

/-! ## Enabled providers -/

theorem loadVariables_eq_ok {s : Spec} {c : LoadContext} {loaded : List (OrderedMap Text Text)}
    (h : List.Forall₂ (fun p m => p.load c = .ok m) s.enabledProviders loaded) :
    s.loadVariables c = .ok (.merge (loaded ++ [s.assignments])) := by
  rw [OrderedMap.merge_concat, loadVariables, OrderedMap.foldlM_update_eq_ok h]
  rfl

theorem loadVariables_eq_error_iff {s : Spec} {c : LoadContext} {f : Provider.LoadFault} :
    s.loadVariables c = .error f ↔
      ∃ before p after, s.enabledProviders = before ++ p :: after ∧ (∀ q ∈ before, ∃ m, q.load c = .ok m) ∧
        p.load c = .error f := by
  have hmap (x : Except Provider.LoadFault (OrderedMap Text Text)) :
      x.map (fun merged => merged.update s.assignments) = .error f ↔ x = .error f := by
    cases x <;> simp [Except.map]
  rw [← OrderedMap.foldlM_update_eq_error_iff ∅]
  exact hmap _

/-! ## Disabled providers -/

theorem loadVariables_congr {s t : Spec} (hproviders : s.enabledProviders = t.enabledProviders)
    (hassignments : s.assignments = t.assignments) (c : LoadContext) : s.loadVariables c = t.loadVariables c := by
  rw [loadVariables, loadVariables, hproviders, hassignments]

theorem enabledProviders_of_disabled {s : Spec} {before after : List Provider} {p : Provider}
    (hs : s.providers = before ++ p :: after) (hp : p.enabled = false) :
    s.enabledProviders = before.filter Provider.enabled ++ after.filter Provider.enabled := by
  rw [enabledProviders, hs, List.filter_append, List.filter_cons_of_neg (by simp [hp])]

/-! ## Precedence -/

/-- A key has the value that the specification gives it, or else the one of the last enabled provider that has the key,
and it stands where it first comes up. The first enabled provider that cannot be loaded is reported. A disabled provider
can be left out, or another disabled one put in its place, and neither makes a difference. -/
theorem loadVariables_overrides (s : Spec) (c : LoadContext) :
    (∀ loaded, List.Forall₂ (fun p m => p.load c = .ok m) s.enabledProviders loaded →
      ∃ merged, s.loadVariables c = .ok merged ∧
        (∀ k, merged.get? k = (s.assignments.get? k).or (loaded.filterMap fun m => m.get? k).getLast?) ∧
        merged.keys = (loaded.flatMap OrderedMap.keys ++ s.assignments.keys).eraseDups) ∧
    (∀ f, s.loadVariables c = .error f ↔
      ∃ before p after, s.enabledProviders = before ++ p :: after ∧ (∀ q ∈ before, ∃ m, q.load c = .ok m) ∧
        p.load c = .error f) ∧
    (∀ before p after, s.providers = before ++ p :: after → p.enabled = false →
      { s with providers := before ++ after }.loadVariables c = s.loadVariables c ∧
      ∀ q, q.enabled = false → { s with providers := before ++ q :: after }.loadVariables c = s.loadVariables c) := by
  refine ⟨fun loaded h => ?_, fun f => loadVariables_eq_error_iff, fun before p after hs hp => ?_⟩
  · refine ⟨_, loadVariables_eq_ok h, fun k => ?_, ?_⟩
    · rw [OrderedMap.merge_concat, OrderedMap.get?_update, OrderedMap.get?_merge]
    · rw [OrderedMap.keys_merge, List.flatMap_append, List.flatMap_singleton]
  · have henabled := enabledProviders_of_disabled hs hp
    constructor
    · refine loadVariables_congr ?_ (by rfl) c
      exact (List.filter_append _ _).trans henabled.symm
    · intro q hq
      refine loadVariables_congr ?_ (by rfl) c
      exact (enabledProviders_of_disabled rfl hq).trans henabled.symm

/-- A working directory with a dotenv file and with another that is not UTF-8. -/
def workDirectory : LoadContext where
  host := {
    files := {
      nodes := [(["work"], .directory), (["work", ".env"], .file "B=3\nC=4\nN".toUTF8.toList),
        (["work", "broken.env"], .file [0xFF])]
      current := ⟨"/", ["work"]⟩ }
    environment := ∅
    home := "/"
    userHomes := ∅ }
  environment := .ofList [("A", "1"), ("B", "2")]
  workingDirectory := none

def environmentProvider : Provider where
  kind := .environment
  id := "environment"
  name := none
  enabled := true
  hierarchical := none
  filename := none
  path := none
  precedence := none
  filters := []

def fileProvider (filename : Text) (enabled : Bool) : Provider :=
  { environmentProvider with kind := .file, id := filename, filename := some filename, enabled }

/-- The environment, a file that cannot be read but is not asked for, and another file. -/
def layered : Spec where
  version := "1"
  command := ["run"]
  prepend := []
  windows := false
  assignments := .ofList [("C", "5")]
  providers := [environmentProvider, fileProvider "broken.env" false, fileProvider ".env" true]
  entries := []

theorem loadVariables_layered :
    (∃ merged, layered.loadVariables workDirectory = .ok merged ∧ merged.get? "A" = some ("1" : Text) ∧
      merged.get? "B" = some ("3" : Text) ∧ merged.get? "C" = some ("5" : Text) ∧
      merged.keys = (["A", "B", "C"] : List Text)) ∧
    (∃ f, (fileProvider "broken.env" false).load workDirectory = .error f) ∧
    { layered with providers := [environmentProvider, fileProvider ".env" true] }.loadVariables workDirectory =
      layered.loadVariables workDirectory := by
  obtain ⟨hloaded, -, hdisabled⟩ := loadVariables_overrides layered workDirectory
  have hfile : (fileProvider ".env" true).load workDirectory = .ok (.ofList [("B", "3"), ("C", "4")]) := by
    decide +kernel
  obtain ⟨merged, hok, hvalues, hkeys⟩ := hloaded [workDirectory.environment, .ofList [("B", "3"), ("C", "4")]]
    (.cons rfl (.cons hfile .nil))
  refine ⟨⟨merged, hok, ?_, ?_, ?_, ?_⟩, ⟨.undecodable ⟨0, 0, 0xFF, .startByte⟩, by decide +kernel⟩, ?_⟩
  · rw [hvalues]
    decide
  · rw [hvalues]
    decide
  · rw [hvalues]
    decide
  · rw [hkeys]
    decide
  · exact (hdisabled [environmentProvider] _ [fileProvider ".env" true] rfl rfl).1

end Spec

end Invocation
