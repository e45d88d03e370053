import Invocation.Proofs.OrderedMap
import Invocation.Provider.Filter

/-!
# Filters, key by key

A chain of filters decides about every key by itself: the rules are gone through in their order, and each of them lets
the key in, takes it out, or leaves it. So maps may as well be filtered before they are merged as afterwards. Which keys
a pattern matches plays no part in this and is left open.
-/

namespace Invocation

variable (matching : Pattern → Text → Bool)

/-! ## Filters with any matching -/

namespace FilterRule

/-- `accepts`, where `matching` says which keys a pattern matches. -/
def acceptsBy (pattern : Option Pattern) (key : Text) : Bool :=
  match pattern with
  | some p => !p.source.isEmpty && matching p key
  | none => false

/-- `gather`, where `matching` says which keys a pattern matches. -/
def gatherBy (r : FilterRule) (keys gathered : List Text) : List Text :=
  let included := gathered ++ keys.filter fun k => acceptsBy matching r.includes k && !gathered.contains k
  included.filter fun k => !acceptsBy matching r.excludes k

end FilterRule

/-- `filterVariables`, where `matching` says which keys a pattern matches. -/
def filterVariablesBy (rules : List FilterRule) (found : OrderedMap Text Text) : OrderedMap Text Text :=
  if rules.isEmpty then found
  else
    let gathered := rules.foldl (fun gathered r => r.gatherBy matching found.keys gathered) []
    found.filter gathered.contains

theorem filterVariables_eq_filterVariablesBy : filterVariables = filterVariablesBy Pattern.matchesStart := rfl

/-! ## One key -/

namespace FilterRule

/-- Whether a key is in after the rule, where `inside` says whether it was in before: what the rule includes comes in,
and then what it excludes goes out. -/
def decides (key : Text) (inside : Bool) (r : FilterRule) : Bool :=
  let included := if acceptsBy matching r.includes key then true else inside
  if acceptsBy matching r.excludes key then false else included

variable {keys : List Text} {key : Text}

/-- A rule gathers the keys one by one. -/
theorem contains_gatherBy (hkey : key ∈ keys) (r : FilterRule) (gathered : List Text) :
    (r.gatherBy matching keys gathered).contains key = r.decides matching key (gathered.contains key) := by
  have hmem : key ∈ r.gatherBy matching keys gathered ↔
      (key ∈ gathered ∨ acceptsBy matching r.includes key = true) ∧ acceptsBy matching r.excludes key = false := by
    simp only [gatherBy, List.mem_filter, List.mem_append, hkey]
    grind
  rw [Bool.eq_iff_iff, List.contains_iff_mem, hmem]
  cases hexcluded : acceptsBy matching r.excludes key <;> cases hincluded : acceptsBy matching r.includes key <;>
    simp [decides, hexcluded, hincluded]

/-- Rules one after the other gather the keys one by one. -/
theorem contains_foldl_gatherBy (hkey : key ∈ keys) (rules : List FilterRule) (gathered : List Text) :
    (rules.foldl (fun gathered r => r.gatherBy matching keys gathered) gathered).contains key =
      rules.foldl (fun inside r => r.decides matching key inside) (gathered.contains key) := by
  induction rules generalizing gathered with
  | nil => rfl
  | cons r rules ih => rw [List.foldl_cons, List.foldl_cons, ih, contains_gatherBy matching hkey]

end FilterRule

/-- Whether a chain of filters keeps a key. It is out before the first rule, and kept if there is none. -/
def keeps (rules : List FilterRule) (key : Text) : Bool :=
  rules.isEmpty || rules.foldl (fun inside r => r.decides matching key inside) false

/-! ## Maps -/

theorem filterVariablesBy_eq_filter (rules : List FilterRule) (found : OrderedMap Text Text) :
    filterVariablesBy matching rules found = found.filter (keeps matching rules) := by
  cases rules with
  | nil =>
      have hall : found.filter (keeps matching []) = found := OrderedMap.ext (List.filter_eq_self.mpr fun _ _ => rfl)
      exact hall.symm
  | cons r rules =>
      refine OrderedMap.ext (List.filter_congr fun e he => ?_)
      exact FilterRule.contains_foldl_gatherBy matching (List.mem_map_of_mem he) (r :: rules) []

/-- A chain of filters keeps the entries of a map, in their order, whose keys are in after the last rule, all of them if
there is no rule. So to filter an update is to update by what is filtered. All this is so whatever the patterns
match. -/
theorem filterVariablesBy_decides (rules : List FilterRule) :
    (∀ found, (filterVariablesBy matching rules found).toList = found.toList.filter fun e => keeps matching rules e.1) ∧
    (∀ m n, filterVariablesBy matching rules (m.update n) =
      (filterVariablesBy matching rules m).update (filterVariablesBy matching rules n)) ∧
    filterVariables = filterVariablesBy Pattern.matchesStart := by
  refine ⟨fun found => ?_, fun m n => ?_, filterVariables_eq_filterVariablesBy⟩
  · rw [filterVariablesBy_eq_filter]
    rfl
  · simp only [filterVariablesBy_eq_filter, OrderedMap.filter_update]

end Invocation
