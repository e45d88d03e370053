import Invocation.Proofs.Build.Foreseen
import Invocation.Proofs.Spec.InOrder

/-!
# Which problems a specification has

A specification has no problems if and only if it is well-formed, and none in a strict check either if and only if it is
careful as well. Each rule by itself finds its problems in the order of the declarations that they are about; an id or a
name is reported each time it comes up again.
-/

namespace Invocation

/-! ## Conditions -/

namespace Spec

/-- There is something to run, nothing is declared twice, and every entry has what its kind needs. -/
structure IsWellFormed (s : Spec) : Prop where
  runs : s.command ≠ [] ∨ s.prepend ≠ []
  ids : (s.providers.map Provider.id).Nodup
  names : (s.entries.filterMap Entry.name).Nodup
  values : ∀ e ∈ s.entries, e.kind ∈ [.plain, .quoted, .masked, .tokenized] → e.value ≠ .null
  pairs : ∀ e ∈ s.entries, e.kind = .keyValue → e.pairs.toList ≠ []
  properties : ∀ e ∈ s.entries, e.kind = .properties → ∀ t ∈ e.properties, ∃ m, Properties.parse t = .ok m

/-- What is asked for in a strict check only. -/
structure IsCareful (s : Spec) : Prop where
  names : ∀ e ∈ s.entries, ∃ name, e.name = some name ∧ name ≠ []
  leads : ∀ e ∈ s.entries, e.kind ∈ [.keyValue, .properties] → e.lead ≠ []
  secrets : ∀ e ∈ s.entries, e.isSecret = true → e.kind ∈ [.plain, .quoted, .masked] → e.value ≠ .text []

end Spec

/-! ## Rules -/

/-- What a problem is an offence against. -/
inductive Rule where
  | somethingToRun
  | idsDiffer
  | namesDiffer
  | valueGiven
  | pairsGiven
  | propertiesReadable
  | nameGiven
  | leadGiven
  | secretNotEmpty
deriving DecidableEq

def Problem.rule : Problem → Rule
  | nothingToRun => .somethingToRun
  | duplicateProvider _ => .idsDiffer
  | duplicateEntry _ => .namesDiffer
  | valueMissing _ _ => .valueGiven
  | pairsMissing _ => .pairsGiven
  | badProperties _ _ => .propertiesReadable
  | nameMissing _ _ => .nameGiven
  | leadMissing _ => .leadGiven
  | emptySecret _ => .secretNotEmpty

/-- What is wrong with an entry by itself, given its number. -/
inductive Entry.Lacks (e : Entry) (strict : Bool) (number : Nat) : Problem → Prop where
  | value (hkind : e.kind ∈ [.plain, .quoted, .masked, .tokenized]) (h : e.value = .null) :
      Lacks e strict number (.valueMissing e.label e.kind)
  | pairs (hkind : e.kind = .keyValue) (h : e.pairs.toList = []) : Lacks e strict number (.pairsMissing e.label)
  | properties {t : Text} {f : Properties.Error} (hkind : e.kind = .properties) (ht : e.properties = some t)
      (h : Properties.parse t = .error f) : Lacks e strict number (.badProperties e.label f)
  | name (hstrict : strict = true) (h : ∀ name, e.name = some name → name = []) :
      Lacks e strict number (.nameMissing number e.kind)
  | lead (hstrict : strict = true) (hkind : e.kind ∈ [.keyValue, .properties]) (h : e.lead = []) :
      Lacks e strict number (.leadMissing e.label)
  | secret (hstrict : strict = true) (hsecret : e.isSecret = true) (hkind : e.kind ∈ [.plain, .quoted, .masked])
      (h : e.value = .text []) : Lacks e strict number (.emptySecret e.label)

/-- What is wrong at a place among the providers or among the entries. The numbers of entries begin at one. -/
inductive Spec.Offends (s : Spec) (strict : Bool) : Nat → Problem → Prop where
  | command (hcommand : s.command = []) (hprepend : s.prepend = []) : Offends s strict 0 .nothingToRun
  | id {i j : Nat} {p q : Provider} (hi : s.providers[i]? = some p) (hj : s.providers[j]? = some q) (hlt : j < i)
      (h : q.id = p.id) : Offends s strict i (.duplicateProvider p.id)
  | name {i j : Nat} {e d : Entry} {name : Text} (hi : s.entries[i]? = some e) (hj : s.entries[j]? = some d)
      (hlt : j < i) (he : e.name = some name) (hd : d.name = some name) : Offends s strict i (.duplicateEntry name)
  | entry {i : Nat} {e : Entry} {q : Problem} (hi : s.entries[i]? = some e) (h : e.Lacks strict (i + 1) q) :
      Offends s strict i q

/-! ## Entries -/

namespace Entry

variable {e : Entry} {q : Problem}

theorem valueIsEmptyText_iff : e.valueIsEmptyText = true ↔ e.value = .text [] := by
  unfold valueIsEmptyText
  rcases e.value with _ | _ | _ | _ | (_ | _) | _ | _ | _ | _ | _ | _ | _ | _ | _ <;> simp

theorem mem_fieldProblems (strict : Bool) (number : Nat) :
    q ∈ e.fieldProblems ↔ e.Lacks strict number q ∧ (q.rule = .valueGiven ∨ q.rule = .pairsGiven) := by
  have hkind : (e.kind.isSingle || e.kind == .tokenized) = true ↔ e.kind ∈ [.plain, .quoted, .masked, .tokenized] := by
    cases e.kind <;> decide
  have hpairs : e.pairs.isEmpty = true ↔ e.pairs.toList = [] := List.isEmpty_iff
  rw [fieldProblems]
  constructor
  · split
    · rename_i h
      rw [Bool.and_eq_true, hkind, valueIsNull_iff] at h
      intro hq
      obtain rfl := List.mem_singleton.mp hq
      exact ⟨.value h.1 h.2, .inl rfl⟩
    · split
      · rename_i h
        rw [Bool.and_eq_true, beq_iff_eq, hpairs] at h
        intro hq
        obtain rfl := List.mem_singleton.mp hq
        exact ⟨.pairs h.1 h.2, .inr rfl⟩
      · intro hq
        cases hq
  · rintro ⟨h, hrule⟩
    cases h with
    | value hk hv => simp [hkind.mpr hk, e.valueIsNull_iff.mpr hv]
    | pairs hk hp => simp [hk, hpairs.mpr hp, EntryKind.isSingle]
    | properties | name | lead | secret => simp [Problem.rule] at hrule

theorem mem_propertyProblems (strict : Bool) (number : Nat) :
    q ∈ e.propertyProblems ↔ e.Lacks strict number q ∧ q.rule = .propertiesReadable := by
  constructor
  · intro hq
    unfold propertyProblems at hq
    split at hq
    · rename_i t hkind ht
      split at hq
      · cases hq
      · rename_i f hf
        obtain rfl := List.mem_singleton.mp hq
        exact ⟨.properties hkind ht hf, rfl⟩
    · cases hq
  · rintro ⟨h, hrule⟩
    cases h with
    | properties hkind ht hf => simp [propertyProblems, hkind, ht, hf]
    | value | pairs | name | lead | secret => simp [Problem.rule] at hrule

theorem mem_strictProblems {number : Nat} :
    q ∈ e.strictProblems number ↔
      e.Lacks true number q ∧ (q.rule = .nameGiven ∨ q.rule = .leadGiven ∨ q.rule = .secretNotEmpty) := by
  have hname : (e.name.getD []).isEmpty = true ↔ ∀ name, e.name = some name → name = [] := by
    cases e.name <;> simp
  have hlead : e.kind.hasLead = true ↔ e.kind ∈ [.keyValue, .properties] := by
    cases e.kind <;> decide
  have hsingle : e.kind.isSingle = true ↔ e.kind ∈ [.plain, .quoted, .masked] := by
    cases e.kind <;> decide
  have hempty : e.lead.isEmpty = true ↔ e.lead = [] := List.isEmpty_iff
  have hmem : q ∈ e.strictProblems number ↔
      ((e.name.getD []).isEmpty = true ∧ q = .nameMissing number e.kind) ∨
      ((e.kind.hasLead = true ∧ e.lead.isEmpty = true) ∧ q = .leadMissing e.label) ∨
      (((e.isSecret = true ∧ e.kind.isSingle = true) ∧ e.valueIsEmptyText = true) ∧ q = .emptySecret e.label) := by
    simp only [strictProblems, List.mem_append, List.mem_ite_nil_right, List.mem_singleton, Bool.and_eq_true, or_assoc]
  rw [hmem, hname, hlead, hsingle, hempty, valueIsEmptyText_iff]
  constructor
  · rintro (⟨h, rfl⟩ | ⟨⟨hkind, h⟩, rfl⟩ | ⟨⟨⟨hsecret, hkind⟩, h⟩, rfl⟩)
    · exact ⟨.name rfl h, .inl rfl⟩
    · exact ⟨.lead rfl hkind h, .inr (.inl rfl)⟩
    · exact ⟨.secret rfl hsecret hkind h, .inr (.inr rfl)⟩
  · rintro ⟨h, hrule⟩
    cases h with
    | name _ h => exact .inl ⟨h, rfl⟩
    | lead _ hkind h => exact .inr (.inl ⟨⟨hkind, h⟩, rfl⟩)
    | secret _ hsecret hkind h => exact .inr (.inr ⟨⟨⟨hsecret, hkind⟩, h⟩, rfl⟩)
    | value | pairs | properties => simp [Problem.rule] at hrule

end Entry

/-! ## Checks -/

namespace Spec

variable (s : Spec) {strict : Bool} {r : Rule}

theorem inOrder_commandProblems (strict : Bool) :
    InOrder (fun i q => s.Offends strict i q ∧ q.rule = .somethingToRun) 0 s.commandProblems := by
  have hfound (i : Nat) (q : Problem) : s.Offends strict i q ∧ q.rule = .somethingToRun ↔
      (s.command = [] ∧ s.prepend = []) ∧ i = 0 ∧ q = .nothingToRun := by
    constructor
    · rintro ⟨h, hrule⟩
      cases h with
      | command hcommand hprepend => exact ⟨⟨hcommand, hprepend⟩, rfl, rfl⟩
      | id | name => cases hrule
      | entry _ h => cases h <;> cases hrule
    · rintro ⟨⟨hcommand, hprepend⟩, rfl, rfl⟩
      exact ⟨.command hcommand hprepend, rfl⟩
  simp only [commandProblems, Bool.and_eq_true, List.isEmpty_iff]
  split
  · rename_i h
    refine InOrder.cons (.done fun i q hi hq => ?_) fun q => ?_
    · have := (hfound i q).mp hq
      omega
    · simp [hfound, h]
  · rename_i h
    exact .done fun i q _ hq => h ((hfound i q).mp hq).1

theorem inOrder_providerProblems (strict : Bool) :
    InOrder (fun i q => s.Offends strict i q ∧ q.rule = .idsDiffer) 0 s.providerProblems := by
  have hids : InOrder (fun i id => s.providers[i]?.bind (some ∘ Provider.id) = some id ∧
      (id ∈ ([] : List Text) ∨ ∃ j < i, s.providers[j]?.bind (some ∘ Provider.id) = some id)) 0
      (duplicates [] (s.providers.filterMap (some ∘ Provider.id))) :=
    inOrder_duplicates fun i id => by rw [Nat.zero_add]
  rw [List.filterMap_eq_map] at hids
  refine (hids.map Problem.duplicateProvider).congr fun i q => ?_
  simp only [Option.bind_eq_some_iff, Function.comp_apply, Option.some.injEq, List.not_mem_nil, false_or]
  constructor
  · rintro ⟨h, hrule⟩
    cases h with
    | id hi hj hlt h => exact ⟨_, ⟨⟨_, hi, rfl⟩, _, hlt, _, hj, h⟩, rfl⟩
    | command | name => cases hrule
    | entry _ h => cases h <;> cases hrule
  · rintro ⟨_, ⟨⟨p, hi, rfl⟩, j, hlt, q, hj, h⟩, rfl⟩
    exact ⟨.id hi hj hlt h, rfl⟩

theorem inOrder_nameProblems (strict : Bool) :
    InOrder (fun i q => s.Offends strict i q ∧ q.rule = .namesDiffer) 0 s.nameProblems := by
  have hnames : InOrder (fun i name => s.entries[i]?.bind Entry.name = some name ∧
      (name ∈ ([] : List Text) ∨ ∃ j < i, s.entries[j]?.bind Entry.name = some name)) 0
      (duplicates [] (s.entries.filterMap Entry.name)) :=
    inOrder_duplicates fun i name => by rw [Nat.zero_add]
  refine (hnames.map Problem.duplicateEntry).congr fun i q => ?_
  simp only [Option.bind_eq_some_iff, List.not_mem_nil, false_or]
  constructor
  · rintro ⟨h, hrule⟩
    cases h with
    | name hi hj hlt he hd => exact ⟨_, ⟨⟨_, hi, he⟩, _, hlt, _, hj, hd⟩, rfl⟩
    | command | id => cases hrule
    | entry _ h => cases h <;> cases hrule
  · rintro ⟨name, ⟨⟨e, hi, he⟩, j, hlt, d, hj, hd⟩, rfl⟩
    exact ⟨.name hi hj hlt he hd, rfl⟩

theorem flatMap_entries_eq (f : Entry → List Problem) :
    s.entries.flatMap f = s.entries.zipIdx.flatMap fun x => f x.1 := by
  conv_lhs => rw [← List.zipIdx_map_fst 0 s.entries, List.flatMap_map]

/-- A rule about entries by themselves finds at most one problem for each. -/
theorem inOrder_entries {f : Entry × Nat → List Problem} (hr : r ∉ [.somethingToRun, .idsDiffer, .namesDiffer])
    (hone : ∀ x, (f x).length ≤ 1) (hmem : ∀ x q, q ∈ f x ↔ x.1.Lacks strict (x.2 + 1) q ∧ q.rule = r) :
    InOrder (fun i q => s.Offends strict i q ∧ q.rule = r) 0 (s.entries.zipIdx.flatMap f) := by
  refine InOrder.flatMap hone fun i q => ?_
  simp only [Nat.zero_add, hmem]
  constructor
  · rintro ⟨h, rfl⟩
    cases h with
    | entry hi h => exact ⟨_, hi, h, rfl⟩
    | command | id | name => simp [Problem.rule] at hr
  · rintro ⟨e, hi, h, hrule⟩
    exact ⟨.entry hi h, hrule⟩

theorem inOrder_fieldProblems (strict : Bool) (hr : r = .valueGiven ∨ r = .pairsGiven) :
    InOrder (fun i q => s.Offends strict i q ∧ q.rule = r) 0 (s.fieldProblems.filter fun q => q.rule = r) := by
  have hone (e : Entry) : (e.fieldProblems.filter fun q => q.rule = r).length ≤ 1 := by
    refine (List.length_filter_le _ _).trans ?_
    unfold Entry.fieldProblems
    split_ifs <;> simp
  rw [fieldProblems, flatMap_entries_eq, List.filter_flatMap]
  refine s.inOrder_entries (by rcases hr with rfl | rfl <;> decide) (fun x => hone x.1) fun x q => ?_
  rw [List.mem_filter, Entry.mem_fieldProblems strict (x.2 + 1), decide_eq_true_eq, and_assoc]
  refine and_congr_right fun _ => and_iff_right_of_imp ?_
  rintro rfl
  exact hr

theorem inOrder_propertyProblems (strict : Bool) :
    InOrder (fun i q => s.Offends strict i q ∧ q.rule = .propertiesReadable) 0 s.propertyProblems := by
  have hone (e : Entry) : e.propertyProblems.length ≤ 1 := by
    unfold Entry.propertyProblems
    split
    · split <;> simp
    · simp
  rw [propertyProblems, flatMap_entries_eq]
  exact s.inOrder_entries (by decide) (fun x => hone x.1) fun x q => Entry.mem_propertyProblems strict _

theorem strictProblemsFrom_eq (place : Nat) (es : List Entry) :
    strictProblemsFrom (place + 1) es = (es.zipIdx place).flatMap fun x => x.1.strictProblems (x.2 + 1) := by
  induction es generalizing place with
  | nil => rfl
  | cons e es ih => rw [strictProblemsFrom, ih, List.zipIdx_cons, List.flatMap_cons]

theorem inOrder_strictProblems (strict : Bool) (hr : r = .nameGiven ∨ r = .leadGiven ∨ r = .secretNotEmpty) :
    InOrder (fun i q => s.Offends strict i q ∧ q.rule = r) 0
      ((if strict then s.strictProblems else []).filter fun q => q.rule = r) := by
  cases strict with
  | false =>
      refine .done fun i q _ ⟨h, hrule⟩ => ?_
      subst hrule
      cases h with
      | command | id | name => simp [Problem.rule] at hr
      | entry _ h => cases h <;> simp_all [Problem.rule]
  | true =>
      have hone (e : Entry) (number : Nat) : ((e.strictProblems number).filter fun q => q.rule = r).length ≤ 1 := by
        unfold Entry.strictProblems
        rcases hr with rfl | rfl | rfl <;> split_ifs <;> simp [Problem.rule]
      rw [if_pos rfl, strictProblems, strictProblemsFrom_eq, List.filter_flatMap]
      refine s.inOrder_entries (by rcases hr with rfl | rfl | rfl <;> decide) (fun x => hone x.1 _) fun x q => ?_
      rw [List.mem_filter, Entry.mem_strictProblems, decide_eq_true_eq, and_assoc]
      refine and_congr_right fun _ => and_iff_right_of_imp ?_
      rintro rfl
      exact hr

/-! ## All checks -/

theorem filter_eq_nil_of_rules {qs : List Problem} {rules : List Rule} (h : ∀ q ∈ qs, q.rule ∈ rules) (hr : r ∉ rules) :
    qs.filter (fun q => q.rule = r) = [] :=
  List.filter_eq_nil_iff.mpr fun q hq hrule => hr (of_decide_eq_true hrule ▸ h q hq)

theorem filter_eq_self_of_rules {qs : List Problem} (h : ∀ q ∈ qs, q.rule ∈ [r]) :
    qs.filter (fun q => q.rule = r) = qs :=
  List.filter_eq_self.mpr fun q hq => decide_eq_true (List.mem_singleton.mp (h q hq))

theorem rules_of_inOrder {s : Spec} {qs : List Problem}
    (h : InOrder (fun i q => s.Offends strict i q ∧ q.rule = r) 0 qs) :
    ∀ q ∈ qs, q.rule ∈ [r] := fun q hq => by
  obtain ⟨_, _, _, hrule⟩ := h.mem_iff.mp hq
  exact List.mem_singleton.mpr hrule

/-- Only the check that has a rule speaks of it. -/
theorem filter_problems (s : Spec) (strict : Bool) (r : Rule) :
    (s.problems strict).filter (fun q => q.rule = r) =
      match r with
      | .somethingToRun => s.commandProblems
      | .idsDiffer => s.providerProblems
      | .namesDiffer => s.nameProblems
      | .valueGiven | .pairsGiven => s.fieldProblems.filter fun q => q.rule = r
      | .propertiesReadable => s.propertyProblems
      | .nameGiven | .leadGiven | .secretNotEmpty =>
        (if strict then s.strictProblems else []).filter fun q => q.rule = r := by
  have hcommand := rules_of_inOrder (s.inOrder_commandProblems strict)
  have hprovider := rules_of_inOrder (s.inOrder_providerProblems strict)
  have hname := rules_of_inOrder (s.inOrder_nameProblems strict)
  have hproperty := rules_of_inOrder (s.inOrder_propertyProblems strict)
  have hfield : ∀ q ∈ s.fieldProblems, q.rule ∈ [Rule.valueGiven, Rule.pairsGiven] := fun q hq => by
    obtain ⟨e, _, hq⟩ := List.mem_flatMap.mp hq
    simpa using ((Entry.mem_fieldProblems strict 0).mp hq).2
  have hstrict : ∀ q ∈ if strict then s.strictProblems else [],
      q.rule ∈ [Rule.nameGiven, Rule.leadGiven, Rule.secretNotEmpty] := fun q hq => by
    obtain ⟨-, hq⟩ := List.mem_ite_nil_right.mp hq
    rw [strictProblems, strictProblemsFrom_eq] at hq
    obtain ⟨x, _, hq⟩ := List.mem_flatMap.mp hq
    simpa using (Entry.mem_strictProblems.mp hq).2
  simp only [problems, List.filter_append]
  cases r <;> simp (disch := decide) only [filter_eq_nil_of_rules hcommand, filter_eq_nil_of_rules hprovider,
    filter_eq_nil_of_rules hname, filter_eq_nil_of_rules hfield, filter_eq_nil_of_rules hproperty,
    filter_eq_nil_of_rules hstrict, filter_eq_self_of_rules hcommand, filter_eq_self_of_rules hprovider,
    filter_eq_self_of_rules hname, filter_eq_self_of_rules hproperty, List.nil_append, List.append_nil]

theorem inOrder_problems (strict : Bool) (r : Rule) :
    InOrder (fun i q => s.Offends strict i q ∧ q.rule = r) 0 ((s.problems strict).filter fun q => q.rule = r) := by
  rw [filter_problems]
  cases r with
  | somethingToRun => exact s.inOrder_commandProblems strict
  | idsDiffer => exact s.inOrder_providerProblems strict
  | namesDiffer => exact s.inOrder_nameProblems strict
  | valueGiven => exact s.inOrder_fieldProblems strict (.inl rfl)
  | pairsGiven => exact s.inOrder_fieldProblems strict (.inr rfl)
  | propertiesReadable => exact s.inOrder_propertyProblems strict
  | nameGiven => exact s.inOrder_strictProblems strict (.inl rfl)
  | leadGiven => exact s.inOrder_strictProblems strict (.inr (.inl rfl))
  | secretNotEmpty => exact s.inOrder_strictProblems strict (.inr (.inr rfl))

theorem mem_problems {q : Problem} : q ∈ s.problems strict ↔ ∃ i, s.Offends strict i q := by
  have h := (s.inOrder_problems strict q.rule).mem_iff (a := q)
  simpa using h

/-! ## No problems -/

section

variable {s}

theorem exists_forall_not_lacks (h : ∀ i q, ¬s.Offends strict i q) {e : Entry} (he : e ∈ s.entries) :
    ∃ number, ∀ q, ¬e.Lacks strict number q := by
  obtain ⟨i, hi⟩ := List.mem_iff_getElem?.mp he
  exact ⟨i + 1, fun q hq => h i q (.entry hi hq)⟩

theorem IsWellFormed.of_not_offends (h : ∀ i q, ¬s.Offends strict i q) : s.IsWellFormed where
  runs := by
    by_contra hnone
    obtain ⟨hcommand, hprepend⟩ := not_or.mp hnone
    exact h 0 _ (.command (not_not.mp hcommand) (not_not.mp hprepend))
  ids := by
    rw [List.Nodup, List.pairwise_map, List.pairwise_iff_getElem]
    intro j i hj hi hlt heq
    exact h i _ (.id (List.getElem?_eq_getElem hi) (List.getElem?_eq_getElem hj) hlt heq)
  names := by
    rw [List.Nodup, List.pairwise_filterMap, List.pairwise_iff_getElem]
    rintro j i hj hi hlt name hd _ he rfl
    exact h i _ (.name (List.getElem?_eq_getElem hi) (List.getElem?_eq_getElem hj) hlt he hd)
  values e he hkind hv := by
    obtain ⟨number, hnone⟩ := exists_forall_not_lacks h he
    exact hnone _ (.value hkind hv)
  pairs e he hkind hp := by
    obtain ⟨number, hnone⟩ := exists_forall_not_lacks h he
    exact hnone _ (.pairs hkind hp)
  properties e he hkind t ht := by
    obtain ⟨number, hnone⟩ := exists_forall_not_lacks h he
    cases hparse : Properties.parse t with
    | ok m => exact ⟨m, rfl⟩
    | error f => exact absurd (.properties hkind ht hparse) (hnone _)

theorem IsCareful.of_not_offends (h : ∀ i q, ¬s.Offends true i q) : s.IsCareful where
  names e he := by
    obtain ⟨number, hnone⟩ := exists_forall_not_lacks h he
    by_contra hname
    refine hnone _ (.name rfl fun name heq => ?_)
    by_contra hne
    exact hname ⟨name, heq, hne⟩
  leads e he hkind hl := by
    obtain ⟨number, hnone⟩ := exists_forall_not_lacks h he
    exact hnone _ (.lead rfl hkind hl)
  secrets e he hsecret hkind hv := by
    obtain ⟨number, hnone⟩ := exists_forall_not_lacks h he
    exact hnone _ (.secret rfl hsecret hkind hv)

theorem IsWellFormed.not_offends (hs : s.IsWellFormed) (hcareful : strict = true → s.IsCareful) {i : Nat}
    {q : Problem} : ¬s.Offends strict i q := by
  intro h
  cases h with
  | command hcommand hprepend => exact hs.runs.elim (· hcommand) (· hprepend)
  | id hi hj hlt heq =>
      obtain ⟨hi', rfl⟩ := List.getElem?_eq_some_iff.mp hi
      obtain ⟨hj', rfl⟩ := List.getElem?_eq_some_iff.mp hj
      exact List.pairwise_iff_getElem.mp (List.pairwise_map.mp hs.ids) _ _ hj' hi' hlt heq
  | name hi hj hlt he hd =>
      obtain ⟨hi', rfl⟩ := List.getElem?_eq_some_iff.mp hi
      obtain ⟨hj', rfl⟩ := List.getElem?_eq_some_iff.mp hj
      exact List.pairwise_iff_getElem.mp (List.pairwise_filterMap.mp hs.names) _ _ hj' hi' hlt _ hd _ he rfl
  | entry hi h =>
      have he := List.mem_of_getElem? hi
      cases h with
      | value hkind hv => exact hs.values _ he hkind hv
      | pairs hkind hp => exact hs.pairs _ he hkind hp
      | properties hkind ht herror =>
          obtain ⟨m, hm⟩ := hs.properties _ he hkind _ ht
          rw [herror] at hm
          cases hm
      | name hstrict hname =>
          obtain ⟨name, heq, hne⟩ := (hcareful hstrict).names _ he
          exact hne (hname name heq)
      | lead hstrict hkind hl => exact (hcareful hstrict).leads _ he hkind hl
      | secret hstrict hsecret hkind hv => exact (hcareful hstrict).secrets _ he hsecret hkind hv

end

theorem problems_eq_nil_iff (strict : Bool) :
    s.problems strict = [] ↔ s.IsWellFormed ∧ (strict = true → s.IsCareful) := by
  simp only [List.eq_nil_iff_forall_not_mem, mem_problems, not_exists]
  constructor
  · intro h
    have hnone (i : Nat) (q : Problem) : ¬s.Offends strict i q := h q i
    refine ⟨.of_not_offends hnone, ?_⟩
    rintro rfl
    exact .of_not_offends hnone
  · rintro ⟨hs, hcareful⟩ q i
    exact hs.not_offends hcareful

/-- A specification has no problems if and only if it is well-formed, and none in a strict check if and only if it is
careful as well. Ids and names are reported each time that they come up again, so that together with the different ones
they are as many as there are. What a rule finds is reported in the order of the declarations. -/
theorem problems_exact (s : Spec) :
    (s.problems false = [] ↔ s.IsWellFormed) ∧
    (s.problems true = [] ↔ s.IsWellFormed ∧ s.IsCareful) ∧
    ∀ strict,
      ((s.problems strict).filter fun q => q.rule = .idsDiffer).length + (s.providers.map Provider.id).toFinset.card =
        s.providers.length ∧
      ((s.problems strict).filter fun q => q.rule = .namesDiffer).length +
        (s.entries.filterMap Entry.name).toFinset.card = (s.entries.filterMap Entry.name).length ∧
      ∀ r, InOrder (fun i q => s.Offends strict i q ∧ q.rule = r) 0 ((s.problems strict).filter fun q => q.rule = r) := by
  refine ⟨?_, ?_, fun strict => ⟨?_, ?_, s.inOrder_problems strict⟩⟩
  · simpa using s.problems_eq_nil_iff false
  · simpa using s.problems_eq_nil_iff true
  · rw [filter_problems, providerProblems, List.length_map]
    simpa using length_duplicates [] (s.providers.map Provider.id)
  · rw [filter_problems, nameProblems, List.length_map]
    simpa using length_duplicates [] (s.entries.filterMap Entry.name)

end Spec

end Invocation
