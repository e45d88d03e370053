import Invocation.Argument.Step

/-!
# How lists grow

A step that meets no fault puts all that it is given at the end of the list or in front of it, in order. What is
absent is passed over.
-/

namespace Invocation

/-! ## Items -/

namespace Item

/-- The item can be turned into a text. -/
def HasText (i : Item) : Prop := ∃ t, i.formatted = .ok t

/-- The text that an item adds, if it is there and has one: a path as it is seen from the directory `here`. -/
def texts (here : Path) : Item → List Text
  | absent => []
  | path p => [(here.join p).text]
  | value v => v.text?.toList

@[simp] theorem texts_ofText (here : Path) (t : Text) : (ofText t).texts here = [t] := rfl

theorem flatMap_texts_ofText (here : Path) (ts : List Text) : (ts.map ofText).flatMap (texts here) = ts := by
  simp [List.flatMap_map]

@[simp] theorem hasText_absent : absent.HasText := ⟨_, rfl⟩

@[simp] theorem hasText_path (p : Path) : (path p).HasText := ⟨p.text, rfl⟩

@[simp] theorem hasText_ofText (t : Text) : (ofText t).HasText := ⟨t, rfl⟩

theorem hasText_of_mem {ts : List Text} {i : Item} (h : i ∈ ts.map ofText) : i.HasText := by
  obtain ⟨t, -, rfl⟩ := List.mem_map.mp h
  exact hasText_ofText t

variable {i : Item} (here : Path)

theorem exists_argumentText (h : i.HasText) : ∃ t, i.argumentText here = .ok t ∧ i.texts here = t.toList := by
  cases i with
  | path p => exact ⟨_, rfl, rfl⟩
  | value v =>
      obtain ⟨t, ht⟩ := h
      have hv : v.text? = some t := by
        cases hv : v.text? with
        | none => simp [formatted, Value.argumentText, hv] at ht
        | some u => simpa [formatted, Value.argumentText, hv] using ht
      cases v with
      | null => exact ⟨none, rfl, rfl⟩
      | _ => exact ⟨some t, by simp [argumentText, Value.argumentText, hv, Except.map], by simp [texts, hv]⟩

/-- Only what is absent has no argument text without having a fault. -/
theorem eq_absent_of_argumentText (h : i.argumentText here = .ok none) : i = absent := by
  unfold argumentText at h
  split at h
  · rfl
  · cases h
  · rename_i v _
    cases hv : v.argumentText <;> simp [hv, Except.map] at h

theorem plain_eq (h : i.HasText) : i.plain here = .ok ((i.texts here).map Argument.plain) := by
  obtain ⟨t, ht, htexts⟩ := exists_argumentText here h
  cases t <;> simp [plain, htexts, ht, Except.map]

theorem quoted_eq (h : i.HasText) :
    i.quoted here = .ok ((i.texts here).map fun t => Argument.plain t.inQuotes) := by
  obtain ⟨t, ht, htexts⟩ := exists_argumentText here h
  cases t <;> simp [quoted, htexts, ht, Except.map]

/-- The item is a path that leads elsewhere from another directory. -/
def isRelative : Item → Bool
  | path p => !p.isAbsolute
  | value _ => false

theorem argumentText_of_not_isRelative (h : i.isRelative = false) (here' : Path) :
    i.argumentText here = i.argumentText here' := by
  cases i with
  | value v => cases v <;> rfl
  | path p =>
      have habsolute : p.isAbsolute = true := by simpa [isRelative] using h
      simp [argumentText, Path.join, habsolute]

end Item

/-! ## Texts and flags of lists -/

namespace Arguments

section readers

variable (as bs : Arguments) (ts : List Text)

@[simp] theorem values_append : values (as ++ bs) = as.values ++ bs.values := List.map_append

@[simp] theorem flags_append : flags (as ++ bs) = as.flags ++ bs.flags := List.map_append

theorem shownValues_append : shownValues (as ++ bs) = as.shownValues ++ bs.shownValues := List.map_append

@[simp] theorem length_flags : as.flags.length = as.length := List.length_map _

theorem values_flatMap {α : Type} (f : α → Arguments) (xs : List α) :
    values (xs.flatMap f) = xs.flatMap fun x => (f x).values :=
  List.map_flatMap

theorem flags_flatMap {α : Type} (f : α → Arguments) (xs : List α) :
    flags (xs.flatMap f) = xs.flatMap fun x => (f x).flags :=
  List.map_flatMap

@[simp] theorem values_map_plain : values (ts.map Argument.plain) = ts := by
  simp [values, Argument.plain, Function.comp_def]

@[simp] theorem flags_map_plain : flags (ts.map Argument.plain) = List.replicate ts.length false := by
  simp [flags, Argument.plain, Function.comp_def, List.map_const']

end readers

/-! ## Lists that are added to -/

variable {α : Type} {f : α → Except ArgumentFault Arguments} {xs : List α}

theorem appendAll_map (as : Arguments) {g : α → Arguments} (h : ∀ x ∈ xs, f x = .ok (g x)) :
    as.appendAll (xs.map f) = ⟨as ++ xs.flatMap g, [], none⟩ := by
  induction xs generalizing as with
  | nil => simp [appendAll]
  | cons x xs ih =>
      have hrest := ih (as ++ g x) fun y hy => h y (List.mem_cons_of_mem x hy)
      simp [appendAll, h x List.mem_cons_self, hrest]

theorem appendAll_singletons (as : Arguments) {g : α → Argument} (h : ∀ x ∈ xs, f x = .ok [g x]) :
    as.appendAll (xs.map f) = ⟨as ++ xs.map g, [], none⟩ := by
  rw [as.appendAll_map h, List.map_eq_flatMap]

end Arguments

/-! ## Steps -/

namespace Step

variable (here : Path) (as : Arguments)

theorem take_add {items : List Item} (h : ∀ i ∈ items, i.HasText) :
    (add items).take here as = ⟨as ++ (items.flatMap (Item.texts here)).map Argument.plain, [], none⟩ := by
  rw [take, as.appendAll_map fun i hi => Item.plain_eq here (h i hi), List.map_flatMap]

theorem take_prepend {items : List Item} (h : ∀ i ∈ items, i.HasText) :
    (prepend items).take here as = ⟨(items.flatMap (Item.texts here)).map Argument.plain ++ as, [], none⟩ := by
  have hplain : items.mapM (Item.plain here) = .ok (items.map fun i => (i.texts here).map Argument.plain) := by
    induction items with
    | nil => rfl
    | cons i items ih =>
        rw [List.mapM_cons, Item.plain_eq here (h i List.mem_cons_self),
          ih fun j hj => h j (List.mem_cons_of_mem i hj)]
        rfl
  simp only [take, Arguments.prepend, hplain]
  rw [← List.flatMap_def, List.map_flatMap]

theorem take_appendTokens (text : Option Text) :
    (appendTokens text).take here as = ⟨as ++ (tokensOf text).map Argument.plain, [], none⟩ :=
  as.appendAll_singletons fun _ _ => rfl

theorem take_appendPairs (lead : Text) (pairs : List (Text × Text)) (secret : Bool) :
    (appendPairs lead (pairs.map fun pair => (.ofText pair.1, .ofText pair.2)) secret).take here as =
      ⟨as ++ pairs.map fun pair => ⟨pairText lead pair.1 pair.2, secret⟩, [], none⟩ := by
  rw [take, List.map_map]
  exact as.appendAll_singletons fun _ _ => rfl

/-- The items that the step turns into arguments. -/
def items : Step → List Item
  | append item | appendQuoted item | appendHidden item => [item]
  | add items | prepend items => items
  | appendTokens _ | appendPairs _ _ _ | appendProperties _ _ _ _ | clear => []

/-- Without a relative path the directory does not matter. -/
theorem take_of_not_isRelative {step : Step} (h : ∀ i ∈ step.items, i.isRelative = false) (here' : Path) :
    step.take here as = step.take here' as := by
  have htext : ∀ i ∈ step.items, i.plain here = i.plain here' := fun i hi => by
    rw [Item.plain, Item.argumentText_of_not_isRelative here (h i hi) here', ← Item.plain]
  cases step with
  | append item => rw [take, htext item List.mem_cons_self, ← take]
  | appendQuoted item =>
      rw [take, Item.quoted, Item.argumentText_of_not_isRelative here (h item List.mem_cons_self) here', ← Item.quoted,
        ← take]
  | appendHidden item =>
      rw [take, Item.hidden, Item.argumentText_of_not_isRelative here (h item List.mem_cons_self) here', ← Item.hidden,
        ← take]
  | add items => exact congrArg as.appendAll (List.map_congr_left htext)
  | prepend items =>
      have hmap (d : Path) : items.mapM (Item.plain d) = (items.map (Item.plain d)).mapM id := by
        rw [List.mapM_map]
        rfl
      have hplain : items.map (Item.plain here) = items.map (Item.plain here') := List.map_congr_left htext
      simp only [take, Arguments.prepend, hmap, hplain]
  | appendTokens _ | appendPairs _ _ _ | appendProperties _ _ _ _ | clear => rfl

end Step

end Invocation
