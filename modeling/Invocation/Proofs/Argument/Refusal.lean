import Invocation.Proofs.Argument.Session
import Invocation.Proofs.Value.Integers

/-!
# Refused steps

A step is refused if a value that it is given has no text, a secret is not there, or a property text is malformed. A
step that is refused changes nothing, but for the two that give one argument after the other: they leave behind what
comes before the value without a text.
-/

namespace Invocation

/-! ## Values without a text -/

namespace Value

theorem argumentText_of_holdsLong {v : Value} (h : v.holdsLong = true) : v.argumentText = .error .integerTooLong := by
  rw [← isNone_text?, Option.isNone_iff_eq_none] at h
  rw [argumentText, h]

theorem exists_argumentText_of_not_holdsLong {v : Value} (h : v.holdsLong = false) : ∃ t, v.argumentText = .ok t := by
  rw [← isNone_text?, Option.isNone_eq_false_iff] at h
  obtain ⟨t, ht⟩ := Option.isSome_iff_exists.mp h
  exact ⟨t, by rw [argumentText, ht]⟩

end Value

namespace Item

/-- The item is a value that holds an integer with too many digits. -/
def holdsLong : Item → Bool
  | path _ => false
  | value v => v.holdsLong

variable {i : Item}

theorem formatted_of_holdsLong (h : i.holdsLong = true) : i.formatted = .error .integerTooLong := by
  cases i with
  | path _ => cases h
  | value v => exact Value.argumentText_of_holdsLong h

theorem hasText_of_not_holdsLong (h : i.holdsLong = false) : i.HasText := by
  cases i with
  | path p => exact hasText_path p
  | value v => exact Value.exists_argumentText_of_not_holdsLong h

/-! ### Pairs -/

def pairHoldsLong (pair : Item × Item) : Bool := pair.1.holdsLong || pair.2.holdsLong

theorem pairHasTexts_of_not_holdsLong {pair : Item × Item} (h : pairHoldsLong pair = false) : PairHasTexts pair := by
  obtain ⟨hkey, hvalue⟩ := Bool.or_eq_false_iff.mp h
  exact ⟨hasText_of_not_holdsLong hkey, hasText_of_not_holdsLong hvalue⟩

theorem pairArgument_eq_ite (lead : Text) (secret : Bool) (pair : Item × Item) :
    pairArgument lead secret pair =
      if pairHoldsLong pair then .error .integerTooLong
      else .ok ((pairTexts lead pair).map fun t => ⟨t, secret⟩) := by
  cases h : pairHoldsLong pair with
  | false => exact pairArgument_eq (pairHasTexts_of_not_holdsLong h) lead secret
  | true =>
      cases hkey : pair.1.holdsLong with
      | true =>
          simp only [pairArgument, formatted_of_holdsLong hkey]
          rfl
      | false =>
          obtain ⟨k, hk⟩ := hasText_of_not_holdsLong hkey
          have hvalue : pair.2.holdsLong = true := by simpa [pairHoldsLong, hkey] using h
          simp only [pairArgument, hk, formatted_of_holdsLong hvalue]
          rfl

/-! ### Arguments -/

variable (here : Path)

theorem argumentText_of_holdsLong (h : i.holdsLong = true) : i.argumentText here = .error .integerTooLong := by
  cases i with
  | path _ => cases h
  | value v =>
      cases v with
      | null => cases h
      | _ =>
          rw [argumentText, Value.argumentText_of_holdsLong h]
          · rfl
          · exact Value.noConfusion

theorem plain_eq_ite (i : Item) :
    i.plain here = if i.holdsLong then .error .integerTooLong else .ok ((i.texts here).map Argument.plain) := by
  cases h : i.holdsLong with
  | true => rw [plain, argumentText_of_holdsLong here h]; rfl
  | false => exact plain_eq here (hasText_of_not_holdsLong h)

theorem quoted_eq_ite (i : Item) :
    i.quoted here =
      if i.holdsLong then .error .integerTooLong
      else .ok ((i.texts here).map fun t => Argument.plain t.inQuotes) := by
  cases h : i.holdsLong with
  | true => rw [quoted, argumentText_of_holdsLong here h]; rfl
  | false => exact quoted_eq here (hasText_of_not_holdsLong h)

theorem mapM_plain (items : List Item) :
    items.mapM (plain here) =
      if items.any holdsLong then .error .integerTooLong
      else .ok (items.map fun i => (i.texts here).map Argument.plain) := by
  induction items with
  | nil => rfl
  | cons i items ih =>
      rw [List.mapM_cons, plain_eq_ite, ih, List.any_cons]
      cases i.holdsLong <;> cases items.any holdsLong <;> rfl

end Item

/-! ## Lists that are added to -/

/-- What is given before the first member that cannot be given stays. -/
theorem Arguments.appendAll_map_ite {α : Type} {p : α → Bool} {f : α → Except ArgumentFault Arguments}
    {g : α → Arguments} {e : ArgumentFault} (hf : ∀ x, f x = if p x then .error e else .ok (g x)) (as : Arguments)
    (xs : List α) :
    as.appendAll (xs.map f) =
      ⟨as ++ (xs.takeWhile fun x => !p x).flatMap g, [], if xs.any p then some e else none⟩ := by
  induction xs generalizing as with
  | nil => simp [appendAll]
  | cons x xs ih =>
      cases hx : p x with
      | true => simp [appendAll, hf, hx]
      | false => simp [appendAll, hf, hx, ih]

/-- Every list follows the sequence of its texts with its secrets marked. -/
theorem Arguments.exists_follows (as : Arguments) : ∃ m, as.Follows m := by
  induction as using List.reverseRecOn with
  | nil => exact ⟨.empty, .nil⟩
  | append_singleton as a ih =>
      obtain ⟨m, hm⟩ := ih
      exact ⟨m.push a.secret a.value, hm.push a.secret a.value⟩

namespace Step

/-! ## Refusals -/

/-- Some value that the step is given holds an integer with too many digits. -/
def holdsLong : Step → Bool
  | append item | appendQuoted item | appendHidden item => item.holdsLong
  | add items | prepend items => items.any Item.holdsLong
  | appendPairs _ pairs _ => pairs.any Item.pairHoldsLong
  | appendTokens _ | appendProperties _ _ _ _ | clear => false

/-- What the step leaves at the end of a list when it is refused in the directory `here`. -/
def leftover (here : Path) : Step → Arguments
  | add items => (items.takeWhile fun i => !i.holdsLong).flatMap fun i => (i.texts here).map Argument.plain
  | appendPairs lead pairs secret =>
    (pairs.takeWhile fun pair => !Item.pairHoldsLong pair).flatMap fun pair =>
      (Item.pairTexts lead pair).map fun t => ⟨t, secret⟩
  | append _ | appendQuoted _ | appendHidden _ | prepend _ | appendTokens _ | appendProperties _ _ _ _ | clear => []

/-- The step meets the fault, and the list goes on with nothing but its leftover. -/
def IsRefusedWith (step : Step) (here : Path) (as : Arguments) (fault : ArgumentFault) : Prop :=
  step.take here as = ⟨as ++ step.leftover here, [], some fault⟩

variable (here : Path) (as : Arguments)

theorem take_of_holdsLong {step : Step} (h : step.holdsLong = true) : step.IsRefusedWith here as .integerTooLong := by
  cases step with
  | append item =>
      have hitem : item.holdsLong = true := h
      simpa [IsRefusedWith, take, leftover, hitem] using as.appendAll_map_ite (Item.plain_eq_ite here) [item]
  | appendQuoted item =>
      have hitem : item.holdsLong = true := h
      simpa [IsRefusedWith, take, leftover, hitem] using as.appendAll_map_ite (Item.quoted_eq_ite here) [item]
  | appendHidden item =>
      have hitem : item.holdsLong = true := h
      simp [IsRefusedWith, take, Item.hidden, Item.argumentText_of_holdsLong here hitem, Except.bind,
        Arguments.appendAll, leftover]
  | add items =>
      have hitems : items.any Item.holdsLong = true := h
      rw [IsRefusedWith, take, as.appendAll_map_ite (Item.plain_eq_ite here), if_pos hitems]
      rfl
  | prepend items =>
      have hitems : items.any Item.holdsLong = true := h
      rw [IsRefusedWith, take, Arguments.prepend, Item.mapM_plain, if_pos hitems, leftover, List.append_nil]
  | appendPairs lead pairs secret =>
      have hpairs : pairs.any Item.pairHoldsLong = true := h
      rw [IsRefusedWith, take, as.appendAll_map_ite (Item.pairArgument_eq_ite lead secret), if_pos hpairs]
      rfl
  | appendTokens _ | appendProperties _ _ _ _ | clear => cases h

theorem take_of_refusal {step : Step} {fault : ArgumentFault} (h : step.refusal = some fault) :
    step.IsRefusedWith here as fault := by
  cases step with
  | appendHidden item =>
      have hrefused : (appendHidden item).refusal ≠ none := by simp [h]
      rw [eq_absent_of_refusal hrefused] at h ⊢
      cases h
      simp [IsRefusedWith, take, Item.hidden, Item.argumentText, Except.bind, Arguments.appendAll, leftover]
  | appendProperties lead properties resolver secret =>
      cases properties with
      | none => cases h
      | some text =>
          obtain ⟨e, he, rfl⟩ := Option.map_eq_some_iff.mp h
          have hparse := Properties.parse_eq_error_iff.mpr he
          simp [IsRefusedWith, take, Arguments.appendProperties, propertyArguments, hparse, Except.map, leftover]
  | append _ | appendQuoted _ | add _ | prepend _ | appendTokens _ | appendPairs _ _ _ | clear => cases h

theorem hasTexts_of_not_holdsLong {step : Step} (h : step.holdsLong = false) : step.HasTexts := by
  cases step with
  | append item | appendQuoted item | appendHidden item => exact Item.hasText_of_not_holdsLong h
  | add items | prepend items =>
      exact fun i hi => Item.hasText_of_not_holdsLong (by simpa using List.any_eq_false.mp h i hi)
  | appendPairs lead pairs secret =>
      exact fun pair hpair => Item.pairHasTexts_of_not_holdsLong (by simpa using List.any_eq_false.mp h pair hpair)
  | appendTokens _ | appendProperties _ _ _ _ | clear => trivial

theorem fault_take (step : Step) :
    (step.take here as).fault = if step.holdsLong then some .integerTooLong else step.refusal := by
  cases h : step.holdsLong with
  | true => rw [take_of_holdsLong here as h, if_pos rfl]
  | false =>
      obtain ⟨m, hm⟩ := as.exists_follows
      simpa using (hm.take here (hasTexts_of_not_holdsLong h)).2

theorem isRefusedWith {step : Step} {fault : ArgumentFault} (h : (step.take here as).fault = some fault) :
    step.IsRefusedWith here as fault := by
  rw [fault_take] at h
  split at h
  · rename_i hlong
    cases h
    exact take_of_holdsLong here as hlong
  · exact take_of_refusal here as h

/-- A step is refused if and only if a value that it is given holds an integer with too many digits, a secret is not
there, or a property text is malformed at some line. Then no warning comes up, and at the end of the list there is
nothing more than what the step leaves over, so that nothing has changed if and only if that is nothing. -/
theorem take_refused (step : Step) :
    (step.take here as).fault = (if step.holdsLong then some .integerTooLong else step.refusal) ∧
    ((step.take here as).fault ≠ none →
      (step.take here as).warnings = [] ∧ (step.take here as).arguments = as ++ step.leftover here ∧
        ((step.take here as).arguments = as ↔ step.leftover here = [])) := by
  refine ⟨fault_take here as step, fun hfault => ?_⟩
  obtain ⟨fault, h⟩ := Option.ne_none_iff_exists'.mp hfault
  rw [isRefusedWith here as h]
  exact ⟨rfl, rfl, by simp⟩

/-- The least integer that has no text. -/
def longInteger : Value := .int (10 ^ 4300)

theorem holdsLong_longInteger : longInteger.holdsLong = true := by decide +kernel

/-- Values for the front of a list, the second of them without a text. -/
def prependLong : Step := .prepend [.path (.ofText "sudo"), .value (.list [.null, longInteger])]

/-- A reference to nothing, and a line that breaks off behind it. -/
def appendMalformed : Step :=
  .appendProperties "-D" (some "k=$v\n\\u12") (.macros ⟨⟨∅, default, 1, "/root"⟩, ∅⟩) true

theorem take_refused_login :
    ((prependLong.take (.ofText "/home") [.hidden "pw"]).fault ≠ none ∧
      (prependLong.take (.ofText "/home") [.hidden "pw"]).arguments = [.hidden "pw"]) ∧
    (appendMalformed.take (.ofText "/home") [.hidden "pw"]).fault ≠ none ∧
      (appendMalformed.take (.ofText "/home") [.hidden "pw"]).arguments = [.hidden "pw"] ∧
      (appendMalformed.take (.ofText "/home") [.hidden "pw"]).warnings = [] := by
  obtain ⟨hlong, hunchanged⟩ := take_refused (.ofText "/home") [.hidden "pw"] prependLong
  obtain ⟨hmalformed, hunresolved⟩ := take_refused (.ofText "/home") [.hidden "pw"] appendMalformed
  have hprepend : (prependLong.take (.ofText "/home") [.hidden "pw"]).fault ≠ none :=
    hlong.trans_ne (by decide +kernel)
  have hproperties : (appendMalformed.take (.ofText "/home") [.hidden "pw"]).fault ≠ none :=
    hmalformed.trans_ne (by decide +kernel)
  exact ⟨⟨hprepend, (hunchanged hprepend).2.2.mpr rfl⟩, hproperties, (hunresolved hproperties).2.2.mpr rfl,
    (hunresolved hproperties).1⟩

/-- A value without a text does not take back what has been added before it. -/
theorem add_leaves_values :
    (add [.ofText "a", .value longInteger]).take (.ofText "/home") [] =
      ⟨[.plain "a"], [], some .integerTooLong⟩ ∧
    (add [.path (.ofText "a"), .value longInteger]).take (.ofText "/home") [] =
      ⟨[.plain "/home/a"], [], some .integerTooLong⟩ ∧
    (appendPairs "-D" [(.ofText "a", .absent), (.ofText "b", .value longInteger)] true).take (.ofText "/home") [] =
      ⟨[.hidden "-Da=None"], [], some .integerTooLong⟩ := by
  have hvalues (item : Item) : (add [item, .value longInteger]).holdsLong = true := by
    simp [holdsLong, Item.holdsLong, holdsLong_longInteger]
  have hpairs (pair : Item × Item) (key : Item) (secret : Bool) :
      (appendPairs "-D" [pair, (key, .value longInteger)] secret).holdsLong = true := by
    simp [holdsLong, Item.pairHoldsLong, Item.holdsLong, holdsLong_longInteger]
  exact ⟨(take_of_holdsLong (.ofText "/home") [] (hvalues _)).trans (by decide +kernel),
    (take_of_holdsLong (.ofText "/home") [] (hvalues _)).trans (by decide +kernel),
    (take_of_holdsLong (.ofText "/home") [] (hpairs _ _ _)).trans (by decide +kernel)⟩

end Step

end Invocation
