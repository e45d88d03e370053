import Mathlib.Data.Nat.Digits.Defs
import Invocation.Value.Rendering

/-!
# Values without a text

All that can keep a value from having a text is an integer with too many digits, however deep in the value it stands.
-/

namespace Invocation

namespace Value

/-- The integer has more than 4300 decimal digits. -/
def isLong (n : Int) : Bool := 10 ^ 4300 ≤ n.natAbs

mutual

/-- The integers at any depth of a value, inside the collections with the labels `around`. A collection inside of itself
has none but those that are found already. -/
def integersWithin (around : List Nat) : Value → List Int
  | int n => [n]
  | list items => integersWithinAll around items
  | pair v w => integersWithin around v ++ integersWithin around w
  | mapping entries => integersWithinEntries around entries
  | set members => integersWithinAll around members
  | labelled l v => if around.contains l then [] else integersWithin (l :: around) v
  | null | bool _ | float _ | text _ | bytes _ | date _ | timestamp _ | enclosing _ _ => []

def integersWithinAll (around : List Nat) : List Value → List Int
  | [] => []
  | v :: vs => integersWithin around v ++ integersWithinAll around vs

def integersWithinEntries (around : List Nat) : List (Value × Value) → List Int
  | [] => []
  | (k, v) :: es => integersWithin around k ++ integersWithin around v ++ integersWithinEntries around es

end

/-- The integers at any depth of a value. -/
def integers (v : Value) : List Int := v.integersWithin []

/-- Some integer of the value, at whatever depth, has too many digits. -/
def holdsLong (v : Value) : Bool := v.integers.any isLong

theorem isLong_iff {n : Int} : isLong n = true ↔ greatestDigitCount < (Nat.toDigits 10 n.natAbs).length := by
  have hle := Nat.length_toDigits_le_iff (b := 10) (n := n.natAbs) (k := greatestDigitCount) (by decide) (by decide)
  simp only [greatestDigitCount] at hle ⊢
  rw [isLong, decide_eq_true_iff, ← not_lt, ← hle, not_le]

theorem isNone_integerText? (n : Int) : (integerText? n).isNone = isLong n := by
  have hlength : (Text.ofNat n.natAbs).length = (Nat.toDigits 10 n.natAbs).length := by
    simp [Text.ofNat, Text.ofString, Nat.repr_eq_ofList_toDigits]
  rw [integerText?, hlength]
  split
  · rename_i hlong
    exact (isLong_iff.mpr hlong).symm
  · rename_i hshort
    exact (Bool.eq_false_iff.mpr fun hlong => hshort (isLong_iff.mp hlong)).symm

mutual

theorem isNone_textWithin? (around : List Nat) :
    (v : Value) → (textWithin? around v).isNone = (integersWithin around v).any isLong
  | .null | .bool _ | .float _ | .text _ | .bytes _ | .date _ | .timestamp _ | .enclosing _ _ => by
      simp [textWithin?, integersWithin]
  | .int n => by simp [textWithin?, integersWithin, isNone_integerText?]
  | .list items => by
      rw [textWithin?, integersWithin, Option.isNone_map]
      exact isNone_textsWithin? around items
  | .pair v w => by
      rw [integersWithin, List.any_append, ← isNone_textWithin? around v, ← isNone_textWithin? around w]
      cases hv : textWithin? around v <;> cases hw : textWithin? around w <;> simp [textWithin?, hv, hw]
  | .mapping entries => by
      rw [textWithin?, integersWithin, Option.isNone_map]
      exact isNone_entryTexts? around entries
  | .set [] => by simp [textWithin?, integersWithin, integersWithinAll]
  | .set (m :: members) => by
      rw [integersWithin, integersWithinAll, List.any_append, ← isNone_textWithin? around m,
        ← isNone_textsWithin? around members]
      cases hm : textWithin? around m <;> cases hs : textsWithin? around members <;> simp [textWithin?, hm, hs]
  | .labelled l v => by
      rw [textWithin?, integersWithin]
      split
      · rfl
      · exact isNone_textWithin? (l :: around) v

theorem isNone_textsWithin? (around : List Nat) :
    (vs : List Value) → (textsWithin? around vs).isNone = (integersWithinAll around vs).any isLong
  | [] => rfl
  | v :: vs => by
      rw [integersWithinAll, List.any_append, ← isNone_textWithin? around v, ← isNone_textsWithin? around vs]
      cases hv : textWithin? around v <;> cases hs : textsWithin? around vs <;> simp [textsWithin?, hv, hs]

theorem isNone_entryTexts? (around : List Nat) :
    (es : List (Value × Value)) → (entryTexts? around es).isNone = (integersWithinEntries around es).any isLong
  | [] => rfl
  | (k, v) :: es => by
      rw [integersWithinEntries, List.any_append, List.any_append, ← isNone_textWithin? around k,
        ← isNone_textWithin? around v, ← isNone_entryTexts? around es]
      cases hk : textWithin? around k <;> cases hv : textWithin? around v <;> cases hs : entryTexts? around es <;>
        simp [entryTexts?, hk, hv, hs]

end

/-- A value has a text unless one of its integers is too long. -/
theorem isNone_text? (v : Value) : v.text?.isNone = v.holdsLong := by
  cases v with
  | text _ | date _ | timestamp _ => rfl
  | _ => exact isNone_textWithin? [] _

end Value

end Invocation
