import Invocation.Shell.Escape

/-!
# The form of an escaped argument

The escape opens quotes late but puts them in front of everything seen so far. It has two forms all the same: the
argument as it is, or the whole argument in quotes with each code point spelled by itself and the one before it.
-/

namespace Invocation

namespace Shell

/-- Whether the rest of an argument holds a code point that asks for quotes. -/
def hasTrigger (percent : Bool) : Text → Bool
  | [] => false
  | c :: r => isTrigger percent c || hasTrigger (c = '%') r

/-! ## Code points -/

/-- What asks for no quotes is spelled as it is. -/
theorem spelled_of_not_trigger {percent : Bool} {c : CodePoint} (h : isTrigger percent c = false) :
    spelled percent c = [c] := by
  simp only [isTrigger, Bool.or_eq_false_iff, decide_eq_false_iff_not] at h
  simp [spelled, h]

/-- The four ways to spell a code point inside quotes. -/
theorem spelled_cases (percent : Bool) (c : CodePoint) :
    (wantsCaret c = true ∧ spelled percent c = [.scalar '^', c]) ∨
    (c = '"' ∧ spelled percent c = [.scalar '"', .scalar '"']) ∨
    (percent = true ∧ c.isAsciiLetter = true ∧ spelled percent c = [.scalar '"', c, .scalar '"']) ∨
    (wantsCaret c = false ∧ c ≠ '"' ∧ (percent && c.isAsciiLetter) = false ∧ spelled percent c = [c]) := by
  unfold spelled
  cases hc : wantsCaret c with
  | true => simp
  | false =>
      by_cases hq : c = '"'
      · simp [hq]
      · cases hl : percent && c.isAsciiLetter with
        | true => simpa [hq] using hl
        | false => simp [hq]

/-! ## Arguments -/

theorem escapeRest_eq (percent : Bool) (seen t : Text)
    (h : ∀ r, quotedRest false (seen.reverse ++ r) = seen.reverse ++ quotedRest percent r) :
    escapeRest percent seen t =
      if hasTrigger percent t then .scalar '"' :: quotedRest false (seen.reverse ++ t) else seen.reverse ++ t := by
  induction t generalizing percent seen with
  | nil => simp [escapeRest, hasTrigger]
  | cons c r ih =>
      cases hc : isTrigger percent c with
      | true => simp [escapeRest, hasTrigger, hc, h]
      | false =>
          -- what has been seen is spelled as it is, and so is `c`
          have hseen : ∀ r, quotedRest false ((c :: seen).reverse ++ r) =
              (c :: seen).reverse ++ quotedRest (c = '%') r := by
            intro r
            simp [h, quotedRest, spelled_of_not_trigger hc]
          simp [escapeRest, hasTrigger, hc, ih _ _ hseen]

/-- The argument as it is, or all of it in quotes. -/
theorem escape_eq (v : Text) :
    escape v = if hasTrigger false v then .scalar '"' :: quotedRest false v else v :=
  escapeRest_eq false [] v fun _ => rfl

example : escape "%foo%" = "\"%\"f\"oo%\"" := by decide

theorem escape_of_trigger {v : Text} (h : hasTrigger false v = true) :
    escape v = .scalar '"' :: quotedRest false v := by
  simp [escape_eq, h]

theorem escape_of_no_trigger {v : Text} (h : hasTrigger false v = false) : escape v = v := by
  simp [escape_eq, h]

theorem hasTrigger_of_escape_ne {v : Text} (h : escape v ≠ v) : hasTrigger false v = true := by
  cases ht : hasTrigger false v with
  | true => rfl
  | false => exact absurd (escape_of_no_trigger ht) h

end Shell

end Invocation
