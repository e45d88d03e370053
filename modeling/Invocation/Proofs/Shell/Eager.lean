import Invocation.Argument.Basic
import Invocation.Proofs.Shell.Quoting

/-!
# Eager quoting

The escape opens quotes at the first code point that asks for them. It comes to the same to look through the whole
argument first, and then to write each code point by itself and the one before it.
-/

namespace Invocation

namespace Shell

/-! ## The eager escape -/

/-- Code points that ask for quotes wherever they stand. -/
def isSpecial (c : CodePoint) : Bool := c.isOneOf [' ', '*', '?', ';', '^', '&', '<', '>', '|', '"']

/-- Whether two code points begin a reference to a variable. -/
def startsReference (a b : CodePoint) : Bool := a = '%' && b.isAsciiLetter

def needsQuotes (v : Text) : Bool := v.any isSpecial || (List.zipWith startsReference v v.tail).any id

/-- How a code point is written inside quotes, given the one before it. -/
def writtenBehind (previous : Option CodePoint) (c : CodePoint) : Text :=
  if c.isOneOf ['^', '&', '<', '>', '|'] then ['^', c]
  else if c = '"' then ['"', '"']
  else if c.isAsciiLetter ∧ previous = some (.scalar '%') then ['"', c, '"']
  else [c]

/-- Each code point as it is written inside quotes, where `previous` stands before the text. -/
def writtenText (previous : Option CodePoint) (t : Text) : Text :=
  (List.zipWith writtenBehind (previous :: t.map some) t).flatten

def eagerEscape (v : Text) : Text := if needsQuotes v then Text.inQuotes (writtenText none v) else v

/-! ## Agreement with the scanner -/

theorem isSpecial_eq (c : CodePoint) : isSpecial c = (wantsQuotes c || wantsCaret c || decide (c = '"')) := by
  simp [isSpecial, wantsQuotes, wantsCaret, CodePoint.isOneOf, Bool.or_assoc]

theorem isTrigger_eq (percent : Bool) (c : CodePoint) :
    isTrigger percent c = (isSpecial c || (percent && c.isAsciiLetter)) := by
  rw [isSpecial_eq, isTrigger]

/-- What the scanner finds in the rest of an argument: a special code point, or a letter behind a percent sign, where
the first code point stands behind the one that has been read last. -/
theorem hasTrigger_eq (percent : Bool) (t : Text) :
    hasTrigger percent t = (needsQuotes t || (percent && t.head?.any CodePoint.isAsciiLetter)) := by
  induction t generalizing percent with
  | nil => simp [hasTrigger, needsQuotes]
  | cons c r ih =>
      rw [hasTrigger, ih, isTrigger_eq]
      cases r with
      | nil => simp [needsQuotes]
      | cons d r =>
          simp only [needsQuotes, List.any_cons, List.tail_cons, List.zipWith_cons_cons, List.head?_cons,
            Option.any_some, startsReference, id_eq]
          grind

theorem spelled_eq_writtenBehind {percent : Bool} {previous : Option CodePoint}
    (h : percent = true ↔ previous = some (.scalar '%')) (c : CodePoint) :
    spelled percent c = writtenBehind previous c := by
  by_cases hq : c = '"'
  · simp [spelled, writtenBehind, wantsCaret, hq]
  · simp [spelled, writtenBehind, wantsCaret, hq, h, and_comm]

theorem quotedRest_eq_writtenText {percent : Bool} {previous : Option CodePoint}
    (h : percent = true ↔ previous = some (.scalar '%')) (t : Text) :
    quotedRest percent t = writtenText previous t ++ [.scalar '"'] := by
  induction t generalizing percent previous with
  | nil => simp [quotedRest, writtenText]
  | cons c r ih =>
      have hrest : quotedRest (c = '%') r = writtenText (some c) r ++ [.scalar '"'] := ih (by simp)
      simp only [writtenText] at hrest
      simp [quotedRest, writtenText, spelled_eq_writtenBehind h, hrest]

theorem length_lt_length_quotedRest (percent : Bool) (t : Text) : t.length < (quotedRest percent t).length := by
  induction t generalizing percent with
  | nil => exact Nat.zero_lt_one
  | cons c r ih =>
      have hspelled : 0 < (spelled percent c).length := by
        rcases spelled_cases percent c with ⟨-, e⟩ | ⟨-, e⟩ | ⟨-, -, e⟩ | ⟨-, -, -, e⟩ <;> simp [e]
      have hrest := ih (c = '%')
      simp only [quotedRest, List.length_append, List.length_cons]
      omega

/-- Quotes that are opened late stand where quotes stand that are opened first; and an argument is left as it is if and
only if nothing in it asks for quotes. -/
theorem escape_eq_eagerEscape (v : Text) :
    escape v = eagerEscape v ∧ (escape v = v ↔ needsQuotes v = false) := by
  have htrigger : hasTrigger false v = needsQuotes v := by simp [hasTrigger_eq]
  cases hneeds : needsQuotes v with
  | true =>
      have hescape : escape v = .scalar '"' :: quotedRest false v := escape_of_trigger (htrigger.trans hneeds)
      constructor
      · have hwritten : quotedRest false v = writtenText none v ++ [.scalar '"'] :=
          quotedRest_eq_writtenText (by simp) v
        rw [hescape, hwritten, eagerEscape, if_pos hneeds]
        rfl
      · -- the two quotes make it longer
        have hlonger : escape v ≠ v := by
          intro h
          have hlength := length_lt_length_quotedRest false v
          have := congrArg List.length (hescape.symm.trans h)
          simp only [List.length_cons] at this
          omega
        simp [hlonger]
  | false =>
      have hescape : escape v = v := escape_of_no_trigger (htrigger.trans hneeds)
      simp [hescape, eagerEscape, hneeds]

example : eagerEscape "50%_off %PATH%" = "\"50%_off %\"P\"ATH%\"" := by decide

end Shell

end Invocation
