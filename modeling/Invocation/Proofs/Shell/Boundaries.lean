import Invocation.Proofs.Shell.Containment

/-!
# Boundaries of arguments

A wrapped command can be taken apart again: the spaces outside of quotes are the boundaries of its arguments, and each
escaped argument can be read back.
-/

namespace Invocation

namespace Shell

/-! ## Reading an escaped argument -/

/-- What is written inside of quotes, up to the closing quote. -/
def quotedContent : Text → Text
  | .scalar '^' :: c :: r => c :: quotedContent r
  | .scalar '"' :: .scalar '"' :: r => .scalar '"' :: quotedContent r
  | .scalar '"' :: c :: .scalar '"' :: r => c :: quotedContent r
  | .scalar '"' :: _ => []
  | c :: r => c :: quotedContent r
  | [] => []

/-- The argument of which the text is the escape. -/
def unescape : Text → Text
  | .scalar '"' :: r => quotedContent r
  | t => t

theorem quotedContent_spelled (percent : Bool) (c : CodePoint) (rest : Text) :
    quotedContent (spelled percent c ++ rest) = c :: quotedContent rest := by
  rcases spelled_cases percent c with ⟨-, e⟩ | ⟨rfl, e⟩ | ⟨-, hl, e⟩ | ⟨hc, hq, -, e⟩
  · simp [e, quotedContent]
  · simp [e, quotedContent]
  · simp [e, quotedContent, ne_quote_of_letter hl]
  · have hcaret : c ≠ '^' := by rintro rfl; exact absurd hc (by decide)
    simp [e, quotedContent, hq, hcaret]

theorem quotedContent_quotedRest (percent : Bool) (t : Text) : quotedContent (quotedRest percent t) = t := by
  induction t generalizing percent with
  | nil => rfl
  | cons c r ih => rw [quotedRest, quotedContent_spelled, ih]

theorem unescape_escape (v : Text) : unescape (escape v) = v := by
  cases h : hasTrigger false v with
  | true => rw [escape_of_trigger h, unescape, quotedContent_quotedRest]
  | false =>
      rw [escape_of_no_trigger h]
      cases v with
      | nil => rfl
      | cons c r =>
          have hq : c ≠ '"' := by rintro rfl; exact absurd h (by simp [hasTrigger, isTrigger])
          simp [unescape, hq]

theorem escape_injective : Function.Injective escape :=
  Function.LeftInverse.injective unescape_escape

/-! ## Cutting a command -/

theorem whole_escape (v : Text) : (escape v).Whole :=
  ⟨(placed_escape v).imp fun _ _ _ h e => h.inside (.inl (e ▸ rfl)), opensQuotes_escape v⟩

theorem cut_argumentsText (values : List Text) (rest : Text) :
    Text.cutOutsideQuotes (argumentsText values ++ rest) = values.map escape ++ Text.cutOutsideQuotes rest := by
  induction values with
  | nil => rfl
  | cons v vs ih =>
      rw [argumentsText, List.flatMap_cons, ← argumentsText]
      simp [(whole_escape v).cut_cons, ih]

def trailerWords : List Text := ["&&", "exit", "%%ERRORLEVEL%%"]

theorem cut_exitTrailer : Text.cutOutsideQuotes exitTrailer = trailerWords := by
  decide

theorem cut_commandText (values : List Text) :
    Text.cutOutsideQuotes (commandText values) = values.map escape ++ trailerWords := by
  rw [commandText_eq, cut_argumentsText, cut_exitTrailer]

theorem inQuotes_injective : Function.Injective Text.inQuotes := by
  intro a b h
  simpa [Text.inQuotes] using h

/-- A wrapped command determines its arguments: cut at the spaces with an even number of quotes before them, its text
gives each argument in its escape, and the words of the trailer; and no two arguments have one escape. -/
theorem wrap_determines_arguments :
    (∀ values : List Text, ∃ command : Text,
      (wrap values).values = [executable, switch, command.inQuotes] ∧
      command.cutOutsideQuotes = values.map escape ++ trailerWords) ∧
    Function.Injective escape ∧ Function.Injective wrap := by
  refine ⟨fun values => ⟨commandText values, rfl, cut_commandText values⟩, escape_injective, fun xs ys h => ?_⟩
  have hquoted : (commandText xs).inQuotes = (commandText ys).inQuotes := by
    simpa [wrap, Argument.plain] using h
  have hcut : xs.map escape ++ trailerWords = ys.map escape ++ trailerWords := by
    rw [← cut_commandText, ← cut_commandText, inQuotes_injective hquoted]
  exact (List.map_inj_right fun _ _ e => escape_injective e).mp (List.append_cancel_right hcut)

end Shell

end Invocation
