import Invocation.Proofs.Argument.Growth
import Invocation.Proofs.Text.Basic
import Invocation.Proofs.Text.Quotes

/-!
# Command lines that are shown

A command line that is shown can be taken apart again, as long as no argument has a quote in it: the spaces outside of
quotes are the boundaries of its arguments, and the quotes around an argument are not its own.
-/

namespace Invocation

/-! ## Arguments in quotes -/

namespace Text

/-- The text without the quotes around it, if it has them. -/
def withoutQuotes : Text → Text
  | .scalar '"' :: r => if r.getLast? = some (.scalar '"') then r.dropLast else .scalar '"' :: r
  | t => t

variable {t : Text}

theorem withoutQuotes_inQuotes (t : Text) : t.inQuotes.withoutQuotes = t := by
  simp [inQuotes, ofString, withoutQuotes]

theorem withoutQuotes_of_not_mem (h : .scalar '"' ∉ t) : t.withoutQuotes = t := by
  cases t with
  | nil => rfl
  | cons c r =>
      have hc : c ≠ .scalar '"' := fun heq => h (heq ▸ List.mem_cons_self)
      rw [withoutQuotes]
      grind

theorem whole_of_not_mem (hspace : .scalar ' ' ∉ t) (hquote : .scalar '"' ∉ t) : t.Whole := by
  refine ⟨fun before c after heq hc => absurd ?_ hspace, opensQuotes_of_not_mem hquote⟩
  rw [heq, ← hc]
  exact List.mem_append_right _ List.mem_cons_self

theorem whole_inQuotes (h : .scalar '"' ∉ t) : t.inQuotes.Whole := by
  have hopens : opensQuotes "\"" = true := by decide
  have hmark : ∀ b : Text, Each (fun before c _ => c = ' ' → opensQuotes (b ++ before) = true) "\"" :=
    fun _ => each_cons.mpr ⟨fun hc => absurd hc (by decide), each_nil⟩
  refine ⟨?_, by simp [inQuotes, hopens, opensQuotes_of_not_mem h]⟩
  rw [inQuotes, each_append, each_append]
  refine ⟨⟨hmark [], fun before c after heq _ => ?_⟩, hmark _⟩
  have hbefore : .scalar '"' ∉ before := fun hmem => h (heq ▸ List.mem_append_left _ hmem)
  rw [opensQuotes_append, hopens, opensQuotes_of_not_mem hbefore]
  rfl

theorem whole_forDisplay (h : .scalar '"' ∉ t) : t.forDisplay.Whole := by
  rw [forDisplay]
  split
  · exact whole_inQuotes h
  · rename_i hplain
    exact whole_of_not_mem (by simp_all) h

theorem withoutQuotes_forDisplay (h : .scalar '"' ∉ t) : t.forDisplay.withoutQuotes = t := by
  rw [forDisplay]
  split
  · exact withoutQuotes_inQuotes t
  · exact withoutQuotes_of_not_mem h

theorem cut_joinWith {ts : List Text} (hne : ts ≠ []) (h : ∀ t ∈ ts, t.Whole) :
    cutOutsideQuotes (joinWith " " ts) = ts := by
  cases ts with
  | nil => exact absurd rfl hne
  | cons t ts =>
      obtain ⟨ht, hts⟩ := List.forall_mem_cons.mp h
      rw [joinWith_cons]
      induction ts generalizing t with
      | nil => rw [List.flatMap_nil, List.append_nil, ht.cut]
      | cons u ts ih =>
          obtain ⟨hu, hts'⟩ := List.forall_mem_cons.mp hts
          have hrest := ih u (List.cons_ne_nil u ts) hts hu hts'
          rw [List.flatMap_cons, List.append_assoc]
          exact (ht.cut_cons _).trans (congrArg (t :: ·) hrest)

end Text

/-! ## Hiding before and after -/

theorem Text.forDisplay_placeholder : placeholder.forDisplay = placeholder := by
  decide

namespace Arguments

/-- The placeholder needs no quotes, so a secret may be hidden before or after the arguments are quoted. -/
theorem display_redacted (as : Arguments) : as.redacted.display = as.maskedDisplay := by
  rw [display, maskedDisplay, redacted, List.map_map]
  refine congrArg (Text.joinWith " ") (List.map_congr_left fun a _ => ?_)
  cases ha : a.secret <;> simp [Argument.redacted, Argument.plain, Argument.shown, ha,
    Text.forDisplay_placeholder]

theorem redacted_eq (as : Arguments) : as.redacted = as.shownValues.map Argument.plain := by
  rw [redacted, shownValues, List.map_map]
  rfl

theorem values_redacted (as : Arguments) : as.redacted.values = as.shownValues := by
  rw [redacted_eq, values_map_plain]

/-! ## Command lines taken apart -/

variable {as : Arguments}

/-- The arguments of a command line that is shown, as far as quotes tell. -/
def readDisplay (line : Text) : List Text := line.cutOutsideQuotes.map Text.withoutQuotes

theorem readDisplay_display (hne : as ≠ []) (h : ∀ a ∈ as, .scalar '"' ∉ a.value) :
    readDisplay as.display = as.values := by
  have hpieces : as.map (fun a => a.value.forDisplay) ≠ [] := by simpa using hne
  have hwhole : ∀ t ∈ as.map (fun a => a.value.forDisplay), t.Whole :=
    List.forall_mem_map.mpr fun a ha => Text.whole_forDisplay (h a ha)
  rw [readDisplay, display, Text.cut_joinWith hpieces hwhole, List.map_map, values]
  exact List.map_congr_left fun a ha => Text.withoutQuotes_forDisplay (h a ha)

theorem quote_not_mem_shown {a : Argument} (h : a.secret = false → .scalar '"' ∉ a.value) : .scalar '"' ∉ a.shown := by
  cases ha : a.secret with
  | true =>
      have hplaceholder : .scalar '"' ∉ placeholder := by decide
      rw [Argument.shown, ha]
      exact hplaceholder
  | false =>
      rw [Argument.shown, ha]
      exact h ha

/-- A command line that may be shown, without quotes in what is no secret, is read as the arguments that it shows, with
the placeholder for each secret. With no quotes in the secrets either, the command line in the clear is read as the
arguments themselves. -/
theorem displays_read_back (hne : as ≠ []) (h : ∀ a ∈ as, a.secret = false → .scalar '"' ∉ a.value) :
    readDisplay as.maskedDisplay = as.map (fun a => if a.secret then placeholder else a.value) ∧
    ((∀ a ∈ as, a.secret = true → .scalar '"' ∉ a.value) → readDisplay as.display = as.values) := by
  constructor
  · have hredacted : as.redacted ≠ [] := by simpa [redacted] using hne
    have hquotes : ∀ a ∈ as.redacted, .scalar '"' ∉ a.value :=
      List.forall_mem_map.mpr fun a ha => quote_not_mem_shown (h a ha)
    rw [← display_redacted, readDisplay_display hredacted hquotes, values_redacted]
    rfl
  · refine fun hsecret => readDisplay_display hne fun a ha => ?_
    cases hflag : a.secret with
    | true => exact hsecret a ha hflag
    | false => exact h a ha hflag

/-- An empty argument, one that is all spaces, and secrets before and behind them. -/
def spacedLogin : Arguments := [.plain "login", .hidden "a b", .plain "", .plain "  ", .hidden "<masked>"]

theorem displays_read_back_spacedLogin :
    spacedLogin ≠ [] ∧ (∀ a ∈ spacedLogin, a.secret = false → .scalar '"' ∉ a.value) ∧
    (∀ a ∈ spacedLogin, a.secret = true → .scalar '"' ∉ a.value) ∧
    readDisplay "login <masked> \"\" \"  \" <masked>" = (["login", "<masked>", "", "  ", "<masked>"] : List Text) ∧
    readDisplay "login \"a b\" \"\" \"  \" <masked>" = (["login", "a b", "", "  ", "<masked>"] : List Text) := by
  have hne : spacedLogin ≠ [] := by decide
  have hopen : ∀ a ∈ spacedLogin, a.secret = false → .scalar '"' ∉ a.value := by decide
  have hsecret : ∀ a ∈ spacedLogin, a.secret = true → .scalar '"' ∉ a.value := by decide
  obtain ⟨hmasked, hclear⟩ := displays_read_back hne hopen
  exact ⟨hne, hopen, hsecret, hmasked, hclear hsecret⟩

end Arguments

end Invocation
