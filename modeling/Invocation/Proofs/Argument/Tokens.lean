import Invocation.Argument.Tokens
import Invocation.Proofs.Text.Pieces

/-!
# Tokens of a text

A text is made of tokens with runs of delimiters between them, in one way only: its tokens are the longest pieces
without a delimiter, whatever the runs are like.
-/

namespace Invocation

namespace Text

/-- Space, tab, line feed, carriage return and form feed. Every other code point may be part of a token. -/
def delimiters : Text := [' ', '\t', '\n', '\r', '\x0c']

def IsToken (t : Text) : Prop := t ≠ [] ∧ ∀ c ∈ t, c ∉ delimiters

/-- A run of delimiters, which may be empty. -/
def IsGap (t : Text) : Prop := ∀ c ∈ t, c ∈ delimiters

instance : DecidablePred IsToken := fun t => inferInstanceAs (Decidable (t ≠ [] ∧ ∀ c ∈ t, c ∉ delimiters))

instance : DecidablePred IsGap := fun t => inferInstanceAs (Decidable (∀ c ∈ t, c ∈ delimiters))

/-- The tokens stand in the text one after the other, each with a gap before and behind it. Only the gap behind the
last one may be empty, and the gaps before them. -/
inductive Spaced : Text → List Text → Prop where
  | gap {g : Text} (hg : g.IsGap) : Spaced g []
  | last {f token g : Text} (hf : f.IsGap) (htoken : token.IsToken) (hg : g.IsGap) : Spaced (f ++ token ++ g) [token]
  | next {f token g rest : Text} {tokens : List Text} (hf : f.IsGap) (htoken : token.IsToken) (hg : g.IsGap)
      (hne : g ≠ []) (hrest : Spaced rest tokens) : Spaced (f ++ token ++ (g ++ rest)) (token :: tokens)

/-! ## Delimiters and tokens -/

variable {t token : Text}

theorem isDelimiter_eq (c : CodePoint) : c.isDelimiter = decide (c ∈ delimiters) := by
  simp [CodePoint.isDelimiter, CodePoint.isOneOf, delimiters]

theorem isGap_nil : IsGap [] := fun _ hc => absurd hc List.not_mem_nil

theorem isToken_singleton {c : CodePoint} (hc : c ∉ delimiters) : IsToken [c] :=
  ⟨List.cons_ne_nil c [], List.forall_mem_singleton.mpr hc⟩

theorem IsToken.cons {c : CodePoint} (hc : c ∉ delimiters) (h : token.IsToken) : IsToken (c :: token) :=
  ⟨List.cons_ne_nil c token, List.forall_mem_cons.mpr ⟨hc, h.2⟩⟩

theorem isToken_of_mem_tokens (h : token ∈ t.tokens) : token.IsToken := by
  obtain ⟨hpiece, hne⟩ := List.mem_filter.mp h
  refine ⟨by simpa using hne, fun c hc => ?_⟩
  have hdelimiter := (mem_of_mem_splitAll hpiece c hc).2
  rwa [isDelimiter_eq, decide_eq_false_iff_not] at hdelimiter

theorem flatten_tokens (t : Text) : t.tokens.flatten = t.filter fun c => c ∉ delimiters := by
  rw [tokens, List.flatten_filter_not_isEmpty, flatten_splitAll]
  simp [isDelimiter_eq]

theorem tokens_append {d : CodePoint} (hd : d ∈ delimiters) (a b : Text) :
    tokens (a ++ d :: b) = a.tokens ++ b.tokens := by
  have hdelimiter : d.isDelimiter = true := by rw [isDelimiter_eq, decide_eq_true hd]
  rw [tokens, splitAll_append hdelimiter, List.filter_append, ← tokens, ← tokens]

/-- A gap at the beginning is part of no token. -/
theorem IsGap.tokens_append {g : Text} (hg : g.IsGap) (t : Text) : tokens (g ++ t) = t.tokens := by
  induction g with
  | nil => rfl
  | cons d g ih =>
      obtain ⟨hd, hg⟩ := List.forall_mem_cons.mp hg
      have hfirst : tokens ([] ++ d :: (g ++ t)) = tokens [] ++ tokens (g ++ t) := Text.tokens_append hd [] _
      rw [List.cons_append, ← List.nil_append (d :: (g ++ t)), hfirst, ih hg]
      rfl

theorem IsToken.tokens_eq (h : token.IsToken) : token.tokens = [token] := by
  have hnone : ∀ c ∈ token, c.isDelimiter = false := fun c hc => by rw [isDelimiter_eq, decide_eq_false (h.2 c hc)]
  simp [tokens, splitAll_eq_self hnone, h.1]

/-- A gap that is not empty ends the token before it. -/
theorem IsToken.tokens_append (h : token.IsToken) {g : Text} (hg : g.IsGap) (hne : g ≠ []) (rest : Text) :
    tokens (token ++ (g ++ rest)) = token :: rest.tokens := by
  cases g with
  | nil => exact absurd rfl hne
  | cons d g =>
      obtain ⟨hd, hrest⟩ := List.forall_mem_cons.mp hg
      rw [List.cons_append, Text.tokens_append hd, h.tokens_eq, IsGap.tokens_append hrest]
      rfl

/-! ## Spaced texts -/

namespace Spaced

variable {tokens : List Text}

theorem eq_tokens (h : Spaced t tokens) : t.tokens = tokens := by
  induction h with
  | @gap g hg =>
      rw [← List.append_nil g, hg.tokens_append]
      rfl
  | @last f token g hf htoken hg =>
      rw [List.append_assoc, hf.tokens_append]
      by_cases hne : g = []
      · rw [hne, List.append_nil, htoken.tokens_eq]
      · have hend := htoken.tokens_append hg hne []
        rwa [List.append_nil] at hend
  | next hf htoken hg hne _ ih => rw [List.append_assoc, hf.tokens_append, htoken.tokens_append hg hne, ih]

/-- One more delimiter at the beginning. -/
theorem delimiter {d : CodePoint} (hd : d ∈ delimiters) (h : Spaced t tokens) : Spaced (d :: t) tokens := by
  cases h with
  | gap hg => exact .gap (List.forall_mem_cons.mpr ⟨hd, hg⟩)
  | last hf htoken hg => exact .last (List.forall_mem_cons.mpr ⟨hd, hf⟩) htoken hg
  | next hf htoken hg hne hrest => exact .next (List.forall_mem_cons.mpr ⟨hd, hf⟩) htoken hg hne hrest

/-- One more character at the beginning: it goes in front of the first token, or is a token by itself. -/
theorem exists_character {c : CodePoint} (hc : c ∉ delimiters) (h : Spaced t tokens) :
    ∃ tokens', Spaced (c :: t) tokens' := by
  have halone := isToken_singleton hc
  cases h with
  | gap hg => exact ⟨_, .last isGap_nil halone hg⟩
  | @last f token g hf htoken hg =>
      by_cases hne : f = []
      · rw [hne]
        exact ⟨_, .last isGap_nil (htoken.cons hc) hg⟩
      · rw [List.append_assoc]
        exact ⟨_, .next isGap_nil halone hf hne (.last isGap_nil htoken hg)⟩
  | @next f token g rest tokens hf htoken hg hne hrest =>
      by_cases hne' : f = []
      · rw [hne']
        exact ⟨_, .next isGap_nil (htoken.cons hc) hg hne hrest⟩
      · rw [List.append_assoc]
        exact ⟨_, .next isGap_nil halone hf hne' (.next isGap_nil htoken hg hne hrest)⟩

end Spaced

theorem exists_spaced (t : Text) : ∃ tokens, Spaced t tokens := by
  induction t with
  | nil => exact ⟨[], .gap isGap_nil⟩
  | cons c t ih =>
      obtain ⟨tokens, h⟩ := ih
      by_cases hc : c ∈ delimiters
      · exact ⟨tokens, h.delimiter hc⟩
      · exact h.exists_character hc

/-- There is one way to see tokens with gaps between them in a text. -/
theorem spaced_iff {tokens : List Text} : Spaced t tokens ↔ t.tokens = tokens := by
  refine ⟨Spaced.eq_tokens, ?_⟩
  rintro rfl
  obtain ⟨tokens, h⟩ := exists_spaced t
  rwa [h.eq_tokens]

/-- The tokens of a text are not empty and hold no delimiter, and put together they are the text without its
delimiters. A delimiter between two texts keeps their tokens apart. Tokens with gaps between them, and with any gaps
around them, are just the tokens of the whole. -/
theorem tokens_split (t : Text) :
    (∀ token ∈ t.tokens, token.IsToken) ∧
    t.tokens.flatten = t.filter (fun c => c ∉ delimiters) ∧
    (∀ a b : Text, ∀ d ∈ delimiters, tokens (a ++ d :: b) = a.tokens ++ b.tokens) ∧
    ∀ tokens, Spaced t tokens ↔ t.tokens = tokens :=
  ⟨fun _ => isToken_of_mem_tokens, flatten_tokens t, fun a b _ hd => tokens_append hd a b, fun _ => spaced_iff⟩

/-- Flags with all five delimiters, and with quotes, a vertical tab and a no-break space, which are ordinary. -/
def flagBlob : Text := "\t-Dmsg=\"a b\"\r\n c\x0b\u00a0d\x0c"

theorem tokens_split_flagBlob :
    .scalar '\x0c' ∈ delimiters ∧
    tokens (flagBlob ++ .scalar '\x0c' :: "e") = flagBlob.tokens ++ tokens "e" ∧
    flagBlob.tokens = (["-Dmsg=\"a", "b\"", "c\x0b\u00a0d"] : List Text) := by
  have hmem : .scalar '\x0c' ∈ delimiters := by decide
  have hlast : Spaced "c\x0b\u00a0d\x0c" ["c\x0b\u00a0d"] :=
    @Spaced.last [] "c\x0b\u00a0d" "\x0c" isGap_nil (by decide) (by decide)
  have hrest : Spaced "b\"\r\n c\x0b\u00a0d\x0c" ["b\"", "c\x0b\u00a0d"] :=
    @Spaced.next [] "b\"" "\r\n " _ _ isGap_nil (by decide) (by decide) (by decide) hlast
  have hspaced : Spaced flagBlob ["-Dmsg=\"a", "b\"", "c\x0b\u00a0d"] :=
    @Spaced.next "\t" "-Dmsg=\"a" " " _ _ (by decide) (by decide) (by decide) (by decide) hrest
  exact ⟨hmem, (tokens_split flagBlob).2.2.1 _ _ _ hmem, ((tokens_split flagBlob).2.2.2 _).mp hspaced⟩

end Text

end Invocation
