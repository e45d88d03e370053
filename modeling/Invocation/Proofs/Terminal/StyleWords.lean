import Invocation.Proofs.Terminal.Escaping
import Invocation.Proofs.Text.Basic
import Invocation.Proofs.Text.Pieces
import Invocation.Proofs.Text.Surrogates

/-!
# Words of styles

A word in small letters between brackets is a tag whatever it says. Its normal form is the word itself unless it is a
short name of an attribute, so that a closing tag with such a word can only match a tag with the same word or that
attribute.
-/

namespace Invocation

/-! ## Letters -/

theorem CodePoint.bounds_of_isAsciiLower {c : CodePoint} (h : c.isAsciiLower = true) :
    97 ≤ c.toNat ∧ c.toNat ≤ 122 := by
  simpa [isAsciiLower, isBetween] using h

theorem CodePoint.not_isBlank_of_isAsciiLower {c : CodePoint} (h : c.isAsciiLower = true) : c.isBlank = false := by
  obtain ⟨hlow, hhigh⟩ := bounds_of_isAsciiLower h
  simp [isBlank]
  omega

theorem CodePoint.lower_of_isAsciiLower {c : CodePoint} (h : c.isAsciiLower = true) : c.lower = c := by
  have hletters : ∀ n ∈ List.range' 97 26, alongRun capitalRuns n = n := by decide +kernel
  obtain ⟨hlow, hhigh⟩ := bounds_of_isAsciiLower h
  have hrun : alongRun capitalRuns c.toNat = c.toNat := hletters _ (List.mem_range'_1.mpr ⟨hlow, by omega⟩)
  cases c with
  | scalar c =>
      rw [lower, hrun]
      exact congrArg (Option.getD · _) (ofNat?_toNat c)
  | surrogate i =>
      have hsurrogate : 0xD800 + i.val ≤ 122 := hhigh
      omega

namespace Text

theorem lowerAfter_of_isAsciiLower {t : Text} (h : ∀ c ∈ t, c.isAsciiLower = true) (before : Text) :
    lowerAfter before t = t := by
  induction t generalizing before with
  | nil => rfl
  | cons c t ih =>
      obtain ⟨hc, ht⟩ := List.forall_mem_cons.mp h
      have hsigma : c ≠ .scalar 'Σ' := by
        rintro rfl
        cases hc
      have hdotted : c ≠ .scalar 'İ' := by
        rintro rfl
        cases hc
      rw [lowerAfter, if_neg hsigma, if_neg hdotted, CodePoint.lower_of_isAsciiLower hc, ih ht]
      rfl

theorem dropTrailing_eq_self {p : CodePoint → Bool} {t : Text} (h : ∀ c ∈ t, p c = false) :
    dropTrailing p t = t := by
  induction t with
  | nil => rfl
  | cons c t ih =>
      obtain ⟨hc, ht⟩ := List.forall_mem_cons.mp h
      rw [dropTrailing, ih ht]
      cases t with
      | nil => simp [hc]
      | cons d t => rfl

theorem trim_of_not_isBlank {t : Text} (h : ∀ c ∈ t, c.isBlank = false) : trim t = t := by
  have hleft : trimLeft t = t := by
    cases t with
    | nil => rfl
    | cons c t => simp [trimLeft, h c List.mem_cons_self]
  rw [trim, hleft, trimRight, dropTrailing_eq_self h]

theorem words_of_not_isBlank {t : Text} (hne : t ≠ []) (h : ∀ c ∈ t, c.isBlank = false) : t.words = [t] := by
  simp [words, splitAll_eq_self h, hne]

end Text

namespace Terminal

/-! ## Words in small letters -/

/-- A word in small letters. -/
structure IsLowerWord (word : Text) : Prop where
  nonempty : word ≠ []
  lower : ∀ c ∈ word, c.isAsciiLower = true

namespace IsLowerWord

variable {word : Text} (h : IsLowerWord word)

include h

/-- The word has none of the signs that are below the letters or are brackets. -/
theorem not_mem {c : Char} (hc : (CodePoint.scalar c).isAsciiLower = false) : .scalar c ∉ word := by
  intro hmem
  rw [h.lower _ hmem] at hc
  cases hc

theorem head? : ∃ c r, word = c :: r ∧ c.isAsciiLower = true := by
  cases word with
  | nil => exact absurd rfl h.nonempty
  | cons c r => exact ⟨c, r, rfl, h.lower c List.mem_cons_self⟩

theorem isTagBody : IsTagBody word := by
  refine ⟨?_, h.not_mem (by decide), h.not_mem (by decide)⟩
  obtain ⟨c, r, rfl, hlower⟩ := h.head?
  simp [startsTag, hlower]

theorem isTagBody_close : IsTagBody (.scalar '/' :: word) :=
  ⟨(by decide : startsTag (.scalar '/') = true), by simpa using h.not_mem (by decide),
    by simpa using h.not_mem (by decide)⟩

theorem not_isBlank : ∀ c ∈ word, c.isBlank = false :=
  fun c hc => CodePoint.not_isBlank_of_isAsciiLower (h.lower c hc)

theorem lower_eq : word.lower = word := Text.lowerAfter_of_isAsciiLower h.lower []

theorem push_close {name : Text} (hname : normalStyle word = .ok name) (tags : Tags) (shown position : Nat) :
    tags.push shown position (.scalar '/' :: word) =
      match tags.opened.find? fun tag => tag.name = name with
      | some tag => tags.close shown tag
      | none => .error (.unmatched (.scalar '/' :: word) position) := by
  have htake : (word.takeWhile fun c => decide (c ≠ .scalar '=')) = word := by
    have hall : ∀ c ∈ word, decide (c ≠ CodePoint.scalar '=') = true := by
      intro c hc
      refine decide_eq_true ?_
      rintro rfl
      exact h.not_mem (by decide) hc
    have happend : ((word ++ []).takeWhile fun c => decide (c ≠ CodePoint.scalar '=')) = word ++ [] :=
      List.takeWhile_append_of_pos hall
    rwa [List.append_nil] at happend
  rw [Tags.push, htake, Text.trim_of_not_isBlank h.not_isBlank]
  split
  · exact absurd rfl h.nonempty
  · exact absurd rfl h.nonempty
  · rw [hname]
    rfl

/-- A word that is no attribute has no style or is the name of a colour. -/
theorem styleOf? (hnone : word ≠ "none") (hattribute : attribute? word = none) :
    Terminal.styleOf? word = .ok (if isNamedColor word then some ⟨[], some word, none, none⟩ else none) := by
  have hcomponents : components? word = none := by
    have hafter : insideCall? "rgb" word = none := by
      rw [insideCall?]
      cases hcall : Text.after? ("rgb" ++ "(") word with
      | none => rfl
      | some r =>
          have hbracket : .scalar '(' ∈ word := by simp [Text.eq_of_after? hcall, Text.ofString]
          exact absurd hbracket (h.not_mem (by decide))
    rw [components?, hafter]
    rfl
  have hcolor : isColor word = .ok (isNamedColor word) := by
    rw [isColor, hcomponents]
    rfl
  rw [Terminal.styleOf?, Text.trim_of_not_isBlank h.not_isBlank, if_neg hnone,
    Text.words_of_not_isBlank h.nonempty h.not_isBlank]
  simp only [Style.read?, h.lower_eq, hattribute, hcolor]
  cases isNamedColor word <;> rfl

theorem normalStyle_of_attribute? (hnone : word ≠ "none") (hattribute : attribute? word = none) :
    normalStyle word = .ok word := by
  have hparts : Style.parts ⟨[], some word, none, none⟩ = [word] := rfl
  have hnormal : Style.normal ⟨[], some word, none, none⟩ = word := by simp [Style.normal, hparts, Text.joinWith]
  rw [normalStyle, h.styleOf? hnone hattribute, Text.trim_of_not_isBlank h.not_isBlank, h.lower_eq]
  cases isNamedColor word with
  | true => exact congrArg Except.ok hnormal
  | false => rfl

end IsLowerWord

/-- The names of attributes in full. -/
def attributeNames : List Text := attributes.map fun a => a.1

theorem normal_withAttribute {name : Text} (h : name ∈ attributeNames) :
    (Style.empty.withAttribute name true).normal = name := by
  revert name
  decide +kernel

theorem mem_attributeNames {word name : Text} (h : attribute? word = some name) : name ∈ attributeNames := by
  rw [attribute?] at h
  obtain ⟨a, ha, rfl⟩ := Option.map_eq_some_iff.mp h
  exact List.mem_map_of_mem (List.mem_of_find?_eq_some ha)

/-- The normal form of a word is the word itself or the full name of an attribute. -/
theorem IsLowerWord.normalStyle {word : Text} (h : IsLowerWord word) :
    ∃ name, Terminal.normalStyle word = .ok name ∧ (name = word ∨ name ∈ attributeNames) := by
  by_cases hnone : word = "none"
  · subst hnone
    exact ⟨"none", rfl, .inl rfl⟩
  · cases hattribute : attribute? word with
    | some name =>
        have hmem := mem_attributeNames hattribute
        have hstyle : Terminal.styleOf? word = .ok (some (Style.empty.withAttribute name true)) := by
          rw [Terminal.styleOf?, Text.trim_of_not_isBlank h.not_isBlank, if_neg hnone,
            Text.words_of_not_isBlank h.nonempty h.not_isBlank]
          simp only [Style.read?, h.lower_eq, hattribute]
          rfl
        refine ⟨name, ?_, .inr hmem⟩
        rw [Terminal.normalStyle, hstyle]
        exact congrArg Except.ok (normal_withAttribute hmem)
    | none => exact ⟨word, h.normalStyle_of_attribute? hnone hattribute, .inl rfl⟩

/-- A word in small letters that is the normal form of a style. -/
structure IsStyleWord (word : Text) : Prop extends IsLowerWord word where
  normal : normalStyle word = .ok word

namespace IsStyleWord

variable {word : Text} (h : IsStyleWord word)

include h

theorem styleOf? : ∃ s, Terminal.styleOf? word = .ok s := by
  have hnormal := h.normal
  rw [normalStyle] at hnormal
  cases hstyle : Terminal.styleOf? word with
  | ok s => exact ⟨s, rfl⟩
  | error f =>
      rw [hstyle] at hnormal
      cases hnormal

theorem push (tags : Tags) (shown position : Nat) :
    tags.push shown position word = .ok ⟨⟨word, none, shown⟩ :: tags.opened, tags.closed⟩ := by
  obtain ⟨c, r, hword, hlower⟩ := h.head?
  have hslash : c ≠ .scalar '/' := by
    rintro rfl
    cases hlower
  have hcut : Text.cutAt (.scalar '=') word = none := Text.cutAt_eq_none_iff.mpr (h.not_mem (by decide))
  have hopen : OpenTag.ofBody shown word = .ok ⟨word, none, shown⟩ := by
    simp only [OpenTag.ofBody, hcut, h.normal]
    rfl
  rw [Tags.push]
  · rw [hopen]
    rfl
  · rintro r rfl
    exact hslash (List.cons.inj hword).1.symm

theorem close (shown stop : Nat) :
    Tags.close ⟨[⟨word, none, shown⟩], []⟩ stop ⟨word, none, shown⟩ = .ok ⟨[], [⟨shown, stop, word⟩]⟩ := by
  obtain ⟨c, r, hword, hlower⟩ := h.head?
  have hhandler : OpenTag.isHandler ⟨word, none, shown⟩ = false := by
    refine decide_eq_false ?_
    rintro hhead
    rw [hword] at hhead
    cases hhead
    cases hlower
  simp only [Tags.close, hhandler]
  simp [OpenTag.span]
  rfl

end IsStyleWord

/-- The colours that the program prints in. -/
def printedColors : List Text := ["blue", "green", "red", "yellow"]

theorem isStyleWord_bold : IsStyleWord "bold" := ⟨⟨by decide, by decide⟩, rfl⟩

theorem not_mem_attributeNames_of_color {color : Text} (h : color ∈ printedColors) : color ∉ attributeNames := by
  revert color
  decide +kernel

theorem isStyleWord_color {color : Text} (h : color ∈ printedColors) : IsStyleWord color := by
  have hstyle : color ≠ "none" ∧ attribute? color = none := by
    revert color
    decide +kernel
  have hword : IsLowerWord color := by
    refine ⟨?_, ?_⟩ <;> revert color <;> decide +kernel
  exact ⟨hword, hword.normalStyle_of_attribute? hstyle.1 hstyle.2⟩

end Terminal

end Invocation
