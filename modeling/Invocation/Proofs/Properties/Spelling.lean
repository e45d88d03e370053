import Invocation.Proofs.Text.Surrogates
import Invocation.Properties.Entry
import Invocation.Properties.Line

/-!
# Spellings in property files

A character of a key or a value may be spelled by itself, behind a backslash, by the letter of its escape, or by the
hexadecimal digits of its UTF-16 units. Whoever scans a line sees where a spelling ends: none breaks the line, leaves a
backslash pending, or ends a key, and what it means is the character.
-/

namespace Invocation

namespace Properties

/-! ## Spelled characters -/

/-- The values of the hexadecimal digits of either case. -/
def hexDigits : List (Nat × Char) :=
  (List.range 16).zip "0123456789abcdef".toList ++ (List.range 16).zip "0123456789ABCDEF".toList

/-- The four hexadecimal digits of a number, the case of each of them its own. -/
inductive Digits (n : Nat) : Text → Prop where
  | mk {a b c d : Char} (ha : (n / 4096, a) ∈ hexDigits) (hb : (n / 256 % 16, b) ∈ hexDigits)
      (hc : (n / 16 % 16, c) ∈ hexDigits) (hd : (n % 16, d) ∈ hexDigits) : Digits n [a, b, c, d]

/-- The characters that have an escape with a letter, and the letter. -/
def escapeLetters : List (Char × Char) := [('\t', 't'), ('\n', 'n'), ('\r', 'r'), ('\x0c', 'f')]

/-- How a character may be spelled, where `bare` says which characters may stand for themselves. -/
inductive Spells (bare : Char → Prop) (c : Char) : Text → Prop where
  | bare (h : bare c) : Spells bare c [.scalar c]
  | backslash (h : c ∉ ['t', 'n', 'r', 'f', 'u', '\r', '\n']) : Spells bare c [.scalar '\\', .scalar c]
  | letter {l : Char} (h : (c, l) ∈ escapeLetters) : Spells bare c [.scalar '\\', .scalar l]
  | unit {digits : Text} (h : Digits c.toNat digits) : Spells bare c (.scalar '\\' :: .scalar 'u' :: digits)
  | pair {high low : Text} (h : 0x10000 ≤ c.toNat)
      (hhigh : Digits (CodePoint.highUnit c) high) (hlow : Digits (CodePoint.lowUnit c) low) :
      Spells bare c (.scalar '\\' :: .scalar 'u' :: high ++ .scalar '\\' :: .scalar 'u' :: low)

/-- The characters spelled one after the other, each in its own way. -/
inductive SpellsAll (bare : Char → Prop) : List Char → Text → Prop where
  | nil : SpellsAll bare [] []
  | cons {c : Char} {cs : List Char} {u t : Text} (h : Spells bare c u) (ht : SpellsAll bare cs t) :
      SpellsAll bare (c :: cs) (u ++ t)

def BareInValue (c : Char) : Prop := c ∉ ['\\', '\r', '\n']

def BareInKey (c : Char) : Prop := c ∉ ['\\', '\r', '\n', '=', ':', ' ', '\t', '\x0c']

instance : DecidablePred BareInValue := fun c => inferInstanceAs (Decidable (c ∉ _))

instance : DecidablePred BareInKey := fun c => inferInstanceAs (Decidable (c ∉ _))

theorem BareInKey.inValue {c : Char} (h : BareInKey c) : BareInValue c := by
  simp_all [BareInKey, BareInValue]

theorem BareInValue.ne_backslash {c : Char} (h : BareInValue c) : CodePoint.scalar c ≠ .scalar '\\' := by
  rintro ⟨⟩
  exact h (by decide)

variable {bare bare' : Char → Prop} {c : Char} {cs : List Char} {n : Nat} {digits t u : Text}

/-! ## Digits -/

theorem bareInKey_of_digit {v : Nat} {d : Char} (h : (v, d) ∈ hexDigits) : BareInKey d := by
  have hall : ∀ e ∈ hexDigits, e.2 ∉ ['\\', '\r', '\n', '=', ':', ' ', '\t', '\x0c'] := by decide
  exact hall (v, d) h

theorem digit?_of_digit {v : Nat} {d : Char} (h : (v, d) ∈ hexDigits) :
    (CodePoint.scalar d).digit? = some v ∧ v < 16 := by
  have hall : ∀ e ∈ hexDigits, (CodePoint.scalar e.2).digit? = some e.1 ∧ e.1 < 16 := by decide
  exact hall (v, d) h

theorem Digits.unit? (h : Digits n digits) : unit? digits = CodePoint.ofNat? n := by
  obtain ⟨ha, hb, hc, hd⟩ := h
  obtain ⟨ha, hlt⟩ := digit?_of_digit ha
  have hmod : ∀ m, m % 16 < 16 := fun m => Nat.mod_lt m (by decide)
  have hvalue : ((n / 4096 * 16 + n / 256 % 16) * 16 + n / 16 % 16) * 16 + n % 16 = n := by omega
  simp [Properties.unit?, Text.toNat?, ha, (digit?_of_digit hb).1, (digit?_of_digit hc).1, (digit?_of_digit hd).1, hlt,
    hmod, hvalue]

/-! ## Where spellings end -/

/-- Every backslash of the text takes the character behind it along, which is no line break. -/
inductive Paired (bare : Char → Prop) : Text → Prop where
  | nil : Paired bare []
  | bare {c : Char} {t : Text} (h : bare c) (ht : Paired bare t) : Paired bare (.scalar c :: t)
  | escape {c : Char} {t : Text} (h : c ∉ ['\r', '\n']) (ht : Paired bare t) :
      Paired bare (.scalar '\\' :: .scalar c :: t)

namespace Paired

theorem append (hu : Paired bare u) (ht : Paired bare t) : Paired bare (u ++ t) := by
  induction hu with
  | nil => exact ht
  | bare h _ ih => exact .bare h ih
  | escape h _ ih => exact .escape h ih

theorem mono (hb : ∀ c, bare c → bare' c) (h : Paired bare t) : Paired bare' t := by
  induction h with
  | nil => exact .nil
  | bare h _ ih => exact .bare (hb _ h) ih
  | escape h _ ih => exact .escape h ih

theorem of_digits (hb : ∀ c, BareInKey c → bare c) (h : Digits n digits) : Paired bare digits := by
  obtain ⟨ha, hb', hc, hd⟩ := h
  exact .bare (hb _ (bareInKey_of_digit ha)) (.bare (hb _ (bareInKey_of_digit hb'))
    (.bare (hb _ (bareInKey_of_digit hc)) (.bare (hb _ (bareInKey_of_digit hd)) .nil)))

theorem of_spells (hb : ∀ c, BareInKey c → bare c) (h : Spells bare c u) : Paired bare u := by
  have hu : 'u' ∉ ['\r', '\n'] := by decide
  cases h with
  | bare h => exact .bare h .nil
  | backslash h => exact .escape (fun hc => h (by grind)) .nil
  | letter h =>
      have hall : ∀ e ∈ escapeLetters, e.2 ∉ ['\r', '\n'] := by decide
      exact .escape (hall _ h) .nil
  | unit h => exact .escape hu (.of_digits hb h)
  | pair _ hhigh hlow =>
      have hfirst : Paired bare _ := .escape hu (.of_digits hb hhigh)
      exact hfirst.append (.escape hu (.of_digits hb hlow))

theorem of_spellsAll (hb : ∀ c, BareInKey c → bare c) (h : SpellsAll bare cs t) : Paired bare t := by
  induction h with
  | nil => exact .nil
  | cons h _ ih => exact (of_spells hb h).append ih

end Paired

theorem continues_concat (t : Text) (c : CodePoint) :
    continues (t ++ [c]) = (decide (c = .scalar '\\') && !continues t) := by
  by_cases hc : c = .scalar '\\'
  · simp only [continues, hc, List.reverse_append, List.reverse_singleton, List.singleton_append,
      List.takeWhile_cons, decide_true, if_true, List.length_cons, Bool.true_and]
    grind
  · simp [continues, hc]

theorem splitKey_bare {c : CodePoint} (hne : c ≠ .scalar '\\') (hends : (isSeparator c || isBlank c) = false)
    (t : Text) : splitKey (c :: t) = (c :: (splitKey t).1, (splitKey t).2) := by
  rw [splitKey.eq_def]
  grind

theorem splitKey_of_ends {c : CodePoint} (h : (isSeparator c || isBlank c) = true) (t : Text) :
    splitKey (c :: t) = ([], c :: t) := by
  have hne : c ≠ .scalar '\\' := by
    rintro rfl
    exact absurd h (by decide)
  rw [splitKey.eq_def]
  grind

/-- Every backslash of the text takes the code point behind it along, which is no line break. All other code points of
the text stay where they are. -/
inductive Guarded (stays : CodePoint → Prop) : Text → Prop where
  | nil : Guarded stays []
  | bare {c : CodePoint} {t : Text} (h : stays c) (ht : Guarded stays t) : Guarded stays (c :: t)
  | escape {c : CodePoint} {t : Text} (hr : c ≠ .scalar '\r') (hn : c ≠ .scalar '\n') (ht : Guarded stays t) :
      Guarded stays (.scalar '\\' :: c :: t)

/-- The code point neither breaks the line nor protects another. -/
def StaysInValue (c : CodePoint) : Prop := c ≠ .scalar '\\' ∧ c ≠ .scalar '\r' ∧ c ≠ .scalar '\n'

/-- The code point does not end the key either. -/
def StaysInKey (c : CodePoint) : Prop := StaysInValue c ∧ (isSeparator c || isBlank c) = false

theorem BareInValue.stays {c : Char} (h : BareInValue c) : StaysInValue (.scalar c) := by
  simpa [BareInValue, StaysInValue] using h

theorem BareInKey.stays {c : Char} (h : BareInKey c) : StaysInKey (.scalar c) := by
  refine ⟨h.inValue.stays, ?_⟩
  simp_all [BareInKey, isSeparator, isBlank, CodePoint.isOneOf]

variable {stays stays' : CodePoint → Prop}

namespace Guarded

theorem append (hu : Guarded stays u) (ht : Guarded stays t) : Guarded stays (u ++ t) := by
  induction hu with
  | nil => exact ht
  | bare h _ ih => exact .bare h ih
  | escape hr hn _ ih => exact .escape hr hn ih

theorem mono (hs : ∀ c, stays c → stays' c) (h : Guarded stays t) : Guarded stays' t := by
  induction h with
  | nil => exact .nil
  | bare h _ ih => exact .bare (hs _ h) ih
  | escape hr hn _ ih => exact .escape hr hn ih

/-- No line is broken. -/
theorem ne_lineBreak (h : Guarded StaysInValue t) : ∀ c ∈ t, c ≠ .scalar '\r' ∧ c ≠ .scalar '\n' := by
  induction h with
  | nil => simp
  | bare h _ ih => simp_all [StaysInValue]
  | escape _ _ _ ih => simp_all

/-- No backslash is pending at the end. -/
theorem continues_append (h : Guarded StaysInValue t) (hu : continues u = false) : continues (u ++ t) = false := by
  induction h generalizing u with
  | nil => simpa using hu
  | @bare c t h _ ih =>
      have hstep : continues (u ++ [c]) = false := by simp [continues_concat, h.1]
      simpa using ih hstep
  | @escape c t _ _ _ ih =>
      have hstep : continues (u ++ [.scalar '\\', c]) = false := by
        rw [List.append_cons, continues_concat, continues_concat, hu]
        simp
      simpa using ih hstep

/-- The key does not end in the text. -/
theorem splitKey_append (h : Guarded StaysInKey u) (t : Text) :
    splitKey (u ++ t) = (u ++ (splitKey t).1, (splitKey t).2) := by
  induction h with
  | nil => rfl
  | bare h _ ih =>
      rw [List.cons_append, splitKey_bare h.1.1 h.2, ih]
      rfl
  | escape _ _ _ ih =>
      rw [List.cons_append, List.cons_append, splitKey, ih]
      rfl

end Guarded

namespace Paired

theorem guarded (hs : ∀ c, bare c → stays (.scalar c)) (h : Paired bare t) : Guarded stays t := by
  induction h with
  | nil => exact .nil
  | bare h _ ih => exact .bare (hs _ h) ih
  | escape h _ ih =>
      simp only [List.mem_cons, List.not_mem_nil, or_false, not_or] at h
      exact .escape (by simpa using h.1) (by simpa using h.2) ih

theorem ne_lineBreak (h : Paired BareInValue t) : ∀ c ∈ t, c ≠ .scalar '\r' ∧ c ≠ .scalar '\n' :=
  (h.guarded fun _ => BareInValue.stays).ne_lineBreak

theorem continues_append (h : Paired BareInValue t) (hu : continues u = false) : continues (u ++ t) = false :=
  (h.guarded fun _ => BareInValue.stays).continues_append hu

theorem splitKey_append (h : Paired BareInKey u) (t : Text) :
    splitKey (u ++ t) = (u ++ (splitKey t).1, (splitKey t).2) :=
  (h.guarded fun _ => BareInKey.stays).splitKey_append t

end Paired

/-! ## What spellings mean -/

theorem unescape_bare {c : CodePoint} (h : c ≠ .scalar '\\') (t : Text) :
    unescape (c :: t) = (unescape t).map fun r => (c :: r.1, r.2) := by
  rw [unescape.eq_def]
  grind

theorem unescape_escape {c : CodePoint} (h : c ≠ .scalar 'u') (t : Text) :
    unescape (.scalar '\\' :: c :: t) = (unescape t).map fun r => (escaped c :: r.1, r.2) := by
  rw [unescape.eq_def]
  grind

theorem unescape_unit {unit : CodePoint} (h : Digits n digits) (hn : CodePoint.ofNat? n = some unit) (t : Text) :
    unescape (.scalar '\\' :: .scalar 'u' :: digits ++ t) =
      (unescape t).map fun r => (unit :: r.1, unit.isSurrogate || r.2) := by
  have hunit := h.unit?
  obtain ⟨-, -, -, -⟩ := h
  simp only [List.cons_append, List.nil_append, unescape, hunit, hn]
  cases unescape t <;> rfl

/-- What a spelled character leads to before surrogates are joined, and that joining makes the character of it. -/
theorem Spells.unescape_append (hb : ∀ c, bare c → BareInValue c) (h : Spells bare c u) (t : Text) :
    ∃ w : Text, unescape (u ++ t) = (unescape t).map (fun r => (w ++ r.1, w.hasSurrogate || r.2)) ∧
      ∀ r : Text, (w ++ r).joinSurrogates = .scalar c :: r.joinSurrogates := by
  have hone : ∀ r : Text, Text.joinSurrogates ([.scalar c] ++ r) = .scalar c :: r.joinSurrogates :=
    Text.joinSurrogates_cons (CodePoint.isHighSurrogate_scalar c)
  cases h with
  | bare h => exact ⟨[.scalar c], unescape_bare (hb c h).ne_backslash t, hone⟩
  | backslash h =>
      have hne : CodePoint.scalar c ≠ .scalar 'u' := by
        rintro ⟨⟩
        exact h (by decide)
      have hself : escaped (.scalar c) = .scalar c := by simp_all [escaped]
      refine ⟨[.scalar c], ?_, hone⟩
      rw [List.cons_append, List.cons_append, unescape_escape hne, hself]
      rfl
  | @letter l h =>
      have hall : ∀ e ∈ escapeLetters,
          CodePoint.scalar e.2 ≠ .scalar 'u' ∧ escaped (.scalar e.2) = .scalar e.1 := by decide
      obtain ⟨hne, hmeans⟩ := hall (c, l) h
      refine ⟨[.scalar c], ?_, hone⟩
      rw [List.cons_append, List.cons_append, unescape_escape hne, hmeans]
      rfl
  | unit h => exact ⟨[.scalar c], unescape_unit h (CodePoint.ofNat?_toNat c) t, hone⟩
  | @pair high low h hhigh hlow =>
      obtain ⟨a, b, hunit, hunit', hasurrogate, hbsurrogate, hjoins⟩ := CodePoint.exists_surrogates h
      refine ⟨[a, b], ?_, hjoins⟩
      have hfirst := unescape_unit hhigh hunit (.scalar '\\' :: .scalar 'u' :: low ++ t)
      rw [unescape_unit hlow hunit'] at hfirst
      rw [List.append_assoc, hfirst]
      simp [Text.hasSurrogate, hasurrogate, hbsurrogate, Function.comp_def]

/-- Spelled characters mean just these characters. -/
theorem SpellsAll.meaning? (hb : ∀ c, bare c → BareInValue c) (h : SpellsAll bare cs t) :
    meaning? t = some (cs.map CodePoint.scalar) := by
  have hunescape : ∃ us : Text,
      unescape t = some (us, us.hasSurrogate) ∧ us.joinSurrogates = cs.map CodePoint.scalar := by
    induction h with
    | nil => exact ⟨[], rfl, rfl⟩
    | @cons c cs u t h _ ih =>
        obtain ⟨us, hus, hjoined⟩ := ih
        obtain ⟨w, hw, hwjoined⟩ := h.unescape_append hb t
        refine ⟨w ++ us, ?_, by rw [hwjoined, hjoined]; rfl⟩
        rw [hw, hus]
        simp [Text.hasSurrogate]
  obtain ⟨us, hus, hjoined⟩ := hunescape
  rw [Properties.meaning?, hus, ← hjoined]
  -- pairs are joined only if an escape names a surrogate; without one there are none
  cases hsurrogate : us.hasSurrogate with
  | false => simp [Text.joinSurrogates_of_not_hasSurrogate hsurrogate]
  | true => rfl

end Properties

end Invocation
