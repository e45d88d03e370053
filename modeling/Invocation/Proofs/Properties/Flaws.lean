import Mathlib.Algebra.Group.Nat.Defs
import Invocation.Proofs.Properties.LogicalLines
import Invocation.Proofs.Properties.Malformed
import Invocation.Proofs.Properties.NaturalLines

/-!
# Flaws of logical lines

What is wrong with a logical line can be told from the whole of it, without taking key and value apart: it is not
complete, or a backslash in it announces the digits of a unit that are not there. A property text is refused for the
first of its logical lines that has a flaw.
-/

namespace Invocation

namespace Properties

/-! ## Digits -/

/-- The text begins with four hexadecimal digits. -/
def BeginsWithUnit (t : Text) : Prop := (t.take 4).length = 4 ∧ ∀ c ∈ t.take 4, c.isHexDigit = true

instance : DecidablePred BeginsWithUnit := fun t =>
  inferInstanceAs (Decidable ((t.take 4).length = 4 ∧ ∀ c ∈ t.take 4, c.isHexDigit = true))

theorem beginsWithUnit_cons {a b c d : CodePoint} {t : Text} :
    BeginsWithUnit (a :: b :: c :: d :: t) ↔
      a.isHexDigit = true ∧ b.isHexDigit = true ∧ c.isHexDigit = true ∧ d.isHexDigit = true := by
  simp [BeginsWithUnit]

theorem BeginsWithUnit.exists_digits {t : Text} (h : BeginsWithUnit t) :
    ∃ a b c d r, t = a :: b :: c :: d :: r := by
  obtain ⟨hlength, -⟩ := h
  match t, hlength with
  | a :: b :: c :: d :: r, _ => exact ⟨a, b, c, d, r, rfl⟩

theorem BeginsWithUnit.append {t : Text} (h : BeginsWithUnit t) (u : Text) : BeginsWithUnit (t ++ u) := by
  obtain ⟨a, b, c, d, r, rfl⟩ := h.exists_digits
  simpa only [List.cons_append, beginsWithUnit_cons] using h

theorem digit?_lt {c : CodePoint} {n : Nat} (h : c.digit? = some n) : n < 16 := by
  simp only [CodePoint.digit?, CodePoint.isBetween, Bool.and_eq_true, decide_eq_true_eq, Char.reduceToNat] at h
  grind

/-- The number that is read if hexadecimal digits follow those of `n`. -/
def readDigits (n : Nat) (t : Text) : Option Nat := t.foldlM (fun n c => c.digit?.map (n * 16 + ·)) n

theorem readDigits_cons (n : Nat) (c : CodePoint) (t : Text) :
    readDigits n (c :: t) = c.digit?.bind fun d => readDigits (n * 16 + d) t := by
  rw [readDigits, List.foldlM_cons]
  cases c.digit? <;> rfl

theorem toNat?_eq_readDigits {t : Text} (hne : t ≠ []) : Text.toNat? 16 t = readDigits 0 t := by
  have hdigit (c : CodePoint) (n : Nat) :
      (c.digit?.bind fun d => if d < 16 then some (n * 16 + d) else none) = c.digit?.map (n * 16 + ·) := by
    cases hc : c.digit? with
    | none => rfl
    | some d => simp [digit?_lt hc]
  simp only [Text.toNat?, List.isEmpty_iff, hne, if_false, hdigit, readDigits]

/-- Digits are always read, to a number that has no more of them. -/
theorem exists_readDigits {t : Text} (h : ∀ c ∈ t, c.isHexDigit = true) (n : Nat) :
    ∃ m, readDigits n t = some m ∧ m < (n + 1) * 16 ^ t.length := by
  induction t generalizing n with
  | nil => exact ⟨n, rfl, by simp⟩
  | cons c t ih =>
      obtain ⟨hc, ht⟩ := List.forall_mem_cons.mp h
      obtain ⟨d, hd⟩ := Option.isSome_iff_exists.mp hc
      obtain ⟨m, hm, hlt⟩ := ih ht (n * 16 + d)
      have hbound : n * 16 + d + 1 ≤ (n + 1) * 16 := by
        have hlt := digit?_lt hd
        omega
      refine ⟨m, by rw [readDigits_cons, hd, Option.bind_some, hm], Nat.lt_of_lt_of_le hlt ?_⟩
      calc (n * 16 + d + 1) * 16 ^ t.length
          ≤ (n + 1) * 16 * 16 ^ t.length := Nat.mul_le_mul_right _ hbound
        _ = (n + 1) * 16 ^ (c :: t).length := by rw [List.length_cons, Nat.pow_succ', Nat.mul_assoc]

theorem isHexDigit_of_readDigits {t : Text} {n m : Nat} (h : readDigits n t = some m) :
    ∀ c ∈ t, c.isHexDigit = true := by
  induction t generalizing n with
  | nil => simp
  | cons c t ih =>
      rw [readDigits_cons] at h
      obtain ⟨d, hd, ht⟩ := Option.bind_eq_some_iff.mp h
      exact List.forall_mem_cons.mpr ⟨Option.isSome_iff_exists.mpr ⟨d, hd⟩, ih ht⟩

theorem isSome_ofNat? {n : Nat} (h : n < 0x110000) : (CodePoint.ofNat? n).isSome = true := by
  rw [CodePoint.ofNat?]
  split <;> rfl

/-- Four digits always name a unit. -/
theorem isSome_unit? (a b c d : CodePoint) (r : Text) :
    (unit? [a, b, c, d]).isSome = true ↔ BeginsWithUnit (a :: b :: c :: d :: r) := by
  have hunit : unit? [a, b, c, d] = (readDigits 0 [a, b, c, d]).bind CodePoint.ofNat? := by
    rw [← toNat?_eq_readDigits (List.cons_ne_nil _ _)]
    rfl
  have hdigits : BeginsWithUnit (a :: b :: c :: d :: r) ↔ ∀ e ∈ [a, b, c, d], e.isHexDigit = true := by
    simp [BeginsWithUnit]
  rw [hunit, hdigits]
  constructor
  · intro h
    obtain ⟨u, hu⟩ := Option.isSome_iff_exists.mp h
    obtain ⟨n, hn, -⟩ := Option.bind_eq_some_iff.mp hu
    exact isHexDigit_of_readDigits hn
  · intro h
    obtain ⟨n, hn, hlt⟩ := exists_readDigits h 0
    have hcode : n < 0x110000 := Nat.lt_trans hlt (by simp)
    rw [hn]
    exact isSome_ofNat? hcode

/-! ## Broken escapes -/

/-- A backslash that is not protected by another announces a unit, but no four digits of one follow. -/
def BrokenEscape (t : Text) : Prop :=
  ∃ before after, t = before ++ .scalar '\\' :: .scalar 'u' :: after ∧ continues before = false ∧ ¬BeginsWithUnit after

namespace BrokenEscape

variable {c : CodePoint} {t : Text}

theorem not_nil : ¬BrokenEscape [] := by
  rintro ⟨before, after, heq, -⟩
  cases before <;> cases heq

theorem not_backslash : ¬BrokenEscape [.scalar '\\'] := by
  rintro ⟨before, after, heq, -⟩
  match before with
  | [] | _ :: _ => simp at heq

/-- What stands before an escape and leaves no backslash pending does not matter for it. -/
theorem append {u : Text} (hu : continues u = false) (h : BrokenEscape t) : BrokenEscape (u ++ t) := by
  obtain ⟨before, after, rfl, hbefore, hafter⟩ := h
  exact ⟨u ++ before, after, (List.append_assoc ..).symm, (continues_append hu before).trans hbefore, hafter⟩

theorem cons_iff (h : c ≠ .scalar '\\') : BrokenEscape (c :: t) ↔ BrokenEscape t := by
  refine ⟨?_, append (u := [c]) (continues_cons_of_ne h [])⟩
  rintro ⟨before, after, heq, hbefore, hafter⟩
  cases before with
  | nil => exact absurd (List.cons.inj heq).1 h
  | cons d before =>
      obtain ⟨rfl, rfl⟩ := List.cons.inj heq
      exact ⟨before, after, rfl, (continues_cons_of_ne h before).symm.trans hbefore, hafter⟩

/-- A broken escape behind a pair of a backslash and what it protects. -/
theorem escape_iff :
    BrokenEscape (.scalar '\\' :: c :: t) ↔ (c = .scalar 'u' ∧ ¬BeginsWithUnit t) ∨ BrokenEscape t := by
  constructor
  · rintro ⟨before, after, heq, hbefore, hafter⟩
    match before with
    | [] =>
        simp only [List.nil_append, List.cons.injEq, true_and] at heq
        exact .inl ⟨heq.1, heq.2 ▸ hafter⟩
    | [d] =>
        -- the backslash would be protected
        obtain ⟨rfl, -⟩ := List.cons.inj heq
        exact absurd hbefore (by decide)
    | d :: e :: before =>
        simp only [List.cons_append, List.cons.injEq] at heq
        obtain ⟨rfl, rfl, rfl⟩ := heq
        exact .inr ⟨before, after, rfl, (continues_escape c before).symm.trans hbefore, hafter⟩
  · rintro (⟨rfl, h⟩ | h)
    · exact ⟨[], t, rfl, rfl, h⟩
    · exact append (u := [.scalar '\\', c]) (continues_escape c []) h

end BrokenEscape

/-! ## Flaws of keys and values -/

theorem ne_backslash_of_isHexDigit {c : CodePoint} (h : c.isHexDigit = true) : c ≠ .scalar '\\' := by
  rintro rfl
  exact absurd h (by decide)

/-- Four digits that are there keep no backslash. -/
theorem BrokenEscape.unit_iff {a b c d : CodePoint} {t : Text} (h : BeginsWithUnit (a :: b :: c :: d :: t)) :
    BrokenEscape (.scalar '\\' :: .scalar 'u' :: a :: b :: c :: d :: t) ↔ BrokenEscape t := by
  obtain ⟨ha, hb, hc, hd⟩ := beginsWithUnit_cons.mp h
  rw [escape_iff, cons_iff (ne_backslash_of_isHexDigit ha), cons_iff (ne_backslash_of_isHexDigit hb),
    cons_iff (ne_backslash_of_isHexDigit hc), cons_iff (ne_backslash_of_isHexDigit hd)]
  simp [h]

theorem unescape_eq_none_iff (t : Text) : unescape t = none ↔ BrokenEscape t := by
  fun_induction unescape t with
  | case1 => simp [BrokenEscape.not_nil]
  | case2 a b c d r unit t surrogates hr hunit ih =>
      have hdigits : BeginsWithUnit (a :: b :: c :: d :: r) := (isSome_unit? a b c d r).mp (by rw [hunit]; rfl)
      rw [BrokenEscape.unit_iff hdigits, ← ih, hr]
      simp
  | case3 a b c d r hnone ih =>
      simp only [true_iff]
      by_cases hdigits : BeginsWithUnit (a :: b :: c :: d :: r)
      · obtain ⟨unit, hunit⟩ := Option.isSome_iff_exists.mp ((isSome_unit? a b c d r).mpr hdigits)
        have hrest : unescape r = none :=
          Option.eq_none_iff_forall_ne_some.mpr fun x hx => hnone unit x.1 x.2 hunit hx
        exact (BrokenEscape.unit_iff hdigits).mpr (ih.mp hrest)
      · exact BrokenEscape.escape_iff.mpr (.inl ⟨rfl, hdigits⟩)
  | case4 r hfew =>
      have hdigits : ¬BeginsWithUnit r := by
        intro h
        obtain ⟨a, b, c, d, r', rfl⟩ := h.exists_digits
        exact hfew a b c d r' rfl
      exact iff_of_true rfl (BrokenEscape.escape_iff.mpr (.inl ⟨rfl, hdigits⟩))
  | case5 c r _ hc ih =>
      have hne : c ≠ .scalar 'u' := hc
      rw [Option.map_eq_none_iff, ih, BrokenEscape.escape_iff]
      simp [hne]
  | case6 => simp [BrokenEscape.not_backslash]
  | case7 c r _ _ hpair hlast ih =>
      have hne : c ≠ .scalar '\\' := by
        rintro rfl
        cases r with
        | nil => exact hlast rfl rfl
        | cons d r => exact hpair d r rfl rfl
      rw [Option.map_eq_none_iff, ih, BrokenEscape.cons_iff hne]

/-- A key or a value has no meaning if and only if an escape in it is broken. -/
theorem meaning?_eq_none_iff (t : Text) : meaning? t = none ↔ BrokenEscape t := by
  rw [meaning?, Option.map_eq_none_iff, unescape_eq_none_iff]

/-! ## Flaws of entries -/

theorem ends_of_isHexDigit {c : CodePoint} (h : c.isHexDigit = true) : (isSeparator c || isBlank c) = false := by
  cases hends : isSeparator c || isBlank c with
  | false => rfl
  | true =>
      have hall : c ∈ ([.scalar '=', .scalar ':', .scalar ' ', .scalar '\t', .scalar '\x0c'] : Text) := by
        simpa [isSeparator, isBlank, CodePoint.isOneOf, or_assoc] using hends
      have hnone : ∀ c ∈ ([.scalar '=', .scalar ':', .scalar ' ', .scalar '\t', .scalar '\x0c'] : Text),
          c.isHexDigit = false := by
        decide
      rw [hnone c hall] at h
      cases h

theorem splitKey_eq (t : Text) : (splitKey t).1 ++ (splitKey t).2 = t := by
  fun_induction splitKey t <;> simp_all

/-- No digit of a unit ends the key. -/
theorem beginsWithUnit_splitKey (t : Text) : BeginsWithUnit (splitKey t).1 ↔ BeginsWithUnit t := by
  constructor
  · intro h
    rw [← splitKey_eq t]
    exact h.append _
  · intro h
    obtain ⟨a, b, c, d, r, rfl⟩ := h.exists_digits
    obtain ⟨ha, hb, hc, hd⟩ := beginsWithUnit_cons.mp h
    rw [splitKey_bare (ne_backslash_of_isHexDigit ha) (ends_of_isHexDigit ha),
      splitKey_bare (ne_backslash_of_isHexDigit hb) (ends_of_isHexDigit hb),
      splitKey_bare (ne_backslash_of_isHexDigit hc) (ends_of_isHexDigit hc),
      splitKey_bare (ne_backslash_of_isHexDigit hd) (ends_of_isHexDigit hd)]
    exact beginsWithUnit_cons.mpr ⟨ha, hb, hc, hd⟩

/-- No escape is cut in two where the key ends, and none comes about. -/
theorem brokenEscape_splitKey (t : Text) :
    BrokenEscape t ↔ BrokenEscape (splitKey t).1 ∨ BrokenEscape (splitKey t).2 := by
  fun_induction splitKey t with
  | case1 => simp
  | case2 c r key rest hr ih =>
      have hdigits := beginsWithUnit_splitKey r
      rw [hr] at hdigits ih
      rw [BrokenEscape.escape_iff, BrokenEscape.escape_iff, ih, hdigits, or_assoc]
  | case3 c r _ _ => simp [BrokenEscape.not_nil]
  | case4 c r hpair hstays key rest hr ih =>
      rw [hr] at ih
      by_cases hc : c = .scalar '\\'
      · cases r with
        | nil =>
            cases hr
            simp [hc, BrokenEscape.not_nil]
        | cons d r => exact (hpair d r hc rfl).elim
      · rw [BrokenEscape.cons_iff hc, BrokenEscape.cons_iff hc, ih]

theorem brokenEscape_dropWhile_isBlank (t : Text) : BrokenEscape (t.dropWhile isBlank) ↔ BrokenEscape t := by
  induction t with
  | nil => exact Iff.rfl
  | cons c t ih =>
      cases hc : isBlank c with
      | false => rw [List.dropWhile_cons_of_neg (by simp [hc])]
      | true => rw [List.dropWhile_cons_of_pos hc, ih, BrokenEscape.cons_iff (ne_backslash_of_isBlank hc)]

theorem ne_backslash_of_isSeparator {c : CodePoint} (h : isSeparator c = true) : c ≠ .scalar '\\' := by
  rintro rfl
  exact absurd h (by decide)

theorem brokenEscape_afterSeparator (t : Text) : BrokenEscape (afterSeparator t) ↔ BrokenEscape t := by
  rw [← brokenEscape_dropWhile_isBlank t, afterSeparator]
  cases t.dropWhile isBlank with
  | nil => exact Iff.rfl
  | cons c r =>
      cases hc : isSeparator c with
      | false => simp [hc]
      | true =>
          simp only [hc, if_true]
          rw [brokenEscape_dropWhile_isBlank, BrokenEscape.cons_iff (ne_backslash_of_isSeparator hc)]

theorem Fault.message_injective : Function.Injective Fault.message := by
  intro f g h
  have hne : message unterminated ≠ message malformedEscape := by decide
  cases f <;> cases g
  · rfl
  · exact absurd h hne
  · exact absurd h.symm hne
  · rfl

namespace LogicalLine

variable {l : LogicalLine}

/-- The line breaks off, or an escape in it is broken. -/
def IsFlawed (l : LogicalLine) : Prop := l.complete = false ∨ BrokenEscape l.text

/-- What is said of a line that is flawed. -/
def complaint (l : LogicalLine) : Text :=
  if l.complete then "Malformed \\uxxxx encoding" else "Unterminated line continuation"

theorem error?_of_incomplete (h : l.complete = false) : l.error? = some ⟨.unterminated, l.start⟩ := by
  simp [error?, entry, h]

theorem error?_of_complete (h : l.complete = true) :
    (BrokenEscape l.text → l.error? = some ⟨.malformedEscape, l.start⟩) ∧ (¬BrokenEscape l.text → l.error? = none) := by
  rw [brokenEscape_splitKey, ← brokenEscape_afterSeparator (splitKey l.text).2, ← meaning?_eq_none_iff,
    ← meaning?_eq_none_iff]
  simp only [error?, entry, h, if_true]
  cases meaning? (splitKey l.text).1 <;> cases meaning? (afterSeparator (splitKey l.text).2) <;> simp

theorem error?_eq_none_iff : l.error? = none ↔ ¬l.IsFlawed := by
  cases hcomplete : l.complete with
  | false => simp [error?_of_incomplete hcomplete, IsFlawed, hcomplete]
  | true =>
      obtain ⟨hbroken, hsound⟩ := error?_of_complete hcomplete
      by_cases h : BrokenEscape l.text
      · simp [hbroken h, IsFlawed, h]
      · simp [hsound h, IsFlawed, h, hcomplete]

theorem exists_error?_of_isFlawed (h : l.IsFlawed) :
    ∃ f : Fault, l.error? = some ⟨f, l.start⟩ ∧ f.message = l.complaint := by
  cases hcomplete : l.complete with
  | false => exact ⟨.unterminated, error?_of_incomplete hcomplete, by rw [complaint, hcomplete]; rfl⟩
  | true =>
      have hbroken : BrokenEscape l.text := h.resolve_left (by simp [hcomplete])
      exact ⟨.malformedEscape, (error?_of_complete hcomplete).1 hbroken, by rw [complaint, hcomplete]; rfl⟩

/-- A line is blamed for its flaw, by the number of its first natural line. -/
theorem error?_eq_some_iff {e : Error} :
    l.error? = some e ↔ l.IsFlawed ∧ e.fault.message = l.complaint ∧ e.line = l.start := by
  constructor
  · intro h
    have hflawed : l.IsFlawed := by
      by_contra hnot
      rw [error?_eq_none_iff.mpr hnot] at h
      cases h
    obtain ⟨f, hf, hmessage⟩ := exists_error?_of_isFlawed hflawed
    rw [hf, Option.some_inj] at h
    cases h
    exact ⟨hflawed, hmessage, rfl⟩
  · rintro ⟨hflawed, hmessage, hline⟩
    obtain ⟨f, hf, hmessage'⟩ := exists_error?_of_isFlawed hflawed
    have hfault : e.fault = f := Fault.message_injective (hmessage.trans hmessage'.symm)
    rw [hf, ← hfault, ← hline]

end LogicalLine

/-! ## Property texts -/

theorem malformed_iff_exists_isFlawed {t : Text} : Malformed t ↔ ∃ l ∈ logicalLines t, l.IsFlawed := by
  simp only [Malformed, Option.isSome_iff_ne_none, ne_eq, LogicalLine.error?_eq_none_iff, not_not]

theorem exists_parse_eq_ok_iff {t : Text} : (∃ m, parse t = .ok m) ↔ ∀ l ∈ logicalLines t, ¬l.IsFlawed := by
  have hmalformed : (∃ e, parse t = .error e) ↔ ∃ l ∈ logicalLines t, l.IsFlawed :=
    malformed_iff.symm.trans malformed_iff_exists_isFlawed
  cases hparse : parse t with
  | error e =>
      obtain ⟨l, hl, hflawed⟩ := hmalformed.mp ⟨e, hparse⟩
      exact iff_of_false (by simp) fun h => h l hl hflawed
  | ok m =>
      refine iff_of_true ⟨m, rfl⟩ fun l hl hflawed => ?_
      obtain ⟨e, he⟩ := hmalformed.mpr ⟨l, hl, hflawed⟩
      rw [hparse] at he
      cases he

/-- A property text is refused if and only if one of its logical lines breaks off or has an escape without the digits
of a unit. It is refused for the first such line, with the number of the natural line where that one begins, and read
otherwise. -/
theorem parse_blames_first (t : Text) :
    (∀ ls, (∃ lines, Lines t lines ∧ Joins 1 lines ls) ↔ ls = logicalLines t) ∧
    (∀ e, parse t = .error e ↔
      ∃ before l after, logicalLines t = before ++ l :: after ∧ (∀ k ∈ before, ¬k.IsFlawed) ∧ l.IsFlawed ∧
        e.fault.message = l.complaint ∧ e.line = l.start) ∧
    ((∃ m, parse t = .ok m) ↔ ∀ l ∈ logicalLines t, ¬l.IsFlawed) := by
  refine ⟨fun ls => by simp only [lines_iff, exists_eq_left, joins_iff, logicalLines], fun e => ?_,
    exists_parse_eq_ok_iff⟩
  rw [parse_eq_error_iff, List.findSome?_eq_some_iff]
  simp only [LogicalLine.error?_eq_some_iff, LogicalLine.error?_eq_none_iff]
  constructor
  · rintro ⟨before, l, after, heq, hl, hbefore⟩
    exact ⟨before, l, after, heq, hbefore, hl⟩
  · rintro ⟨before, l, after, heq, hbefore, hl⟩
    exact ⟨before, l, after, heq, hl, hbefore⟩

-- a comment is never to blame, and a line that breaks off is blamed for that before its escapes
example : parse "# \\u12\r\n\nkey=\\u12\\" = .error ⟨.unterminated, 3⟩ := rfl

end Properties

end Invocation
