import Invocation.Text.Surrogates

/-!
# Lemmas on surrogate pairs

A character above the basic plane has two UTF-16 units. Joining makes the character of them again and leaves alone
what is no pair.
-/

namespace Invocation

namespace CodePoint

/-- The first UTF-16 unit of a character above the basic plane. -/
def highUnit (c : Char) : Nat := 0xD800 + (c.toNat - 0x10000) / 0x400

/-- The second UTF-16 unit of a character above the basic plane. -/
def lowUnit (c : Char) : Nat := 0xDC00 + (c.toNat - 0x10000) % 0x400

theorem not_surrogate_toNat (c : Char) : ¬(0xD800 ≤ c.toNat ∧ c.toNat < 0xE000) := by
  have hvalid : c.toNat < 0xD800 ∨ 0xDFFF < c.toNat ∧ c.toNat < 0x110000 := c.valid
  omega

theorem toNat_lt (c : Char) : c.toNat < 0x110000 := by
  have hvalid : c.toNat < 0xD800 ∨ 0xDFFF < c.toNat ∧ c.toNat < 0x110000 := c.valid
  omega

theorem ofNat?_toNat (c : Char) : ofNat? c.toNat = some (.scalar c) := by
  rw [ofNat?, dif_neg (not_surrogate_toNat c), if_pos (toNat_lt c), Char.ofNat_toNat]

theorem ofNat?_of_surrogate {n : Nat} (hlow : 0xD800 ≤ n) (hhigh : n < 0xE000) :
    ∃ a, ofNat? n = some a ∧ a.toNat = n ∧ a.isSurrogate = true := by
  rw [ofNat?, dif_pos ⟨hlow, hhigh⟩]
  exact ⟨_, rfl, Nat.add_sub_of_le hlow, rfl⟩

theorem isHighSurrogate_scalar (c : Char) : (scalar c).isHighSurrogate = false := by
  have hnot := not_surrogate_toNat c
  refine Bool.eq_false_iff.mpr fun hsurrogate => hnot ?_
  obtain ⟨hlow, hhigh⟩ := Bool.and_eq_true_iff.mp hsurrogate
  exact ⟨of_decide_eq_true hlow, Nat.lt_trans (of_decide_eq_true hhigh) (by decide)⟩

end CodePoint

namespace Text

theorem joinSurrogates_cons {a : CodePoint} (h : a.isHighSurrogate = false) (t : Text) :
    joinSurrogates (a :: t) = a :: joinSurrogates t := by
  cases t with
  | nil => rfl
  | cons b t => simp [joinSurrogates, h]

theorem joinSurrogates_of_not_hasSurrogate {t : Text} (h : t.hasSurrogate = false) : t.joinSurrogates = t := by
  induction t with
  | nil => rfl
  | cons a t ih =>
      obtain ⟨ha, ht⟩ := Bool.or_eq_false_iff.mp h
      cases a with
      | scalar c => rw [joinSurrogates_cons (CodePoint.isHighSurrogate_scalar c), ih ht]
      | surrogate i => cases ha

/-- The units of a character are joined to it. -/
theorem joinSurrogates_pair {c : Char} (h : 0x10000 ≤ c.toNat) {a b : CodePoint}
    (ha : a.toNat = CodePoint.highUnit c) (hb : b.toNat = CodePoint.lowUnit c) (t : Text) :
    joinSurrogates (a :: b :: t) = .scalar c :: joinSurrogates t := by
  have hlt := CodePoint.toNat_lt c
  simp only [CodePoint.highUnit] at ha
  simp only [CodePoint.lowUnit] at hb
  have hhigh : a.isHighSurrogate = true := by
    simp only [CodePoint.isHighSurrogate, Bool.and_eq_true, decide_eq_true_eq]
    omega
  have hlow : b.isLowSurrogate = true := by
    simp only [CodePoint.isLowSurrogate, Bool.and_eq_true, decide_eq_true_eq]
    omega
  have hsum : 0x10000 + (a.toNat - 0xD800) * 0x400 + (b.toNat - 0xDC00) = c.toNat := by omega
  rw [joinSurrogates, hhigh, hlow, CodePoint.ofSurrogatePair, hsum, Char.ofNat_toNat]
  rfl

end Text

/-- Each of the units of a character is a surrogate, and both are joined to the character. -/
theorem CodePoint.exists_surrogates {c : Char} (h : 0x10000 ≤ c.toNat) :
    ∃ a b : CodePoint, ofNat? (highUnit c) = some a ∧ ofNat? (lowUnit c) = some b ∧
      a.isSurrogate = true ∧ b.isSurrogate = true ∧
      ∀ t : Text, Text.joinSurrogates (a :: b :: t) = .scalar c :: t.joinSurrogates := by
  have hlt := toNat_lt c
  obtain ⟨a, ha, hanat, hasurrogate⟩ :=
    ofNat?_of_surrogate (n := highUnit c) (by simp only [highUnit]; omega) (by simp only [highUnit]; omega)
  obtain ⟨b, hb, hbnat, hbsurrogate⟩ :=
    ofNat?_of_surrogate (n := lowUnit c) (by simp only [lowUnit]; omega) (by simp only [lowUnit]; omega)
  exact ⟨a, b, ha, hb, hasurrogate, hbsurrogate, Text.joinSurrogates_pair h hanat hbnat⟩

end Invocation
