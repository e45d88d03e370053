import Invocation.Proofs.OrderedMap
import Invocation.Proofs.Properties.Written

/-!
# Escaped entries

A writer that escapes whatever could be taken for something else, and writes one entry on a line. Any text can be
written so, surrogates that stand alone among them, and is read as it was.
-/

namespace Invocation

namespace Properties

/-! ## Texts -/

/-- The characters that are not written by themselves, and what is written behind a backslash for each of them. -/
def escapes : List (Char × Char) := escapeLetters ++ ['\\', ' ', '=', ':', '#', '!'].map fun c => (c, c)

def escapeOne (c : CodePoint) : Text :=
  match escapes.find? fun p => c = .scalar p.1 with
  | some p => [.scalar '\\', .scalar p.2]
  | none => [c]

def escape (t : Text) : Text := t.flatMap escapeOne

theorem escape_cons (c : CodePoint) (t : Text) : escape (c :: t) = escapeOne c ++ escape t := List.flatMap_cons

theorem escapeOne_cases (c : CodePoint) :
    (∃ p ∈ escapes, c = .scalar p.1 ∧ escapeOne c = [.scalar '\\', .scalar p.2]) ∨
      (∀ p ∈ escapes, c ≠ .scalar p.1) ∧ escapeOne c = [c] := by
  unfold escapeOne
  cases h : escapes.find? fun p => c = .scalar p.1 with
  | some p => exact .inl ⟨p, List.mem_of_find?_eq_some h, by simpa using List.find?_some h, rfl⟩
  | none => exact .inr ⟨by simpa using h, rfl⟩

/-- What stands behind the backslash is no digit escape and no line break, and means the character. -/
theorem escapes_means {p : Char × Char} (h : p ∈ escapes) :
    escaped (.scalar p.2) = .scalar p.1 ∧ CodePoint.scalar p.2 ≠ .scalar 'u' ∧ CodePoint.scalar p.2 ≠ .scalar '\r' ∧
      CodePoint.scalar p.2 ≠ .scalar '\n' := by
  have hall : ∀ p ∈ escapes, escaped (.scalar p.2) = .scalar p.1 ∧ CodePoint.scalar p.2 ≠ .scalar 'u' ∧
      CodePoint.scalar p.2 ≠ .scalar '\r' ∧ CodePoint.scalar p.2 ≠ .scalar '\n' := by decide
  exact hall p h

theorem staysInKey_of_ne {c : CodePoint} (h : ∀ p ∈ escapes, c ≠ .scalar p.1) : StaysInKey c := by
  simp only [escapes, escapeLetters, List.map_cons, List.map_nil, List.cons_append, List.nil_append,
    List.forall_mem_cons] at h
  simp [StaysInKey, StaysInValue, isSeparator, isBlank, CodePoint.isOneOf, h]

theorem guarded_escape (t : Text) : Guarded StaysInKey (escape t) := by
  induction t with
  | nil => exact .nil
  | cons c t ih =>
      rw [escape_cons]
      rcases escapeOne_cases c with ⟨p, hp, -, hescape⟩ | ⟨hne, hescape⟩
      · obtain ⟨-, -, hr, hn⟩ := escapes_means hp
        rw [hescape]
        exact .escape hr hn ih
      · rw [hescape]
        exact .bare (staysInKey_of_ne hne) ih

theorem unescape_escape_eq (t : Text) : unescape (escape t) = some (t, false) := by
  induction t with
  | nil => rfl
  | cons c t ih =>
      rw [escape_cons]
      rcases escapeOne_cases c with ⟨p, hp, rfl, hescape⟩ | ⟨hne, hescape⟩
      · obtain ⟨hmeans, hu, -, -⟩ := escapes_means hp
        rw [hescape, List.cons_append, List.cons_append, unescape_escape hu, List.nil_append, ih, hmeans]
        rfl
      · rw [hescape, List.cons_append, unescape_bare (staysInKey_of_ne hne).1.1, List.nil_append, ih]
        rfl

/-- An escaped text means the text. No escape names a surrogate, so those that stand side by side stay apart. -/
theorem meaning?_escape (t : Text) : meaning? (escape t) = some t := by
  rw [meaning?, unescape_escape_eq]
  rfl

/-- An escaped text can stand at the beginning of a line. -/
theorem head?_escape (t : Text) : ∀ c ∈ (escape t).head?, ¬isBlank c ∧ c ≠ .scalar '#' ∧ c ≠ .scalar '!' := by
  cases t with
  | nil => simp [escape]
  | cons c t =>
      rw [escape_cons]
      rcases escapeOne_cases c with ⟨p, -, -, hescape⟩ | ⟨hne, hescape⟩
      · rw [hescape]
        rintro d ⟨⟩
        decide
      · rw [hescape]
        rintro d ⟨⟩
        exact ⟨Bool.eq_false_iff.mp (Bool.or_eq_false_iff.mp (staysInKey_of_ne hne).2).2, hne ('#', '#') (by decide),
          hne ('!', '!') (by decide)⟩

/-! ## Lines -/

/-- The line on which an entry is written. -/
def entryLine (entry : Text × Text) : Text := escape entry.1 ++ .scalar '=' :: escape entry.2

variable (entry : Text × Text)

theorem guarded_entryLine : Guarded StaysInValue (entryLine entry) := by
  have hequals : StaysInValue (.scalar '=') := by simp [StaysInValue]
  exact ((guarded_escape entry.1).mono fun _ => And.left).append
    (.bare hequals ((guarded_escape entry.2).mono fun _ => And.left))

theorem entryLine_ne_nil : entryLine entry ≠ [] := by simp [entryLine]

theorem head?_entryLine : ∀ c ∈ (entryLine entry).head?, ¬isBlank c ∧ c ≠ .scalar '#' ∧ c ≠ .scalar '!' := by
  have hhead := head?_escape entry.1
  rw [entryLine]
  cases hkey : escape entry.1 with
  | nil =>
      rintro c ⟨⟩
      decide
  | cons c k => simpa [hkey] using hhead

theorem withoutIndent_entryLine : withoutIndent (entryLine entry) = entryLine entry :=
  dropWhile_isBlank_of_head? fun c hc => (head?_entryLine entry c hc).1

theorem isSkipped_entryLine : isSkipped (entryLine entry) = false := by
  have hhead := head?_entryLine entry
  cases hline : entryLine entry with
  | nil => exact absurd hline (entryLine_ne_nil entry)
  | cons c l => simp [isSkipped, CodePoint.isOneOf, hhead c (by simp [hline])]

theorem entry_entryLine (start : Nat) : (LogicalLine.mk start (entryLine entry) true).entry = .ok entry := by
  have hsplit : splitKey (entryLine entry) = (escape entry.1, .scalar '=' :: escape entry.2) := by
    rw [entryLine, (guarded_escape entry.1).splitKey_append, splitKey_of_ends rfl, List.append_nil]
  have hvalue : afterSeparator (.scalar '=' :: escape entry.2) = escape entry.2 :=
    dropWhile_isBlank_of_head? fun c hc => (head?_escape entry.2 c hc).1
  simp only [LogicalLine.entry, hsplit, hvalue, meaning?_escape, if_true]

theorem holdsEntry_entryLine : HoldsEntry (entryLine entry) entry := by
  constructor <;> rw [withoutIndent_entryLine]
  · exact isSkipped_entryLine entry
  · exact (guarded_entryLine entry).continues_append (u := []) rfl
  · exact entry_entryLine entry

/-! ## Files -/

/-- The entries one on a line, with a line break between each two and `ending` behind the last. -/
def write (lineBreak ending : Text) (entries : List (Text × Text)) : Text :=
  Text.joinWith lineBreak (entries.map entryLine) ++ ending

variable {lineBreak ending : Text} (hbreak : lineBreak ∈ lineBreaks) (hending : ending = [] ∨ ending = lineBreak)
include hbreak hending

theorem naturalLines_write_cons (entries : List (Text × Text)) :
    naturalLines (write lineBreak ending (entry :: entries)) = (entry :: entries).map entryLine := by
  have hline (entry : Text × Text) := (guarded_entryLine entry).ne_lineBreak
  induction entries generalizing entry with
  | nil =>
      have hone : write lineBreak ending [entry] = entryLine entry ++ ending := by
        rw [write, List.map_singleton, Text.joinWith_cons, List.flatMap_nil, List.append_nil]
      rw [hone]
      rcases hending with rfl | rfl
      · rw [List.append_nil, naturalLines_of_unbroken (hline entry) (entryLine_ne_nil entry), List.map_singleton]
      · have hbreaks : Breaks ending [] := ⟨hbreak, fun _ => by simp⟩
        have hread := naturalLines_append (hline entry) hbreaks
        rwa [List.append_nil] at hread
  | cons next entries ih =>
      have hmore : write lineBreak ending (entry :: next :: entries) =
          entryLine entry ++ lineBreak ++ write lineBreak ending (next :: entries) := by
        simp [write, Text.joinWith_cons]
      -- a carriage return takes no line feed along, since no line begins with one
      have hhead : (write lineBreak ending (next :: entries)).head? ≠ some (.scalar '\n') := by
        intro hhead
        rw [write, List.map_cons, Text.joinWith_cons, List.append_assoc,
          List.head?_append_of_ne_nil _ (entryLine_ne_nil next)] at hhead
        exact (hline next _ (List.mem_of_head? hhead)).2 rfl
      rw [hmore, naturalLines_append (hline entry) ⟨hbreak, fun _ => hhead⟩, ih next,
        List.map_cons (l := next :: entries)]

theorem entries_write (entries : List (Text × Text)) :
    Properties.entries (write lineBreak ending entries) = .ok entries := by
  cases entries with
  | nil =>
      rcases hending with rfl | rfl
      · rfl
      · simp only [lineBreaks, List.mem_cons, List.not_mem_nil, or_false] at hbreak
        rcases hbreak with rfl | rfl | rfl <;> rfl
  | cons entry entries =>
      rw [Properties.entries, logicalLines, naturalLines_write_cons entry hbreak hending entries]
      refine mapM_entry_of_holdsEntry ?_ 1
      rw [List.forall₂_map_left_iff, List.forall₂_same]
      exact fun entry _ => holdsEntry_entryLine entry

/-- Entries with different keys are read as they were written. -/
theorem parse_write {entries : List (Text × Text)} (hkeys : (entries.map Prod.fst).Nodup) :
    (parse (write lineBreak ending entries)).map OrderedMap.toList = .ok entries := by
  rw [parse, entries_write hbreak hending]
  exact congrArg Except.ok (OrderedMap.toList_ofList hkeys)

end Properties

end Invocation
