import Invocation.Text.Basic

/-!
# Templates

A template is text with references. From the left, a dollar sign begins a doubled dollar, a reference in braces with
something in them, or a reference by the longest name that follows; otherwise it is an ordinary character.
-/

namespace Invocation

namespace Macro

inductive Piece where
  | literal (c : CodePoint)
  | dollar
  | named (name : Text)
  | braced (body : Text)
deriving DecidableEq

def isNameCharacter (c : CodePoint) : Bool := c.isAsciiAlphanumeric || c = '_'

/-- The text of the template that the piece is. -/
def Piece.source : Piece → Text
  | literal c => [c]
  | dollar => "$$"
  | named name => .scalar '$' :: name
  | braced body => .scalar '$' :: .scalar '\x7b' :: body ++ [.scalar '\x7d']

/-- The reference in braces that follows an opening brace, and the rest behind it. -/
def bracedBody? (t : Text) : Option (Text × Text) :=
  match t.cutAt '\x7d' with
  | some (c :: body, rest) => some (c :: body, rest)
  | _ => none

theorem length_of_cutAt {c : CodePoint} {t a b : Text} (h : t.cutAt c = some (a, b)) : b.length < t.length := by
  induction t generalizing a with
  | nil => simp [Text.cutAt] at h
  | cons d r ih =>
    simp only [Text.cutAt] at h
    split at h
    · simp only [Option.some.injEq, Prod.mk.injEq] at h
      simp [← h.2]
    · simp only [Option.map_eq_some_iff, Prod.mk.injEq, Prod.exists] at h
      obtain ⟨a', b', h', -, hb⟩ := h
      have := ih (hb ▸ h')
      simp only [List.length_cons]
      omega

theorem length_of_bracedBody? {t body rest : Text} (h : bracedBody? t = some (body, rest)) :
    rest.length < t.length := by
  simp only [bracedBody?] at h
  split at h
  · rename_i h'
    simp only [Option.some.injEq, Prod.mk.injEq] at h
    exact h.2 ▸ length_of_cutAt h'
  · simp at h

/-- The piece that a dollar sign begins, given what follows the sign, and the rest behind the piece. -/
def reference (t : Text) : Piece × Text :=
  match t with
  | .scalar '$' :: r => (.dollar, r)
  | .scalar '\x7b' :: r =>
    match bracedBody? r with
    | some (body, rest) => (.braced body, rest)
    | none => (.literal (.scalar '$'), t)
  | _ =>
    match t.takeWhile isNameCharacter with
    | [] => (.literal (.scalar '$'), t)
    | name => (.named name, t.dropWhile isNameCharacter)

theorem length_reference (t : Text) : (reference t).2.length ≤ t.length := by
  unfold reference
  split
  · simp
  · split
    · rename_i h
      have := length_of_bracedBody? h
      simp only [List.length_cons]
      omega
    · simp
  · split
    · simp
    · exact (List.dropWhile_suffix isNameCharacter).length_le

/-- The template cut into its pieces. -/
def pieces : Text → List Piece
  | [] => []
  | c :: r =>
    if c = '$' then
      have := length_reference r
      (reference r).1 :: pieces (reference r).2
    else .literal c :: pieces r
termination_by t => t.length

end Macro

end Invocation
