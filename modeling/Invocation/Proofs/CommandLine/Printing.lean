import Invocation.CommandLine.Printing
import Invocation.Proofs.Terminal.Console

/-!
# Outcomes of printing

Whether an action comes to its end does not depend on what has been printed before it. So the values that an action
may end with are described by a condition, and the condition of an action follows from those of its parts.
-/

namespace Invocation

namespace CommandLine

open Console

/-- The status is zero exactly if `P` holds, and otherwise it is one. -/
def Exit.SucceedsIff (e : Exit) (P : Prop) : Prop := (e.status = 0 ↔ P) ∧ (e.status = 1 ↔ ¬P)

namespace Printing

variable {α β : Type}

/-- Whatever has been printed before, the action ends with a value for which `P` holds, and if there is none, it is
stopped. -/
def Yields (p : Printing α) (P : α → Prop) : Prop :=
  ∃ r : Except Stop α, (∀ output, (p.run.run output).1 = r) ∧ ∀ a, r = .ok a ↔ P a

/-! ## Rules -/

theorem Yields.congr {p : Printing α} {P Q : α → Prop} (h : p.Yields P) (hiff : ∀ a, P a ↔ Q a) : p.Yields Q := by
  obtain ⟨r, hr, hP⟩ := h
  exact ⟨r, hr, fun a => (hP a).trans (hiff a)⟩

theorem yields_pure (a : α) : Yields (pure a) (· = a) := ⟨.ok a, fun _ => rfl, fun b => by simp [eq_comm]⟩

theorem yields_throw (s : Stop) : Yields (throw s : Printing α) fun _ => False :=
  ⟨.error s, fun _ => rfl, fun _ => by simp⟩

theorem run_bind (p : Printing α) (f : α → Printing β) (output : Text) :
    (p >>= f).run.run output =
      match p.run.run output with
      | (.ok a, output') => (f a).run.run output'
      | (.error s, output') => (.error s, output') := by
  simp only [ExceptT.run_bind, StateT.run_bind]
  rcases p.run.run output with ⟨a | s, output'⟩ <;> rfl

theorem Yields.bind {p : Printing α} {f : α → Printing β} {P : α → Prop} {Q : α → β → Prop} (hp : p.Yields P)
    (hf : ∀ a, (f a).Yields (Q a)) : (p >>= f).Yields fun b => ∃ a, P a ∧ Q a b := by
  obtain ⟨r, hr, hP⟩ := hp
  cases r with
  | error s =>
      refine ⟨.error s, fun output => ?_, fun b => ?_⟩
      · have hrun : p.run.run output = (.error s, (p.run.run output).2) := Prod.ext (hr output) rfl
        rw [run_bind, hrun]
      · simp [← hP]
  | ok a =>
      obtain ⟨r', hr', hQ⟩ := hf a
      refine ⟨r', fun output => ?_, fun b => ?_⟩
      · have hrun : p.run.run output = (.ok a, (p.run.run output).2) := Prod.ext (hr output) rfl
        rw [run_bind, hrun]
        exact hr' _
      · simp [← hP, ← hQ]

/-- One action after the other, the first of which gives nothing. -/
theorem Yields.andThen {p : Printing Unit} {q : Printing β} {P : Unit → Prop} {Q : β → Prop} (hp : p.Yields P)
    (hq : q.Yields Q) : Yields (do p; q) fun b => P () ∧ Q b :=
  (hp.bind fun _ => hq).congr fun _ => ⟨fun ⟨(), h⟩ => h, fun h => ⟨(), h⟩⟩

theorem Yields.ite {c : Prop} [Decidable c] {p q : Printing α} {P Q : α → Prop} (hp : p.Yields P) (hq : q.Yields Q) :
    Yields (if c then p else q) fun a => if c then P a else Q a := by
  by_cases hc : c
  · simpa [hc] using hp
  · simpa [hc] using hq

theorem Yields.either {p q : Printing α} {P : α → Prop} (hp : p.Yields P) (hq : q.Yields P) (c : Bool) :
    Yields (if c then p else q) P :=
  (hp.ite hq).congr fun _ => by rw [ite_self]

/-- Printing that is done on demand, before the rest. -/
theorem Yields.when {p q : Printing α} {P : Prop} {Q : α → Prop} (hp : p.Yields fun a => P ∧ Q a)
    (hq : q.Yields Q) (c : Bool) : Yields (if c then p else q) fun a => (c = true → P) ∧ Q a := by
  cases c with
  | false => exact hq.congr fun a => by simp
  | true => exact hp.congr fun a => by simp

theorem Yields.onDemand {p : Printing Unit} {P : Prop} (hp : p.Yields fun _ => P) (c : Bool) :
    Yields (if c then p else pure ()) fun _ => c = true → P := by
  cases c with
  | false => exact (yields_pure ()).congr fun _ => by simp
  | true => exact hp.congr fun _ => by simp

theorem Yields.forM {f : α → Printing Unit} {P : α → Prop} (hf : ∀ x, (f x).Yields fun _ => P x) (xs : List α) :
    Yields (xs.forM f) fun _ => ∀ x ∈ xs, P x := by
  induction xs with
  | nil => exact (yields_pure ()).congr fun _ => by simp
  | cons x xs ih => exact ((hf x).andThen ih).congr fun _ => List.forall_mem_cons.symm

/-! ## Texts -/

theorem run_emit (made : Except Console.Fault Text) (output : Text) :
    (emit made).run.run output =
      match made with
      | .ok t => (.ok (), output ++ t)
      | .error f => (.error (.ofConsole f), output) := by
  cases made <;> rfl

theorem yields_emit (made : Except Console.Fault Text) : Yields (emit made) fun _ => Prints made := by
  cases made with
  | ok t => exact ⟨.ok (), fun output => congrArg Prod.fst (run_emit _ output), fun _ => iff_of_true rfl ⟨t, rfl⟩⟩
  | error f => exact (yields_throw _).congr fun _ => iff_of_false id fun ⟨_, h⟩ => nomatch h

/-- Something that is always printed, before the rest. -/
theorem Yields.afterPrinted {made : Except Console.Fault Text} (h : Prints made) {q : Printing α} {Q : α → Prop}
    (hq : q.Yields Q) : Yields (do emit made; q) Q :=
  ((yields_emit made).andThen hq).congr fun _ => and_iff_right h

variable (c : Console)

theorem yields_printList (heading : Text) (lines : List Text) :
    Yields (printList c heading lines) fun _ =>
      Prints (c.markup heading) ∧ ∀ line ∈ lines, Prints (c.markup ("  [red]• " ++ c.escape line ++ "[/red]")) :=
  (yields_emit _).andThen (.forM (fun _ => yields_emit _) lines)

theorem yields_printWarnings (ws : List Macro.Warning) :
    Yields (printWarnings c ws) fun _ => ∀ w ∈ ws, Prints (c.markup (warningLine w)) :=
  .forM (fun w => yields_emit (c.markup (warningLine w))) ws

/-! ## Ends -/

theorem Yields.finish {p : Printing Unit} {P : Prop} (h : p.Yields fun _ => P) (heading : Text) :
    (finish c heading p).SucceedsIff P := by
  obtain ⟨r, hr, hP⟩ := h
  have hrun : p.run.run [] = (r, (p.run.run []).2) := Prod.ext (hr []) rfl
  rw [Printing.finish, hrun]
  cases r with
  | ok a =>
      have hholds : P := (hP a).mp rfl
      exact ⟨iff_of_true rfl hholds, iff_of_false Nat.zero_ne_one (not_not_intro hholds)⟩
  | error s =>
      have hfails : ¬P := fun hholds => nomatch (hP ()).mpr hholds
      cases s <;> exact ⟨iff_of_false Nat.one_ne_zero hfails, iff_of_true rfl hfails⟩

end Printing

end CommandLine

end Invocation
