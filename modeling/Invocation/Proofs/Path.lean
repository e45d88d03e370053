import Mathlib.Data.List.Nodup
import Invocation.Path

/-!
# The way up

From a directory a walk leads up to the root, one name at a time. It passes each directory that the first one lies in,
and each only once.
-/

namespace Invocation

namespace Path

/-- The directory that holds this one. -/
def parent (p : Path) : Path := { p with names := p.names.dropLast }

/-- The directories that a walk passes which goes up from a directory until it is at the root. -/
inductive Climbs : Path → List Path → Prop where
  | root {p : Path} (h : p.names = []) : Climbs p [p]
  | up {p : Path} {ds : List Path} (h : p.names ≠ []) (hds : Climbs p.parent ds) : Climbs p (p :: ds)

/-- The directory `d` is `a`, or lies somewhere below it. -/
def Encloses (a d : Path) : Prop := a.root = d.root ∧ a.names <+: d.names

variable {p : Path}

/-! ## Walks -/

theorem ancestors_of_names_nil (h : p.names = []) : p.ancestors = [p] := by
  obtain ⟨root, names⟩ := p
  obtain rfl : names = [] := h
  rfl

theorem ancestors_of_names_ne_nil (h : p.names ≠ []) : p.ancestors = p :: p.parent.ancestors := by
  have hlength : p.parent.names.length + 1 = p.names.length := by
    have := List.length_pos_of_ne_nil h
    rw [parent, List.length_dropLast]
    omega
  have hhigher (n : Nat) :
      p.names.take (p.names.length - (n + 1)) = p.parent.names.take (p.parent.names.length - n) := by
    rw [parent, List.dropLast_eq_take, List.take_take, List.length_take]
    congr 1
    omega
  rw [ancestors, List.range_succ_eq_map, List.map_cons, List.map_map, Nat.sub_zero, List.take_length, ancestors,
    hlength]
  exact congrArg (p :: ·) (List.map_congr_left fun n _ => congrArg (Path.mk p.root) (hhigher n))

/-- A walk comes to an end, in one way only. -/
theorem climbs_iff {ds : List Path} : p.Climbs ds ↔ ds = p.ancestors := by
  constructor
  · intro h
    induction h with
    | root h => rw [ancestors_of_names_nil h]
    | up h _ ih => rw [ancestors_of_names_ne_nil h, ih]
  · rintro rfl
    induction hn : p.names.length generalizing p with
    | zero =>
        have hnames : p.names = [] := List.length_eq_zero_iff.mp hn
        rw [ancestors_of_names_nil hnames]
        exact .root hnames
    | succ n ih =>
        have hnames : p.names ≠ [] := List.ne_nil_of_length_eq_add_one hn
        rw [ancestors_of_names_ne_nil hnames]
        exact .up hnames (ih (by rw [parent, List.length_dropLast, hn, Nat.add_sub_cancel]))

theorem mem_ancestors {a : Path} : a ∈ p.ancestors ↔ a.Encloses p := by
  rw [ancestors, List.mem_map]
  constructor
  · rintro ⟨n, -, rfl⟩
    exact ⟨rfl, List.take_prefix _ _⟩
  · rintro ⟨hroot, hnames⟩
    have hlength := hnames.length_le
    refine ⟨p.names.length - a.names.length, List.mem_range.mpr (by omega), ?_⟩
    obtain ⟨root, names⟩ := a
    obtain rfl : root = p.root := hroot
    have htake : p.names.take (p.names.length - (p.names.length - names.length)) = names := by
      rw [Nat.sub_sub_self hlength]
      exact (List.prefix_iff_eq_take.mp hnames).symm
    rw [htake]

theorem nodup_ancestors (p : Path) : p.ancestors.Nodup := by
  refine List.Nodup.map_on (fun n hn m hm heq => ?_) List.nodup_range
  have hlengths := congrArg (fun d => d.names.length) heq
  simp only [List.length_take, List.mem_range] at hlengths hn hm
  omega

end Path

end Invocation
