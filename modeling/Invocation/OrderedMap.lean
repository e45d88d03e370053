/-!
# Ordered maps

A finite map that keeps the order in which its keys came in. A key that is set again stays where it is and takes the
new value.
-/

namespace Invocation

structure OrderedMap (κ α : Type) where
  toList : List (κ × α)
  nodup_keys : (toList.map Prod.fst).Nodup

namespace OrderedMap

variable {κ α β : Type}

instance [DecidableEq κ] [DecidableEq α] : DecidableEq (OrderedMap κ α) := fun m n =>
  if h : m.toList = n.toList then isTrue (by cases m; cases n; simp_all)
  else isFalse fun e => h (e ▸ rfl)

@[ext] theorem ext {m n : OrderedMap κ α} (h : m.toList = n.toList) : m = n := by
  cases m; cases n; simp_all

def empty : OrderedMap κ α := ⟨[], by simp⟩

instance : EmptyCollection (OrderedMap κ α) := ⟨empty⟩

instance : Inhabited (OrderedMap κ α) := ⟨empty⟩

def keys (m : OrderedMap κ α) : List κ := m.toList.map Prod.fst

def size (m : OrderedMap κ α) : Nat := m.toList.length

def isEmpty (m : OrderedMap κ α) : Bool := m.toList.isEmpty

def get? [DecidableEq κ] (m : OrderedMap κ α) (k : κ) : Option α :=
  (m.toList.find? fun e => decide (e.1 = k)).map Prod.snd

/-! ## Setting a key -/

/-- The value of `k` in a list of entries, set in place or at the end. -/
def setIn [DecidableEq κ] (k : κ) (v : α) : List (κ × α) → List (κ × α)
  | [] => [(k, v)]
  | e :: r => if e.1 = k then (k, v) :: r else e :: setIn k v r

theorem keys_setIn [DecidableEq κ] (k : κ) (v : α) (es : List (κ × α)) :
    (setIn k v es).map Prod.fst = if k ∈ es.map Prod.fst then es.map Prod.fst else es.map Prod.fst ++ [k] := by
  induction es with
  | nil => simp [setIn]
  | cons e r ih =>
    by_cases h : e.1 = k
    · simp [setIn, h]
    · have h' : ¬k = e.1 := fun x => h x.symm
      simp only [setIn, h, if_false, List.map_cons, ih, List.mem_cons, h', false_or]
      split <;> simp

theorem nodup_setIn [DecidableEq κ] (k : κ) (v : α) {es : List (κ × α)} (h : (es.map Prod.fst).Nodup) :
    ((setIn k v es).map Prod.fst).Nodup := by
  rw [keys_setIn]
  split
  · exact h
  · rename_i hk
    rw [List.nodup_append]
    refine ⟨h, by simp, ?_⟩
    intro a ha b hb
    rw [List.mem_singleton] at hb
    exact fun e => hk (hb ▸ e ▸ ha)

def insert [DecidableEq κ] (m : OrderedMap κ α) (k : κ) (v : α) : OrderedMap κ α :=
  ⟨setIn k v m.toList, nodup_setIn k v m.nodup_keys⟩

/-- All entries of `n`, in order, set in `m`. -/
def update [DecidableEq κ] (m n : OrderedMap κ α) : OrderedMap κ α :=
  n.toList.foldl (fun m e => m.insert e.1 e.2) m

def ofList [DecidableEq κ] (es : List (κ × α)) : OrderedMap κ α :=
  es.foldl (fun m e => m.insert e.1 e.2) empty

/-! ## Parts and images -/

def filter (m : OrderedMap κ α) (p : κ → Bool) : OrderedMap κ α :=
  ⟨m.toList.filter fun e => p e.1, m.nodup_keys.sublist (List.filter_sublist.map _)⟩

def map (m : OrderedMap κ α) (f : κ → α → β) : OrderedMap κ β :=
  ⟨m.toList.map fun e => (e.1, f e.1 e.2), by
    have := m.nodup_keys
    simpa [Function.comp_def] using this⟩

/-- The entries that `f` keeps, with the values it gives them. -/
def filterMap [DecidableEq κ] (m : OrderedMap κ α) (f : κ → α → Option β) : OrderedMap κ β :=
  ofList (m.toList.filterMap fun e => (f e.1 e.2).map fun v => (e.1, v))

end OrderedMap

end Invocation
