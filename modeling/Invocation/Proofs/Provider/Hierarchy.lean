import Invocation.Proofs.Path
import Invocation.Proofs.Provider.Merging
import Invocation.Proofs.Text.Basic
import Invocation.Provider.Load

/-!
# Files of several directories

A provider that looks upward reads the file of the same name in every directory from the working directory up to the
root. For each key one of the files that give it a value wins: the nearest, or the one nearest to the root.
-/

namespace Invocation

/-! ## Names -/

namespace Utf8

variable {byte? : Fin 2048 → Option UInt8} {i j : Nat} {t u : Text} {a b : List UInt8}

theorem encodeFrom_scalar_eq_ok_iff {c : Char} {bytes : List UInt8} :
    encodeFrom byte? i (.scalar c :: t) = .ok bytes ↔
      ∃ rest, encodeFrom byte? (i + 1) t = .ok rest ∧ bytes = String.utf8EncodeChar c ++ rest := by
  rw [encodeFrom]
  cases encodeFrom byte? (i + 1) t <;> simp [Functor.map, Except.map, eq_comm]

theorem encodeFrom_surrogate_eq_ok_iff {n : Fin 2048} {bytes : List UInt8} :
    encodeFrom byte? i (.surrogate n :: t) = .ok bytes ↔
      ∃ x rest, byte? n = some x ∧ encodeFrom byte? (i + 1) t = .ok rest ∧ bytes = x :: rest := by
  rw [encodeFrom]
  cases byte? n with
  | none => simp
  | some x => cases encodeFrom byte? (i + 1) t <;> simp [Functor.map, Except.map, eq_comm]

/-- Where a text starts plays no part if it can be written. -/
theorem encodeFrom_of_ok (h : encodeFrom byte? i t = .ok a) (j : Nat) : encodeFrom byte? j t = .ok a := by
  induction t generalizing i j a with
  | nil => exact h
  | cons c t ih =>
      cases c with
      | scalar c =>
          obtain ⟨rest, hrest, rfl⟩ := encodeFrom_scalar_eq_ok_iff.mp h
          exact encodeFrom_scalar_eq_ok_iff.mpr ⟨rest, ih hrest (j + 1), rfl⟩
      | surrogate n =>
          obtain ⟨x, rest, hx, hrest, rfl⟩ := encodeFrom_surrogate_eq_ok_iff.mp h
          exact encodeFrom_surrogate_eq_ok_iff.mpr ⟨x, rest, hx, ih hrest (j + 1), rfl⟩

theorem encodeFrom_append (ht : encodeFrom byte? i t = .ok a) (hu : encodeFrom byte? j u = .ok b) :
    encodeFrom byte? i (t ++ u) = .ok (a ++ b) := by
  induction t generalizing i a with
  | nil =>
      obtain rfl : [] = a := Except.ok.inj ht
      exact encodeFrom_of_ok hu i
  | cons c t ih =>
      cases c with
      | scalar c =>
          obtain ⟨rest, hrest, rfl⟩ := encodeFrom_scalar_eq_ok_iff.mp ht
          exact encodeFrom_scalar_eq_ok_iff.mpr ⟨_, ih hrest, List.append_assoc _ _ _⟩
      | surrogate n =>
          obtain ⟨x, rest, hx, hrest, rfl⟩ := encodeFrom_surrogate_eq_ok_iff.mp ht
          exact encodeFrom_surrogate_eq_ok_iff.mpr ⟨x, _, hx, ih hrest, rfl⟩

end Utf8

/-- The text can be the name of a file, or lead to one. -/
def CanName (t : Text) : Prop := ∃ bytes, nameBytes t = .ok bytes

namespace CanName

variable {t u : Text}

theorem nameBytes_eq_ok_iff {bytes : List UInt8} :
    nameBytes t = .ok bytes ↔ Utf8.encodeName t = .ok bytes ∧ 0 ∉ bytes := by
  rw [nameBytes]
  cases Utf8.encodeName t with
  | error e => simp
  | ok found =>
      by_cases h : 0 ∈ found
      · simp only [List.contains_iff_mem, h, if_true, reduceCtorEq, Except.ok.injEq, false_iff, not_and, not_not]
        rintro rfl
        exact h
      · simp only [List.contains_iff_mem, h, if_false, Except.ok.injEq]
        constructor
        · rintro rfl
          exact ⟨rfl, h⟩
        · exact And.left

theorem append (ht : CanName t) (hu : CanName u) : CanName (t ++ u) := by
  obtain ⟨a, ha⟩ := ht
  obtain ⟨b, hb⟩ := hu
  obtain ⟨hta, hzero⟩ := nameBytes_eq_ok_iff.mp ha
  obtain ⟨hub, hzero'⟩ := nameBytes_eq_ok_iff.mp hb
  refine ⟨a ++ b, nameBytes_eq_ok_iff.mpr ⟨Utf8.encodeFrom_append hta hub, ?_⟩⟩
  rw [List.mem_append, not_or]
  exact ⟨hzero, hzero'⟩

theorem joinWith {separator : Text} {ts : List Text} (hseparator : CanName separator) (h : ∀ t ∈ ts, CanName t) :
    CanName (Text.joinWith separator ts) := by
  cases ts with
  | nil => exact ⟨[], rfl⟩
  | cons t ts =>
      obtain ⟨ht, hts⟩ := List.forall_mem_cons.mp h
      rw [Text.joinWith_cons]
      refine ht.append ?_
      induction ts with
      | nil => exact ⟨[], rfl⟩
      | cons u ts ih =>
          obtain ⟨hu, hrest⟩ := List.forall_mem_cons.mp hts
          rw [List.flatMap_cons]
          exact (hseparator.append hu).append (ih (List.forall_mem_cons.mpr ⟨ht, hrest⟩) hrest)

theorem path {p : Path} (hroot : CanName p.root) (h : ∀ name ∈ p.names, CanName name) : CanName p.text := by
  unfold Path.text
  split
  · exact ⟨_, rfl⟩
  · exact hroot.append (joinWith ⟨_, rfl⟩ h)

end CanName

theorem Path.names_withoutDots_subset (p : Path) : p.withoutDots.names ⊆ p.names := by
  refine List.foldlRecOn (motive := fun kept => kept ⊆ p.names) p.names _ (List.nil_subset _) ?_
  intro kept hkept name hname
  have hadded : kept ++ [name] ⊆ p.names :=
    List.append_subset.mpr ⟨hkept, List.cons_subset.mpr ⟨hname, List.nil_subset _⟩⟩
  split
  · exact hadded
  · split
    · exact hadded
    · exact List.Subset.trans (List.dropLast_subset kept) hkept

namespace LoadContext

variable {c : LoadContext}

/-- The directory in which files are looked for, from the root on. -/
def resolvedDirectory (c : LoadContext) : Path :=
  (c.host.files.current.join { c.directory with root := if c.directory.isAbsolute then "/" else [] }).withoutDots

theorem forM_eq_ok {α ε : Type} {f : α → Except ε Unit} {as : List α} (h : ∀ a ∈ as, f a = .ok ()) :
    as.forM f = .ok () := by
  induction as with
  | nil => rfl
  | cons a as ih =>
      obtain ⟨ha, has⟩ := List.forall_mem_cons.mp h
      have hcons : (a :: as).forM f = f a >>= fun _ => as.forM f := rfl
      rw [hcons, ha]
      exact ih has

theorem absoluteDirectory_eq_ok (h : ∀ name ∈ c.directory.names, CanName name) :
    c.absoluteDirectory = .ok c.resolvedDirectory := by
  have hroot : CanName (if c.directory.isAbsolute then "/" else [] : Text) := by
    split
    · exact ⟨_, rfl⟩
    · exact ⟨_, rfl⟩
  have hplace (x : Text × Nat) : ∃ bytes, nameBytes (Path.withoutDots
      ⟨if c.directory.isAbsolute then "/" else [], c.directory.names.take (x.2 + 1)⟩).text = .ok bytes := by
    refine CanName.path hroot fun name hname => h name ?_
    exact List.take_subset _ _ (Path.names_withoutDots_subset _ hname)
  unfold absoluteDirectory
  dsimp only
  rw [forM_eq_ok fun x _ => ?_]
  · rfl
  · obtain ⟨bytes, hbytes⟩ := hplace x
    rw [hbytes]
    split <;> rfl

end LoadContext

/-! ## Files -/

/-- The keys that a dotenv file defines, also those without a value. -/
def Dotenv.definitions (environment : OrderedMap Text Text) (t : Text) : OrderedMap Text (Option Text) :=
  (bindings t).foldl (define environment) ∅

namespace LoadContext

variable (c : LoadContext)

/-- The keys that the file at a path defines. What is not a file defines none. -/
def definitions (file : Path) : Except Provider.LoadFault (OrderedMap Text (Option Text)) :=
  match c.host.files.read file with
  | .ok content =>
    ((Utf8.decode content).map fun t =>
      Dotenv.definitions c.host.environment (Dotenv.withoutMark t.normalizeBreaks)).mapError .undecodable
  | .error _ => .ok ∅

/-- The variables of a file are those of its keys that have a value. -/
theorem readFile_eq (file : Path) : c.readFile file = (c.definitions file).map fun m => m.filterMap fun _ v => v := by
  unfold readFile definitions
  cases c.host.files.read file with
  | error f => rfl
  | ok content =>
      simp only [Dotenv.ofBytes]
      cases Utf8.decode content <;> rfl

/-- What the file at a path defines, if there is something at the path. -/
def definitionsAt (file : Path) : Except Provider.LoadFault (Option (OrderedMap Text (Option Text))) := do
  if ← c.isThere file then return some (← c.definitions file) else return none

variable {c} {file : Path}

theorem definitionsAt_eq_ok_iff {o : Option (OrderedMap Text (Option Text))} :
    c.definitionsAt file = .ok o ↔ c.isThere file = .ok o.isSome ∧ ∀ m ∈ o, c.definitions file = .ok m := by
  unfold definitionsAt
  cases c.isThere file with
  | error f => simp [bind, Except.bind]
  | ok there =>
      cases there with
      | false => cases o <;> simp [bind, Except.bind, pure, Except.pure]
      | true => cases o <;> cases c.definitions file <;> simp [bind, Except.bind, pure, Except.pure]

end LoadContext

/-! ## Directories -/

section

-- What is found in each directory: nothing, or the keys of a file.
variable (held : Path → Option (OrderedMap Text (Option Text)))

/-- The value that a key is given in a directory. There may be no file, or no value beside the key. -/
def valueIn (k : Text) (d : Path) : Option Text := (held d).bind fun m => (m.get? k).join

/-- The keys that are given a value in a directory, in the order of the file. -/
def keysIn (d : Path) : List Text := ((held d).elim [] OrderedMap.keys).filter fun k => (valueIn held k d).isSome

theorem mem_keysIn {k : Text} {d : Path} : k ∈ keysIn held d ↔ (valueIn held k d).isSome = true := by
  rw [keysIn, List.mem_filter, and_iff_right_iff_imp]
  intro h
  rw [valueIn] at h
  cases hd : held d with
  | none => simp [hd] at h
  | some m =>
      by_contra hk
      have hnone : m.get? k = none := OrderedMap.get?_eq_none_iff.mpr hk
      simp [hd, hnone] at h

/-- The variables that are found in some directories, one after the other. -/
def variablesIn (ds : List Path) : List (OrderedMap Text Text) :=
  (ds.filterMap held).map fun m => m.filterMap fun _ v => v

theorem get?_merge_variablesIn (ds : List Path) (k : Text) :
    (OrderedMap.merge (variablesIn held ds)).get? k = (ds.filterMap (valueIn held k)).getLast? := by
  rw [OrderedMap.get?_merge, variablesIn, List.filterMap_map, List.filterMap_filterMap]
  congr 1
  refine List.filterMap_congr fun d _ => ?_
  rw [valueIn]
  cases held d with
  | none => rfl
  | some m =>
      rw [Option.bind_some, Option.bind_some, Function.comp_apply, OrderedMap.get?_filterMap]
      cases m.get? k <;> rfl

theorem keys_merge_variablesIn (ds : List Path) :
    (OrderedMap.merge (variablesIn held ds)).keys = (ds.flatMap (keysIn held)).eraseDups := by
  rw [OrderedMap.keys_merge, variablesIn, List.flatMap_map]
  congr 1
  induction ds with
  | nil => rfl
  | cons d ds ih =>
      rw [List.flatMap_cons, ← ih]
      cases hd : held d with
      | none => simp [hd, keysIn]
      | some m =>
          have hkeys : (m.filterMap fun _ v => v).keys = keysIn held d := by
            rw [OrderedMap.keys_filterMap, keysIn, hd]
            refine List.filter_congr fun k _ => ?_
            rw [valueIn, hd, Option.bind_some]
            cases m.get? k <;> rfl
          rw [List.filterMap_cons_some hd, List.flatMap_cons, hkeys]

end

/-! ## The walk and what it finds -/

theorem filterM_map_eq_ok {α β ε : Type} {f : α → β} {p : β → Except ε Bool} {q : α → Bool} {as : List α}
    (h : ∀ a ∈ as, p (f a) = .ok (q a)) : (as.map f).filterM p = .ok ((as.filter q).map f) := by
  -- What has been kept so far is carried along, the last of it first.
  have haux (kept : List β) :
      List.filterAuxM p (as.map f) kept = .ok (((as.filter q).map f).reverse ++ kept) := by
    induction as generalizing kept with
    | nil => rfl
    | cons a as ih =>
        obtain ⟨ha, has⟩ := List.forall_mem_cons.mp h
        rw [List.map_cons, List.filterAuxM, ha]
        refine (ih has _).trans ?_
        cases hq : q a <;> simp [hq]
  rw [List.filterM, haux, List.append_nil]
  exact congrArg Except.ok (List.reverse_reverse _)

namespace Provider

/-- The provider looks for files of this name from the working directory upward. -/
structure LooksUpward (p : Provider) (name : Text) : Prop where
  kind : p.kind = .file
  hierarchical : p.hierarchical = some true
  filename : p.filename = some name
  ne_nil : name ≠ []

theorem mergeOrder_map (precedence : Option Precedence) (f : Path → Path) (ds : List Path) :
    mergeOrder precedence (ds.map f) = (mergeOrder precedence ds).map f := by
  unfold mergeOrder
  split <;> simp

theorem mergeOrder_filter (precedence : Option Precedence) (q : Path → Bool) (ds : List Path) :
    mergeOrder precedence (ds.filter q) = (mergeOrder precedence ds).filter q := by
  unfold mergeOrder
  split <;> simp

theorem mergeOrder_eq (precedence : Option Precedence) (ds : List Path) :
    mergeOrder precedence ds = if precedence = some .shallowFirst then ds else ds.reverse := by
  rcases precedence with _ | _ | _ <;> rfl

theorem mem_mergeOrder (precedence : Option Precedence) {ds : List Path} {d : Path} :
    d ∈ mergeOrder precedence ds ↔ d ∈ ds := by
  unfold mergeOrder
  split <;> simp

variable {p : Provider} {c : LoadContext} {name : Text} {held : Path → Option (OrderedMap Text (Option Text))}
  {file : Path → Path} {ds : List Path}

theorem fileCandidates_eq_ok (hp : p.LooksUpward name) (hc : ∀ n ∈ c.directory.names, CanName n) :
    p.fileCandidates c = .ok (c.resolvedDirectory.ancestors.map fun d => d.join (.ofText name)) := by
  obtain ⟨x, r, rfl⟩ := List.exists_cons_of_ne_nil hp.ne_nil
  rw [fileCandidates, hp.filename, LoadContext.absoluteDirectory_eq_ok hc]
  rfl

/-- Files that are there are read one by one. -/
theorem forall₂_readFile (h : ∀ d ∈ ds, c.definitionsAt (file d) = .ok (held d)) :
    List.Forall₂ (fun f m => c.readFile f = .ok m) ((ds.filter fun d => (held d).isSome).map file)
      (variablesIn held ds) := by
  induction ds with
  | nil => exact .nil
  | cons d ds ih =>
      obtain ⟨hd, hds⟩ := List.forall_mem_cons.mp h
      cases hheld : held d with
      | none => simpa [variablesIn, hheld] using ih hds
      | some m =>
          rw [hheld] at hd
          have hread : c.readFile (file d) = .ok (m.filterMap fun _ v => v) := by
            rw [c.readFile_eq, (LoadContext.definitionsAt_eq_ok_iff.mp hd).2 m rfl]
            rfl
          rw [List.filter_cons_of_pos (by simp [hheld]), List.map_cons, variablesIn, List.filterMap_cons_some hheld]
          exact .cons hread (ih hds)

theorem found_eq_ok (hp : p.LooksUpward name) (hfiles : p.fileCandidates c = .ok (ds.map file))
    (hheld : ∀ d ∈ ds, c.definitionsAt (file d) = .ok (held d)) :
    p.found c = .ok (.merge (variablesIn held (mergeOrder p.precedence ds))) := by
  have hthere : (ds.map file).filterM c.isThere = .ok ((ds.filter fun d => (held d).isSome).map file) :=
    filterM_map_eq_ok fun d hd => (LoadContext.definitionsAt_eq_ok_iff.mp (hheld d hd)).1
  have hread := forall₂_readFile fun d hd => hheld d ((mem_mergeOrder p.precedence).mp hd)
  have hmerged : mergeFiles c (mergeOrder p.precedence ((ds.filter fun d => (held d).isSome).map file)) =
      .ok (.merge (variablesIn held (mergeOrder p.precedence ds))) := by
    rw [mergeOrder_map, mergeOrder_filter]
    exact OrderedMap.foldlM_update_eq_ok hread ∅
  simp only [found, hp.kind, loadFiles, hp.hierarchical, Option.getD_some, if_true, hfiles]
  rw [← hmerged]
  exact congrArg (· >>= fun files => mergeFiles c (mergeOrder p.precedence files)) hthere

/-- A provider that looks upward walks from the working directory to the root, through every directory on the way and
through each once, and looks for its file there. A key is found if some file gives it a value, whichever precedence
there is. The value is that of the nearest such file, or with shallow first that of the one nearest to the root; a key
without a value in a nearer file hides nothing. Keys stand where they first come up in the order of merging, and filters
are applied to what has been merged. -/
theorem found_upward (hp : p.LooksUpward name) (hc : ∀ n ∈ c.directory.names, CanName n)
    (hheld : ∀ d, d.Encloses c.resolvedDirectory → c.definitionsAt (d.join (.ofText name)) = .ok (held d)) :
    ∃ ds, (∀ es, c.resolvedDirectory.Climbs es ↔ es = ds) ∧ ds.Nodup ∧
      (∀ d, d ∈ ds ↔ d.Encloses c.resolvedDirectory) ∧
      p.fileCandidates c = .ok (ds.map fun d => d.join (.ofText name)) ∧
      ∀ precedence, ∃ merged, { p with precedence }.found c = .ok merged ∧
        { p with precedence }.load c = .ok (filterVariables p.filters merged) ∧
        (∀ k, k ∈ merged.keys ↔ ∃ d ∈ ds, (valueIn held k d).isSome = true) ∧
        (∀ k, merged.get? k =
          if precedence = some .shallowFirst then (ds.filterMap (valueIn held k)).getLast?
          else (ds.filterMap (valueIn held k)).head?) ∧
        merged.keys =
          ((if precedence = some .shallowFirst then ds else ds.reverse).flatMap (keysIn held)).eraseDups := by
  have hfiles := fileCandidates_eq_ok hp hc
  refine ⟨c.resolvedDirectory.ancestors, fun es => Path.climbs_iff, Path.nodup_ancestors _, fun d => Path.mem_ancestors,
    hfiles, fun precedence => ?_⟩
  have hp' : { p with precedence }.LooksUpward name := ⟨hp.kind, hp.hierarchical, hp.filename, hp.ne_nil⟩
  have hfound := found_eq_ok hp' (fileCandidates_eq_ok hp' hc) fun d hd => hheld d (Path.mem_ancestors.mp hd)
  refine ⟨_, hfound, ?_, fun k => ?_, fun k => ?_, ?_⟩
  · rw [load, hfound]
    rfl
  · simp only [keys_merge_variablesIn, List.mem_eraseDups, List.mem_flatMap, mem_keysIn, mem_mergeOrder]
  · rw [get?_merge_variablesIn, mergeOrder_eq]
    split
    · rfl
    · rw [List.filterMap_reverse, List.getLast?_reverse]
  · rw [keys_merge_variablesIn, mergeOrder_eq]

/-- Two directories with a dotenv file and one without. -/
def nestedFiles : LoadContext where
  host := {
    files := {
      nodes := [([".env"], .file "N=top\nK=root\nM=1".toUTF8.toList), (["a"], .directory), (["a", "b"], .directory),
        (["a", "b", ".env"], .file "K=deep\nN".toUTF8.toList)]
      current := Path.top }
    environment := ∅
    home := "/"
    userHomes := ∅ }
  environment := ∅
  workingDirectory := some "a/b"

def upwardProvider : Provider where
  kind := .file
  id := "files"
  name := none
  enabled := true
  hierarchical := some true
  filename := some ".env"
  path := none
  precedence := none
  filters := []

def heldByNestedFiles (d : Path) : Option (OrderedMap Text (Option Text)) :=
  if d.names = [] then some (.ofList [("N", some "top"), ("K", some "root"), ("M", some "1")])
  else if d.names = ["a", "b"] then some (.ofList [("K", some "deep"), ("N", none)])
  else none

theorem found_upward_nestedFiles :
    (∃ merged, upwardProvider.found nestedFiles = .ok merged ∧ merged.get? "K" = some ("deep" : Text) ∧
      merged.get? "N" = some ("top" : Text) ∧ merged.keys = (["N", "K", "M"] : List Text)) ∧
    ∃ merged, { upwardProvider with precedence := some .shallowFirst }.found nestedFiles = .ok merged ∧
      merged.get? "K" = some ("root" : Text) ∧ merged.get? "N" = some ("top" : Text) ∧
      merged.keys = (["K", "N", "M"] : List Text) := by
  have hdirectory : nestedFiles.resolvedDirectory = ⟨"/", ["a", "b"]⟩ := by decide
  have hnames : ∀ n ∈ nestedFiles.directory.names, CanName n := by
    have hlist : nestedFiles.directory.names = (["a", "b"] : List Text) := by decide
    rw [hlist, List.forall_mem_cons, List.forall_mem_singleton]
    exact ⟨⟨_, rfl⟩, ⟨_, rfl⟩⟩
  have hheld : ∀ d, d.Encloses nestedFiles.resolvedDirectory →
      nestedFiles.definitionsAt (d.join (.ofText ".env")) = .ok (heldByNestedFiles d) := by
    have hall : ∀ d ∈ Path.ancestors ⟨"/", ["a", "b"]⟩,
        nestedFiles.definitionsAt (d.join (.ofText ".env")) = .ok (heldByNestedFiles d) := by
      decide +kernel
    intro d hd
    rw [hdirectory] at hd
    exact hall d (Path.mem_ancestors.mpr hd)
  have hp : upwardProvider.LooksUpward ".env" := ⟨rfl, rfl, rfl, by decide⟩
  obtain ⟨ds, hwalk, -, -, -, hfound⟩ := found_upward hp hnames hheld
  have hds : [⟨"/", ["a", "b"]⟩, ⟨"/", ["a"]⟩, ⟨"/", []⟩] = ds := by
    rw [← hwalk, hdirectory, Path.climbs_iff]
    decide
  subst hds
  obtain ⟨merged, hok, -, -, hvalues, hkeys⟩ := hfound none
  obtain ⟨merged', hok', -, -, hvalues', hkeys'⟩ := hfound (some .shallowFirst)
  refine ⟨⟨merged, hok, ?_, ?_, ?_⟩, merged', hok', ?_, ?_, ?_⟩
  · rw [hvalues]
    decide
  · rw [hvalues]
    decide
  · rw [hkeys]
    decide
  · rw [hvalues']
    decide
  · rw [hvalues']
    decide
  · rw [hkeys']
    decide

end Provider

end Invocation
