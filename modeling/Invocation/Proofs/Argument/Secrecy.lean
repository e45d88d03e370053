import Mathlib.Data.List.Forall2
import Invocation.Proofs.Argument.Session
import Invocation.Proofs.Argument.Visible

/-!
# Runs that differ in their secrets

Two sessions are built by the same commands, but for the texts of what is secret. Whatever is shown of their lists is
the same after every command, as long as no list is wrapped while there is a secret in it: the wrap is not marked.
-/

namespace Invocation

/-! ## Steps -/

namespace Arguments

/-- What is added to a list does not depend on it. -/
theorem arguments_appendAll (as : Arguments) (xs : List (Except ArgumentFault Arguments)) :
    (as.appendAll xs).arguments = as ++ (appendAll [] xs).arguments := by
  induction xs generalizing as with
  | nil => exact (List.append_nil as).symm
  | cons x xs ih =>
      cases x with
      | error f => exact (List.append_nil as).symm
      | ok bs => rw [appendAll, appendAll, ih (as ++ bs), ih ([] ++ bs), List.nil_append, List.append_assoc]

theorem secret_of_mem_appendAll {xs : List (Except ArgumentFault Arguments)}
    (h : ∀ bs : Arguments, .ok bs ∈ xs → ∀ a ∈ bs, a.secret = true) :
    ∀ a ∈ (appendAll [] xs).arguments, a.secret = true := by
  induction xs with
  | nil => simp [appendAll]
  | cons x xs ih =>
      cases x with
      | error f => simp [appendAll]
      | ok bs =>
          intro a ha
          rw [appendAll, arguments_appendAll, List.nil_append, List.mem_append] at ha
          rcases ha with ha | ha
          · exact h bs List.mem_cons_self a ha
          · exact ih (fun cs hcs => h cs (List.mem_cons_of_mem _ hcs)) a ha

end Arguments

namespace Step

variable (here : Path) {as bs : Arguments}

/-- A step keeps what it does not add, and adds the same to every list. -/
theorem visible_take_eq (step : Step) (h : as.visible = bs.visible) :
    (step.take here as).arguments.visible = (step.take here bs).arguments.visible := by
  cases step with
  | append _ | appendQuoted _ | appendHidden _ | add _ | appendTokens _ | appendPairs _ _ _ =>
      rw [take, take, as.arguments_appendAll, bs.arguments_appendAll, Arguments.visible_append,
        Arguments.visible_append, h]
  | prepend items =>
      simp only [take, Arguments.prepend]
      cases items.mapM (Item.plain here) with
      | error f => exact h
      | ok front => simp only [Arguments.visible_append, h]
  | appendProperties lead properties resolver secret =>
      cases properties with
      | none => exact h
      | some t =>
          simp only [take, Arguments.appendProperties]
          cases propertyArguments lead resolver secret t with
          | error f => exact h
          | ok added => simp only [Arguments.visible_append, h]
  | clear => rfl

/-- How many arguments the step adds to a list that is empty. -/
def count (here : Path) (step : Step) : Nat := (step.take here []).arguments.length

/-- The step adds to the end of any list, and nothing but secrets. -/
structure AddsSecrets (here : Path) (step : Step) : Prop where
  adds : ∀ as : Arguments, (step.take here as).arguments = as ++ (step.take here []).arguments
  secret : ∀ a ∈ (step.take here []).arguments, a.secret = true

/-- Of the secrets that a step adds nothing can be seen but their number. -/
theorem AddsSecrets.visible_take {here : Path} {step : Step} (h : step.AddsSecrets here) (as : Arguments) :
    (step.take here as).arguments.visible = as.visible ++ List.replicate (step.count here) none := by
  rw [h.adds, Arguments.visible_append, Arguments.visible_of_secret h.secret, count]

theorem addsSecrets_appendHidden (item : Item) : (appendHidden item).AddsSecrets here where
  adds as := as.arguments_appendAll _
  secret := by
    refine Arguments.secret_of_mem_appendAll fun bs hbs a ha => ?_
    rw [List.mem_singleton, Item.hidden] at hbs
    cases ht : item.argumentText here with
    | error f => simp [ht, Except.bind] at hbs
    | ok t =>
        cases t with
        | none => simp [ht, Except.bind] at hbs
        | some t =>
            simp only [ht, Except.bind, Except.ok.injEq] at hbs
            rw [hbs, List.mem_singleton] at ha
            rw [ha, Argument.hidden]

theorem addsSecrets_appendPairs (lead : Text) (pairs : List (Item × Item)) :
    (appendPairs lead pairs true).AddsSecrets here where
  adds as := as.arguments_appendAll _
  secret := by
    refine Arguments.secret_of_mem_appendAll fun bs hbs a ha => ?_
    obtain ⟨pair, -, hpair⟩ := List.mem_map.mp hbs
    rw [pairArgument] at hpair
    cases hkey : pair.1.formatted with
    | error f => simp [hkey, bind, Except.bind] at hpair
    | ok key =>
        cases hvalue : pair.2.formatted with
        | error f => simp [hkey, hvalue, bind, Except.bind] at hpair
        | ok value =>
            simp only [hkey, hvalue, bind, Except.bind, pure, Except.pure, Except.ok.injEq] at hpair
            rw [← hpair, List.mem_singleton] at ha
            rw [ha]

theorem addsSecrets_appendProperties (lead : Text) (properties : Option Text) (resolver : Resolver) :
    (appendProperties lead properties resolver true).AddsSecrets here := by
  cases properties with
  | none => exact ⟨fun as => (List.append_nil as).symm, by simp [take, Arguments.appendProperties]⟩
  | some t =>
      cases hparse : Properties.parse t with
      | error f =>
          have hnone (as : Arguments) :
              ((appendProperties lead (some t) resolver true).take here as).arguments = as := by
            simp [take, Arguments.appendProperties, propertyArguments, hparse, Except.map]
          exact ⟨fun as => by simp [hnone], by simp [hnone]⟩
      | ok entries =>
          have hsome (as : Arguments) : ((appendProperties lead (some t) resolver true).take here as).arguments =
              as ++ entries.toList.map fun e => ⟨pairText lead e.1 (resolver.resolve e.2 (some e.1)).text, true⟩ := by
            simp [take, Arguments.appendProperties, propertyArguments, hparse, Except.map]
          refine ⟨fun as => by rw [hsome, hsome, List.nil_append], fun a ha => ?_⟩
          rw [hsome, List.nil_append] at ha
          obtain ⟨e, -, rfl⟩ := List.mem_map.mp ha
          rfl

/-- The steps are the same but for the texts of the secrets that they add; of these there are as many. -/
inductive Alike (here : Path) : Step → Step → Prop where
  | same (step : Step) : Alike here step step
  | appendHidden {item item' : Item} (h : (Step.appendHidden item).count here = (Step.appendHidden item').count here) :
      Alike here (.appendHidden item) (.appendHidden item')
  | appendPairs {lead : Text} {pairs pairs' : List (Item × Item)}
      (h : (Step.appendPairs lead pairs true).count here = (Step.appendPairs lead pairs' true).count here) :
      Alike here (.appendPairs lead pairs true) (.appendPairs lead pairs' true)
  | appendProperties {lead : Text} {properties properties' : Option Text} {resolver resolver' : Resolver}
      (h : (Step.appendProperties lead properties resolver true).count here =
        (Step.appendProperties lead properties' resolver' true).count here) :
      Alike here (.appendProperties lead properties resolver true) (.appendProperties lead properties' resolver' true)

/-- Lists that look the same look the same after steps that are alike. -/
theorem Alike.visible_take_eq {step step' : Step} (hstep : step.Alike here step') (h : as.visible = bs.visible) :
    (step.take here as).arguments.visible = (step'.take here bs).arguments.visible := by
  cases hstep with
  | same => exact step.visible_take_eq here h
  | appendHidden hcount =>
      rw [(addsSecrets_appendHidden here _).visible_take, (addsSecrets_appendHidden here _).visible_take, hcount, h]
  | appendPairs hcount =>
      rw [(addsSecrets_appendPairs here _ _).visible_take, (addsSecrets_appendPairs here _ _).visible_take, hcount, h]
  | appendProperties hcount =>
      rw [(addsSecrets_appendProperties here _ _ _).visible_take,
        (addsSecrets_appendProperties here _ _ _).visible_take, hcount, h]

end Step

/-! ## Commands -/

/-- The commands are the same but for the texts of the secrets that they add. -/
inductive Command.Alike (here : Path) : Command → Command → Prop where
  | same (c : Command) : Command.Alike here c c
  | step {step step' : Step} (h : step.Alike here step') : Command.Alike here (.step step) (.step step')

namespace Session

/-- No list with a secret in it is wrapped by the command to the list `name`. -/
def Spares (s : Session) (name : Text) : Command → Prop
  | .wrap _ => (s.get name).hasSecret = false
  | .new _ | .step _ | .duplicate _ => True

/-- None of the commands wraps a list while there is a secret in it. -/
def SparesAll (here : Path) (s : Session) : List (Text × Command) → Prop
  | [] => True
  | c :: cs => s.Spares c.1 c.2 ∧ (s.run here c.1 c.2).1.SparesAll here cs

instance decidableSpares (s : Session) (name : Text) : (c : Command) → Decidable (s.Spares name c)
  | .wrap _ => inferInstanceAs (Decidable ((s.get name).hasSecret = false))
  | .new _ | .step _ | .duplicate _ => inferInstanceAs (Decidable True)

instance decidableSparesAll (here : Path) :
    (s : Session) → (cs : List (Text × Command)) → Decidable (s.SparesAll here cs)
  | _, [] => inferInstanceAs (Decidable True)
  | s, c :: cs =>
    have := decidableSparesAll here (s.run here c.1 c.2).1 cs
    inferInstanceAs (Decidable (s.Spares c.1 c.2 ∧ (s.run here c.1 c.2).1.SparesAll here cs))

/-- Both sessions have the same lists, and these look the same. -/
structure LooksLike (s s' : Session) : Prop where
  keys : s.keys = s'.keys
  visible : ∀ name, (s.get name).visible = (s'.get name).visible

namespace LooksLike

variable (here : Path) {s s' : Session}

theorem insert (h : s.LooksLike s') {as bs : Arguments} (hvisible : as.visible = bs.visible) (name : Text) :
    LooksLike (OrderedMap.insert s name as) (OrderedMap.insert s' name bs) where
  keys := by rw [OrderedMap.keys_insert, OrderedMap.keys_insert, h.keys]
  visible other := by
    rw [get_insert, get_insert]
    split
    · exact hvisible
    · exact h.visible other

/-- Commands that are alike leave sessions behind that look alike. -/
theorem run (h : s.LooksLike s') (name : Text) {c c' : Command} (hc : c.Alike here c') (hspares : s.Spares name c) :
    (s.run here name c).1.LooksLike (s'.run here name c').1 := by
  cases hc with
  | step hstep => exact h.insert (hstep.visible_take_eq here (h.visible name)) name
  | same =>
      cases c with
      | new items =>
          simp only [Session.run]
          split
          · exact h.insert rfl name
          · exact h
      | step step => exact h.insert (step.visible_take_eq here (h.visible name)) name
      | duplicate target => exact h.insert (h.visible name) target
      | wrap target =>
          -- without secrets the lists are the same, and so are their wraps
          have hsame : s.get name = s'.get name := Arguments.eq_of_visible (h.visible name) hspares
          have hwrap : (Shell.wrap (s.get name).values).visible = (Shell.wrap (s'.get name).values).visible := by
            rw [hsame]
          exact h.insert hwrap target

/-- Commands that are alike one by one leave sessions behind that look alike, however many of them are carried out. -/
theorem foldl_run {cs cs' : List (Text × Command)}
    (hcs : List.Forall₂ (fun c c' => c.1 = c'.1 ∧ c.2.Alike here c'.2) cs cs') (h : s.LooksLike s')
    (hspares : s.SparesAll here cs) (n : Nat) :
    ((cs.take n).foldl (fun s c => (s.run here c.1 c.2).1) s).LooksLike
      ((cs'.take n).foldl (fun s c => (s.run here c.1 c.2).1) s') := by
  induction hcs generalizing s s' n with
  | nil => simpa only [List.take_nil, List.foldl_nil] using h
  | @cons c c' cs cs' hc _ ih =>
      obtain ⟨hname, halike⟩ := hc
      obtain ⟨hfirst, hrest⟩ := hspares
      cases n with
      | zero => exact h
      | succ n =>
          have hnext : (s.run here c.1 c.2).1.LooksLike (s'.run here c'.1 c'.2).1 :=
            hname ▸ h.run here c.1 halike hfirst
          exact ih hnext hrest n

end LooksLike

end Session

/-! ## What is shown of a list -/

namespace Arguments

variable {as bs : Arguments}

/-- Whatever is shown of the two lists is the same, and so are their texts apart from the secrets. -/
structure ShowsLike (as bs : Arguments) : Prop where
  maskedDisplay : as.maskedDisplay = bs.maskedDisplay
  inspected : as.inspected = bs.inspected
  flags : as.flags = bs.flags
  hasSecret : as.hasSecret = bs.hasSecret
  length : as.length = bs.length
  values : ∀ i : Nat, as.flags[i]? = some false → as.values[i]? = bs.values[i]?

theorem showsLike_of_visible (h : as.visible = bs.visible) : as.ShowsLike bs where
  maskedDisplay := maskedDisplay_eq_of_visible h
  inspected := by rw [inspected, inspected, maskedDisplay_eq_of_visible h]
  flags := flags_eq_of_visible h
  hasSecret := hasSecret_eq_of_visible h
  length := by simpa only [visible, List.length_map] using congrArg List.length h
  values i hi := by
    have hvisible : as.visible[i]? = bs.visible[i]? := by rw [h]
    simp only [flags, values, visible, List.getElem?_map] at hi hvisible ⊢
    obtain ⟨a, ha, hopen⟩ := Option.map_eq_some_iff.mp hi
    rw [ha, Option.map_some] at hvisible
    obtain ⟨b, hb, hsame⟩ := Option.map_eq_some_iff.mp hvisible.symm
    rw [ha, hb, Argument.eq_of_visible hsame.symm hopen]

end Arguments

namespace Session

/-- Take two runs of the same commands in one directory that differ in the texts of secrets only, and never wrap a list
while there is a secret in it. After each command there are the same lists in both, and whatever is shown of them is the
same. -/
theorem run_hides_secrets {here : Path} {cs cs' : List (Text × Command)}
    (h : List.Forall₂ (fun c c' => c.1 = c'.1 ∧ c.2.Alike here c'.2) cs cs') (hspares : SparesAll here ∅ cs) (n : Nat) :
    (after here (cs.take n)).keys = (after here (cs'.take n)).keys ∧
    ∀ name, ((after here (cs.take n)).get name).ShowsLike ((after here (cs'.take n)).get name) := by
  have hlooks : (after here (cs.take n)).LooksLike (after here (cs'.take n)) :=
    .foldl_run here h ⟨rfl, fun _ => rfl⟩ hspares n
  exact ⟨hlooks.keys, fun name => Arguments.showsLike_of_visible (hlooks.visible name)⟩

/-- A call of a file with secrets of all kinds, a copy of it that goes on by itself, and the copy wrapped when it has no
secrets any more. -/
def secretCommands (password value properties : Text) (resolver : Resolver) : List (Text × Command) :=
  [("call", .new [.ofText "login", .path (.ofText "id")]),
    ("call", .step (.appendHidden (.ofText password))),
    ("call", .step (.appendPairs "-P" [(.ofText "key", .ofText value)] true)),
    ("call", .duplicate "copy"),
    ("call", .step (.appendProperties "-D" (some properties) resolver true)),
    ("call", .step (.prepend [.ofText "sudo", .absent])),
    ("copy", .step .clear),
    ("copy", .step (.append (.ofText "logout"))),
    ("copy", .wrap "shell")]

def shortCommands : List (Text × Command) := secretCommands "pw" "1" "a=b\nc=d" .identity

def longCommands : List (Text × Command) :=
  secretCommands "p w" "" "user:me\npassword:\\u0022" keyedResolver

theorem run_hides_secrets_login :
    SparesAll (.ofText "/home") ∅ shortCommands ∧
    ((after (.ofText "/home") shortCommands).get "call").ShowsLike
      ((after (.ofText "/home") longCommands).get "call") ∧
    ((after (.ofText "/home") shortCommands).get "call").maskedDisplay =
      "sudo login /home/id <masked> <masked> <masked> <masked>" := by
  have hspares : SparesAll (.ofText "/home") ∅ shortCommands := by
    decide +kernel
  have halike :
      List.Forall₂ (fun c c' => c.1 = c'.1 ∧ c.2.Alike (.ofText "/home") c'.2) shortCommands longCommands := by
    refine .cons ⟨rfl, .same _⟩ (.cons ⟨rfl, .step (.appendHidden rfl)⟩ (.cons ⟨rfl, .step (.appendPairs rfl)⟩
      (.cons ⟨rfl, .same _⟩ (.cons ⟨rfl, .step (.appendProperties ?_)⟩ (.cons ⟨rfl, .same _⟩
      (.cons ⟨rfl, .same _⟩ (.cons ⟨rfl, .same _⟩ (.cons ⟨rfl, .same _⟩ .nil))))))))
    decide +kernel
  exact ⟨hspares, (run_hides_secrets halike hspares 9).2 "call", by decide +kernel⟩

end Session

end Invocation
