import Mathlib.Data.List.Induction
import Mathlib.Logic.Function.Basic
import Invocation.Proofs.Argument.Marked
import Invocation.Proofs.OrderedMap
import Invocation.Proofs.Properties.Malformed

/-!
# Lists built side by side

A session builds any number of named lists by commands that copy, wrap and change them. A ledger keeps for each name
nothing but a sequence of texts and the positions of its secrets. Every list of a session follows its sequence in the
ledger, and a command that is refused changes no list.
-/

namespace Invocation

/-! ## Texts of steps -/

/-- Key and value of the pair have texts. -/
def Item.PairHasTexts (pair : Item × Item) : Prop := pair.1.HasText ∧ pair.2.HasText

/-- The argument text of a pair whose key and value have texts. Neither of them is made absolute. -/
def Item.pairTexts (lead : Text) (pair : Item × Item) : List Text :=
  match pair.1.formatted, pair.2.formatted with
  | .ok k, .ok v => [pairText lead k v]
  | _, _ => []

/-- The argument texts of a property text; there are none if it is absent or malformed. -/
def Properties.argumentTexts (lead : Text) (properties : Option Text) (resolver : Resolver) : List Text :=
  match properties.map parse with
  | some (.ok entries) => entries.toList.map fun e => pairText lead e.1 (resolver.resolve e.2 (some e.1)).text
  | _ => []

namespace Step

/-- Every value that the step is given has a text. -/
def HasTexts : Step → Prop
  | append item | appendQuoted item | appendHidden item => item.HasText
  | add items | prepend items => ∀ i ∈ items, i.HasText
  | appendPairs _ pairs _ => ∀ pair ∈ pairs, Item.PairHasTexts pair
  | appendTokens _ | appendProperties _ _ _ _ | clear => True

/-- Why the step is refused: a secret is not there, or a property text is malformed at some line. -/
def refusal : Step → Option ArgumentFault
  | appendHidden .absent => some .secretMissing
  | appendProperties _ (some properties) _ _ =>
    ((Properties.logicalLines properties).findSome? Properties.LogicalLine.error?).map .properties
  | _ => none

end Step

/-- The sequence after a step in the directory `here`. -/
def Marked.take (here : Path) (m : Marked) : Step → Marked
  | .append item => m.pushAll false (item.texts here)
  | .appendQuoted item => m.pushAll false ((item.texts here).map Text.inQuotes)
  | .appendHidden item => m.pushAll true (item.texts here)
  | .add items => m.pushAll false (items.flatMap (Item.texts here))
  | .prepend items => m.prepend (items.flatMap (Item.texts here))
  | .appendTokens text => m.pushAll false (tokensOf text)
  | .appendPairs lead pairs secret => m.pushAll secret (pairs.flatMap (Item.pairTexts lead))
  | .appendProperties lead properties resolver secret =>
    m.pushAll secret (Properties.argumentTexts lead properties resolver)
  | .clear => .empty

theorem Step.eq_absent_of_refusal {item : Item} (h : (Step.appendHidden item).refusal ≠ none) : item = .absent := by
  unfold Step.refusal at h
  split at h
  · rename_i heq
    exact Step.appendHidden.inj heq
  · cases ‹Step.appendHidden item = _›
  · exact absurd rfl h

theorem Marked.take_of_refusal (here : Path) (m : Marked) {step : Step} (h : step.refusal ≠ none) :
    m.take here step = m := by
  cases step with
  | appendHidden item =>
      rw [Step.eq_absent_of_refusal h]
      rfl
  | appendProperties lead properties resolver secret =>
      cases properties with
      | none => rfl
      | some t =>
          cases hparse : Properties.parse t with
          | error e => simp only [take, Properties.argumentTexts, Option.map_some, hparse, pushAll, List.foldl_nil]
          | ok entries =>
              rw [Step.refusal, Properties.findSome?_error?_of_parse_eq_ok hparse] at h
              exact absurd rfl h
  | append _ | appendQuoted _ | add _ | prepend _ | appendTokens _ | appendPairs _ _ _ | clear => exact absurd rfl h

/-! ## Steps of lists and of sequences -/

theorem Item.pairArgument_eq {pair : Item × Item} (h : PairHasTexts pair) (lead : Text) (secret : Bool) :
    pairArgument lead secret pair = .ok ((pairTexts lead pair).map fun t => ⟨t, secret⟩) := by
  obtain ⟨⟨key, hkey⟩, ⟨value, hvalue⟩⟩ := h
  simp only [pairArgument, pairTexts, hkey, hvalue]
  rfl

namespace Arguments.Follows

variable {as : Arguments} {m : Marked} (here : Path)

theorem appendHidden (h : as.Follows m) {item : Item} (hitem : item.HasText) :
    ((Step.appendHidden item).take here as).arguments.Follows (m.pushAll true (item.texts here)) ∧
      ((Step.appendHidden item).take here as).fault = (Step.appendHidden item).refusal := by
  obtain ⟨t, ht, htexts⟩ := Item.exists_argumentText here hitem
  cases t with
  | none =>
      rw [Item.eq_absent_of_argumentText here ht]
      exact ⟨h, rfl⟩
  | some t =>
      have hrefusal : (Step.appendHidden item).refusal = none := by
        by_contra hrefused
        rw [Step.eq_absent_of_refusal hrefused] at ht
        cases ht
      have hhidden : item.hidden here = .ok [.hidden t] := by simp [Item.hidden, ht, Except.bind]
      rw [htexts, hrefusal, Step.take, hhidden]
      exact ⟨h.push true t, rfl⟩

theorem appendProperties (h : as.Follows m) (lead : Text) (properties : Option Text) (resolver : Resolver)
    (secret : Bool) :
    ((Step.appendProperties lead properties resolver secret).take here as).arguments.Follows
        (m.pushAll secret (Properties.argumentTexts lead properties resolver)) ∧
      ((Step.appendProperties lead properties resolver secret).take here as).fault =
        (Step.appendProperties lead properties resolver secret).refusal := by
  cases properties with
  | none => exact ⟨h, rfl⟩
  | some t =>
      rw [Step.take, Step.refusal, Properties.argumentTexts, Option.map_some]
      cases hparse : Properties.parse t with
      | error e =>
          rw [Properties.parse_eq_error_iff.mp hparse]
          simp only [Arguments.appendProperties, propertyArguments, hparse]
          exact ⟨h, rfl⟩
      | ok entries =>
          rw [Properties.findSome?_error?_of_parse_eq_ok hparse]
          simp only [Arguments.appendProperties, propertyArguments, hparse, Except.map]
          refine ⟨?_, rfl⟩
          have hpush := h.pushAll secret
            (entries.toList.map fun e => pairText lead e.1 (resolver.resolve e.2 (some e.1)).text)
          rw [List.map_map] at hpush ⊢
          exact hpush

/-- The list goes on to follow the sequence, and the step is refused where it has to be. -/
theorem take (h : as.Follows m) {step : Step} (hstep : step.HasTexts) :
    (step.take here as).arguments.Follows (m.take here step) ∧ (step.take here as).fault = step.refusal := by
  cases step with
  | append item =>
      have htake : (Step.append item).take here as = ⟨as ++ (item.texts here).map Argument.plain, [], none⟩ := by
        rw [Step.take, Item.plain_eq here hstep]
        rfl
      rw [htake]
      exact ⟨h.pushAll false (item.texts here), rfl⟩
  | appendQuoted item =>
      have htake : (Step.appendQuoted item).take here as =
          ⟨as ++ ((item.texts here).map Text.inQuotes).map Argument.plain, [], none⟩ := by
        rw [Step.take, Item.quoted_eq here hstep, List.map_map]
        rfl
      rw [htake]
      exact ⟨h.pushAll false ((item.texts here).map Text.inQuotes), rfl⟩
  | appendHidden item => exact h.appendHidden here hstep
  | add items =>
      rw [Step.take_add here as hstep]
      exact ⟨h.pushAll false (items.flatMap (Item.texts here)), rfl⟩
  | prepend items =>
      rw [Step.take_prepend here as hstep]
      exact ⟨h.prepend (items.flatMap (Item.texts here)), rfl⟩
  | appendTokens text =>
      rw [Step.take_appendTokens]
      exact ⟨h.pushAll false (tokensOf text), rfl⟩
  | appendPairs lead pairs secret =>
      rw [Step.take, as.appendAll_map fun pair hpair => Item.pairArgument_eq (hstep pair hpair) lead secret,
        ← List.map_flatMap]
      exact ⟨h.pushAll secret (pairs.flatMap (Item.pairTexts lead)), rfl⟩
  | appendProperties lead properties resolver secret =>
      exact h.appendProperties here lead properties resolver secret
  | clear => exact ⟨nil, rfl⟩

end Arguments.Follows

/-! ## Ledgers -/

/-- What is kept of each named list; a list that has not been begun is empty. -/
abbrev Ledger := Text → Marked

namespace Command

/-- Every value that the command is given has a text. -/
def HasTexts : Command → Prop
  | new items => ∀ i ∈ items, i.HasText
  | step s => s.HasTexts
  | duplicate _ | wrap _ => True

def refusal : Command → Option ArgumentFault
  | step s => s.refusal
  | new _ | duplicate _ | wrap _ => none

/-- The name of the one list that a command to the list `name` may change. -/
def target (name : Text) : Command → Text
  | new _ | step _ => name
  | duplicate target | wrap target => target

end Command

namespace Ledger

def empty : Ledger := fun _ => .empty

/-- The ledger after a command to the list `name`, given in the directory `here`. -/
def run (here : Path) (l : Ledger) (name : Text) : Command → Ledger
  | .new items => Function.update l name (.ofTexts (items.flatMap (Item.texts here)))
  | .step s => Function.update l name ((l name).take here s)
  | .duplicate target => Function.update l target (l name)
  | .wrap target =>
    Function.update l target
      (.ofTexts [Shell.executable, Shell.switch, (Shell.commandText (l name).texts).inQuotes])

variable (here : Path) (l : Ledger) {name other : Text} {c : Command}

theorem run_of_ne (h : other ≠ c.target name) : l.run here name c other = l other := by
  cases c <;> exact Function.update_of_ne h _ _

theorem run_of_refusal (name : Text) (h : c.refusal ≠ none) : l.run here name c = l := by
  cases c with
  | step s =>
      rw [run, (l name).take_of_refusal here h, Function.update_eq_self]
  | new _ | duplicate _ | wrap _ => exact absurd rfl h

/-- The ledger after commands in one directory, each to the list of the name beside it. -/
def after (here : Path) (commands : List (Text × Command)) : Ledger :=
  commands.foldl (fun l c => l.run here c.1 c.2) empty

end Ledger

namespace Session

/-- The session after commands in one directory, each to the list of the name beside it. -/
def after (here : Path) (commands : List (Text × Command)) : Session :=
  commands.foldl (fun s c => (s.run here c.1 c.2).1) ∅

/-- Every list of the session follows its sequence in the ledger. -/
def Simulates (s : Session) (l : Ledger) : Prop := ∀ name, (s.get name).Follows (l name)

theorem get_insert (s : Session) (name other : Text) (as : Arguments) :
    get (s.insert name as) other = if other = name then as else s.get other := by
  rw [get, OrderedMap.get?_insert]
  split <;> rfl

theorem simulates_empty : Simulates ∅ Ledger.empty := fun _ => .nil

variable {s : Session} {l : Ledger}

theorem Simulates.insert (h : s.Simulates l) {as : Arguments} {m : Marked} (ha : as.Follows m) (name : Text) :
    Simulates (s.insert name as) (Function.update l name m) := by
  intro other
  rw [get_insert, Function.update_apply]
  split
  · exact ha
  · exact h other

variable (here : Path)

theorem run_new {items : List Item} (h : ∀ i ∈ items, i.HasText) (s : Session) (name : Text) :
    s.run here name (.new items) =
      (s.insert name ((items.flatMap (Item.texts here)).map Argument.plain),
        ⟨(items.flatMap (Item.texts here)).map Argument.plain, [], none⟩) := by
  have hadd := Step.take_add here [] h
  rw [Step.take, List.nil_append] at hadd
  rw [run, hadd]

/-- A command leaves a session behind that simulates the ledger after it, and is refused where it has to be. -/
theorem Simulates.run (h : s.Simulates l) (name : Text) {c : Command} (hc : c.HasTexts) :
    (s.run here name c).1.Simulates (l.run here name c) ∧ (s.run here name c).2.fault = c.refusal := by
  cases c with
  | new items =>
      rw [run_new here hc]
      exact ⟨h.insert (.map_plain _) name, rfl⟩
  | step step =>
      obtain ⟨harguments, hfault⟩ := (h name).take here hc
      exact ⟨h.insert harguments name, hfault⟩
  | duplicate target => exact ⟨h.insert (h name) target, rfl⟩
  | wrap target =>
      refine ⟨?_, rfl⟩
      have hwrap : Arguments.Follows (Shell.wrap (s.get name).values) _ := .map_plain [_, _, _]
      rw [Ledger.run, ← (h name).values]
      exact h.insert hwrap target

theorem simulates_after {commands : List (Text × Command)} (h : ∀ c ∈ commands, c.2.HasTexts) :
    (after here commands).Simulates (Ledger.after here commands) := by
  -- from the end: the last command is given to the session that the others leave behind
  induction commands using List.reverseRecOn with
  | nil => exact simulates_empty
  | append_singleton cs c ih =>
      have hcs := ih fun d hd => h d (List.mem_append_left [c] hd)
      have hc := h c (List.mem_append_right cs List.mem_cons_self)
      rw [after, Ledger.after, List.foldl_concat, List.foldl_concat]
      exact (hcs.run here c.1 hc).1

/-- A list that follows the same sequence before and after is the same. -/
theorem Simulates.get_eq {s' : Session} {l' : Ledger} (h' : s'.Simulates l') (h : s.Simulates l) {name : Text}
    (hl : l' name = l name) : s'.get name = s.get name :=
  ((h' name).eq_iff (h name)).mpr hl

/-- After any commands every list presents the sequence that the ledger keeps for it, and two lists are equal if their
sequences are. The next command is refused if and only if a secret is not there or a property text is malformed at some
line; it changes no list then, and otherwise none but its target. -/
theorem run_refines {commands : List (Text × Command)} (h : ∀ c ∈ commands, c.2.HasTexts) :
    (∀ name, ((after here commands).get name).Presents (Ledger.after here commands name)) ∧
    (∀ name other, (after here commands).get name = (after here commands).get other ↔
      Ledger.after here commands name = Ledger.after here commands other) ∧
    ∀ name (c : Command), c.HasTexts →
      ((after here commands).run here name c).2.fault = c.refusal ∧
      ∀ other, (c.refusal ≠ none ∨ other ≠ c.target name) →
        ((after here commands).run here name c).1.get other = (after here commands).get other := by
  have hafter := simulates_after here h
  refine ⟨fun name => (hafter name).presents, fun name other => (hafter name).eq_iff (hafter other), ?_⟩
  intro name c hc
  obtain ⟨hnext, hfault⟩ := hafter.run here name hc
  refine ⟨hfault, fun other hother => hnext.get_eq hafter ?_⟩
  rcases hother with hrefused | hne
  · rw [Ledger.run_of_refusal here _ name hrefused]
  · exact Ledger.run_of_ne here _ hne

/-- A resolver that looks at the key and warns of nothing. -/
def keyedResolver : Resolver := ⟨fun template key => ⟨template ++ key.getD [], []⟩⟩

/-- A call of a file with a secret, a copy of it that goes on by itself, and the copy wrapped. -/
def loginCommands : List (Text × Command) :=
  [("call", .new [.ofText "login", .absent, .path (.ofText "./keys//id")]),
    ("call", .step (.appendHidden (.ofText "pw"))),
    ("call", .duplicate "copy"),
    ("call", .step (.appendHidden .absent)),
    ("copy", .step (.prepend [.ofText "sudo", .absent, .ofText "-n"])),
    ("copy", .step (.appendPairs "-P" [(.ofText "file", .path (.ofText "id"))] false)),
    ("copy", .step (.appendProperties "-D" (some "k=v") keyedResolver true)),
    ("copy", .step (.appendProperties "-D" (some "k=v\n\\u12") .identity false)),
    ("copy", .wrap "shell"),
    ("call", .step (.appendTokens (some "-q -v")))]

theorem run_refines_login :
    (∀ c ∈ loginCommands, c.2.HasTexts) ∧
    ((after (.ofText "/home") loginCommands).get "copy").values =
      ["sudo", "-n", "login", "/home/keys/id", "pw", "-Pfile=id", "-Dk=vk"] ∧
    ((after (.ofText "/home") loginCommands).get "copy").flags = [false, false, false, false, true, false, true] ∧
    ((after (.ofText "/home") loginCommands).get "call").values = ["login", "/home/keys/id", "pw", "-q", "-v"] ∧
    ((after (.ofText "/home") loginCommands).get "shell").flags = [false, false, false] ∧
    ((after (.ofText "/home") loginCommands).run (.ofText "/home") "call" (.step (.appendHidden .absent))).2.fault =
      some .secretMissing ∧
    ((after (.ofText "/home") loginCommands).run (.ofText "/home") "copy" (.wrap "call")).1.get "copy" =
      (after (.ofText "/home") loginCommands).get "copy" := by
  have htexts : ∀ c ∈ loginCommands, c.2.HasTexts := by
    simp [loginCommands, Command.HasTexts, Step.HasTexts, Item.PairHasTexts]
  obtain ⟨hpresents, -, hnext⟩ := run_refines (.ofText "/home") htexts
  refine ⟨htexts, (hpresents "copy").values.trans (by decide), (hpresents "copy").flags.trans (by decide),
    (hpresents "call").values.trans (by decide), (hpresents "shell").flags.trans (by decide), ?_, ?_⟩
  · exact (hnext "call" (.step (.appendHidden .absent)) Item.hasText_absent).1
  · exact (hnext "copy" (.wrap "call") trivial).2 "copy" (.inr (by decide))

end Session

end Invocation
