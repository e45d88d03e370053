import Invocation.Proofs.Build.Warnings
import Invocation.Proofs.Macro.Doubled
import Invocation.Proofs.Properties.Escaped

/-!
# Delivering pairs

Any pairs with different keys can be handed to a command through a property text. What is done to the text on the way,
to its lines, to its escapes and to its references, leaves of every pair what it was before.
-/

namespace Invocation

open Macro

/-- The pairs as a property text: escaped, and with the dollar signs of the values doubled. -/
def Properties.delivery (lineBreak ending : Text) (pairs : List (Text × Text)) : Text :=
  write lineBreak ending (pairs.map fun pair => (pair.1, pair.2.doubled))

namespace Entry

/-- The entry with the property text and nothing but that to deliver. -/
def delivering (e : Entry) (text : Text) : Entry :=
  { e with kind := .properties, value := .null, properties := some text }

/-- The arguments in which the pairs should arrive. -/
def delivered (e : Entry) (pairs : List (Text × Text)) : Arguments :=
  pairs.map fun pair => ⟨e.lead ++ pair.1 ++ "=" ++ pair.2, e.sensitive⟩

theorem propertyArguments_of_eq_ok {s : Scope} {e : Entry} {text : Text} {as : Arguments} {ws : List Warning}
    (htext : e.properties = some text)
    (h : Invocation.propertyArguments e.lead (.macros s) e.isSecret text = .ok (as, ws)) :
    e.propertyArguments s = ⟨ws, .ok as⟩ := by
  simp only [propertyArguments, htext, h]

end Entry

section delivery

variable {pairs : List (Text × Text)} {lineBreak ending : Text} (hkeys : (pairs.map Prod.fst).Nodup)
  (hbreak : lineBreak ∈ Properties.lineBreaks) (hending : ending = [] ∨ ending = lineBreak)
include hkeys hbreak hending

theorem Properties.parse_delivery :
    ∃ m : OrderedMap Text Text, parse (delivery lineBreak ending pairs) = .ok m ∧
      m.toList = pairs.map fun pair => (pair.1, pair.2.doubled) := by
  have hnodup : ((pairs.map fun pair => (pair.1, pair.2.doubled)).map Prod.fst).Nodup := by
    rwa [List.map_map]
  have hread := parse_write hbreak hending hnodup
  rw [← delivery] at hread
  cases hparse : parse (delivery lineBreak ending pairs) with
  | error f => simp [hparse, Except.map] at hread
  | ok m => exact ⟨m, rfl, by simpa [hparse, Except.map] using hread⟩

theorem propertyArguments_delivery (s : Scope) (lead : Text) (secret : Bool) :
    propertyArguments lead (.macros s) secret (Properties.delivery lineBreak ending pairs) =
      .ok (pairs.map fun pair => ⟨lead ++ pair.1 ++ "=" ++ pair.2, secret⟩, []) := by
  obtain ⟨m, hparse, hm⟩ := Properties.parse_delivery hkeys hbreak hending
  simp only [propertyArguments, hparse, hm, Except.map, List.map_map, List.flatMap_map, Function.comp_def,
    Resolver.resolve_macros, Scope.expand_doubled, pairText, List.flatMap_eq_nil_iff.mpr fun _ _ => rfl]

/-- Nothing stands against the entry, and nothing is warned about. -/
theorem Entry.resolve_delivering (e : Entry) (s : Scope) :
    (e.delivering (Properties.delivery lineBreak ending pairs)).resolve s =
      ⟨e.delivering (Properties.delivery lineBreak ending pairs), e.delivered pairs, [], none⟩ := by
  have hsecret : (e.delivering (Properties.delivery lineBreak ending pairs)).isSecret = e.sensitive :=
    isSecret_of_kind (by simp [delivering])
  have harguments := propertyArguments_delivery hkeys hbreak hending s e.lead e.sensitive
  rw [← hsecret] at harguments
  have hattempt :
      (e.delivering (Properties.delivery lineBreak ending pairs)).attempt s = .done (e.delivered pairs) := by
    rw [delivered, ← hsecret]
    exact propertyArguments_of_eq_ok (e := e.delivering _) rfl harguments
  simp only [resolve, hattempt, Attempt.done]

/-- The pairs arrive in their order in the place of the entry, each as one argument with the key and the value as they
were, whatever code points these are made of. Nothing else of the build is touched. -/
theorem Spec.build_delivers (spec : Spec) (s : Scope) (before after : List Entry) (e : Entry) :
    let delivering := e.delivering (Properties.delivery lineBreak ending pairs)
    let whole := { spec with entries := before ++ delivering :: after }.build s false
    let without := { spec with entries := before ++ after }.build s false
    let front := { spec with entries := before }.build s false
    (∃ as, without.arguments = front.arguments ++ as ∧
      whole.arguments = front.arguments ++ e.delivered pairs ++ as) ∧
    whole.resolved[before.length]? = some ⟨delivering, e.delivered pairs, [], none⟩ ∧
    whole.warnings = without.warnings ∧ whole.errors = without.errors := by
  intro delivering whole without front
  have hresolve : delivering.resolve s = ⟨delivering, e.delivered pairs, [], none⟩ :=
    e.resolve_delivering hkeys hbreak hending s
  refine ⟨⟨after.flatMap fun a => (a.resolve s).arguments, ?_, ?_⟩, ?_, ?_, ?_⟩
  · simp [without, front, arguments_build, plainArguments, List.flatMap_map]
  · simp [whole, front, arguments_build, plainArguments, List.flatMap_map, hresolve]
  · simp [whole, resolved_build, hresolve]
  · simp [whole, without, build, buildWarnings, hresolve]
  · simp [whole, without, Build.errors, resolved_build, List.flatMap_map, hresolve, Resolved.errors, Resolved.error]

end delivery

/-- The two units of a smiley, each standing for itself. -/
def loneUnits : Text := [.surrogate 0x3d, .surrogate 0x600]

/-- A key that looks like a comment and one that is empty, and values that look like references. -/
def awkwardPairs : List (Text × Text) := [("#k=1:\\", "$HOME $\x7bPID|\n\x7d$$"), ("", " \\" ++ loneUnits)]

def awkwardEntry : Entry := .delivering (.ofValue .plain .null true) (Properties.delivery "\r" "\r" awkwardPairs)

theorem Spec.build_delivers_awkward :
    awkwardEntry.properties =
      some ("\\#k\\=1\\:\\\\=$$HOME\\ $$\x7bPID|\\n\x7d$$$$\r=\\ \\\\" ++ (loneUnits ++ "\r")) ∧
    (({ login with entries := [.masked "$nobody"] ++ awkwardEntry :: [.masked "a"] } : Spec).build .bare
        false).resolved[1]? =
      some ⟨awkwardEntry, [.hidden "-D#k=1:\\=$HOME $\x7bPID|\n\x7d$$", .hidden ("-D= \\" ++ loneUnits)], [],
        none⟩ := by
  have hdelivered : (Entry.ofValue .plain .null true).delivered awkwardPairs =
      [.hidden "-D#k=1:\\=$HOME $\x7bPID|\n\x7d$$", .hidden ("-D= \\" ++ loneUnits)] := by
    decide +kernel
  have hdelivers := @build_delivers awkwardPairs "\r" "\r" (by decide) (by decide) (.inr rfl) login .bare
    [.masked "$nobody"] [.masked "a"] (.ofValue .plain .null true)
  rw [hdelivered] at hdelivers
  exact ⟨by decide +kernel, hdelivers.2.1⟩

end Invocation
