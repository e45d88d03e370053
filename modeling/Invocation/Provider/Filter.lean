import Invocation.Pattern.Matching
import Invocation.Spec.Basic

/-!
# Filters

A chain of filters gathers keys: a rule first lets in what it includes and then takes out what it excludes. Without
rules everything is kept.
-/

namespace Invocation

/-- Whether the pattern describes some beginning of the text. -/
def Pattern.matchesStart (p : Pattern) (t : Text) : Bool := p.node.matchesStart p.settings t

namespace FilterRule

/-- A pattern with an empty source stands for nothing. -/
def accepts (pattern : Option Pattern) (key : Text) : Bool :=
  match pattern with
  | some p => !p.source.isEmpty && p.matchesStart key
  | none => false

/-- The gathered keys after the rule has been applied to them and to all `keys`. -/
def gather (r : FilterRule) (keys gathered : List Text) : List Text :=
  let included := gathered ++ keys.filter fun k => accepts r.includes k && !gathered.contains k
  included.filter fun k => !accepts r.excludes k

end FilterRule

/-- The entries that a chain of filters keeps, in their order. -/
def filterVariables (rules : List FilterRule) (found : OrderedMap Text Text) : OrderedMap Text Text :=
  if rules.isEmpty then found
  else
    let gathered := rules.foldl (fun gathered r => r.gather found.keys gathered) []
    found.filter gathered.contains

end Invocation
