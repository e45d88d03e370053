import Invocation.Yaml.Fault

/-!
# Tokens of YAML documents

The tokens mark the beginnings and ends of collections, also of those that only indentation shows.
-/

namespace Invocation

namespace Yaml

/-- The tag of a node as it is written: a handle, which may be missing, and what follows it. -/
structure WrittenTag where
  handle : Option Text
  suffix : Text
deriving DecidableEq

inductive Symbol where
  | streamEnd
  | version (major minor : Nat)
  | tagHandle (handle lead : Text)
  | otherDirective
  | documentStart
  | documentEnd
  | blockSequenceStart
  | blockMappingStart
  | blockEnd
  | flowSequenceStart
  | flowSequenceEnd
  | flowMappingStart
  | flowMappingEnd
  | entry
  | flowEntry
  | key
  | value
  | reference (name : Text)
  | anchor (name : Text)
  | tag (t : WrittenTag)
  | scalar (content : Text) (plain : Bool)
deriving DecidableEq

/-- How a token is named in a report. -/
def Symbol.name : Symbol → String
  | streamEnd => "<stream end>"
  | version _ _ | tagHandle _ _ | otherDirective => "<directive>"
  | documentStart => "<document start>"
  | documentEnd => "<document end>"
  | blockSequenceStart => "<block sequence start>"
  | blockMappingStart => "<block mapping start>"
  | blockEnd => "<block end>"
  | flowSequenceStart => "["
  | flowSequenceEnd => "]"
  | flowMappingStart => "\x7b"
  | flowMappingEnd => "\x7d"
  | entry => "-"
  | flowEntry => ","
  | key => "?"
  | value => ":"
  | reference _ => "<alias>"
  | anchor _ => "<anchor>"
  | tag _ => "<tag>"
  | scalar _ _ => "<scalar>"

def Symbol.isDirective : Symbol → Bool
  | version _ _ | tagHandle _ _ | otherDirective => true
  | _ => false

structure Token where
  symbol : Symbol
  mark : Mark
deriving DecidableEq

/-- The place behind a token of one code point. -/
def Token.behind (t : Token) : Mark := ⟨t.mark.index + 1, t.mark.line, t.mark.column + 1⟩

end Yaml

end Invocation
