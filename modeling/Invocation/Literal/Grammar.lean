import Invocation.Literal.Reader

/-!
# Grammar of expressions

What every kind of expression is made of. A rule gets the readers of all rules, so that it can mention itself. The
parts under `explain` match what is no expression, and say why.
-/

namespace Invocation

namespace Literal

namespace Grammar

open Reader

/-- The readers of all rules. -/
abbrev Rules := Rule → Reader Expression

/-! ## Operators -/

/-- Operands with operators between them, which together are just some expression. -/
def chain (operators : List Text) (operand : Reader Expression) : Reader Expression := do
  let a ← operand
  let more ← many do
    let _ ← oneOf operators
    operand
  return if more.isEmpty then a else .other "expression"

def term (rules : Rules) : Reader Expression := chain ["*", "/", "//", "%", "@"] (rules .factor)

def sum (rules : Rules) : Reader Expression := do
  let a ← term rules
  let more ← many do
    let _ ← oneOf ["+", "-"]
    term rules
  return more.foldl .sum a

def union (rules : Rules) : Reader Expression :=
  chain ["|"] (chain ["^"] (chain ["&"] (chain ["<<", ">>"] (sum rules))))

def power (rules : Rules) : Reader Expression := do
  let base ← first [
    do
      mark "await"
      let _ ← rules .primary
      return .other "await expression",
    rules .primary]
  let exponent ← optional do
    mark "**"
    rules .factor
  return if exponent.isSome then .other "expression" else base

def factor (rules : Rules) : Reader Expression :=
  first [
    do
      let _ ← oneOf ["+", "-"]
      return .signed (← rules .factor),
    do
      mark "~"
      let _ ← rules .factor
      return .other "expression",
    power rules]

/-- Whether a comparison asks for membership. -/
def comparisonOperator : Reader Bool :=
  first [
    (fun t => decide (t.text = ("in" : Text))) <$> oneOf ["==", "!=", "<=", "<", ">=", ">", "in"],
    do
      mark "not"
      mark "in"
      return false,
    do
      mark "is"
      mark "not"
      return false,
    do
      mark "is"
      return false]

def comparison (rules : Rules) : Reader Expression := do
  let a ← rules .union
  let more ← many do
    let isMembership ← comparisonOperator
    let _ ← rules .union
    return isMembership
  return match more with
    | [] => a
    | isMembership :: _ => .comparison a isMembership

def inversion (rules : Rules) : Reader Expression :=
  first [
    do
      mark "not"
      let _ ← rules .inversion
      return .other "expression",
    comparison rules]

/-! ## Expressions -/

/-- Words that were once called without brackets. -/
def isCallWord : Expression → Bool
  | .name t => t = "print" || t = "exec"
  | _ => false

def isSoftWord (t : Token) : Bool := t.kind = .name && (["_", "case", "match"] : List Text).contains t.text

def starred (rules : Rules) : Reader Expression :=
  first [
    do
      mark "*"
      return .starred (← rules .expression),
    do
      mark "*"
      refuse .emptyStar]

/-- Items with commas between them, and perhaps one behind them; a single item without a comma is no tuple. -/
def tupleOrItem (item : Reader Expression) : Reader Expression := do
  let a ← item
  let more ← many do
    mark ","
    item
  let comma ← optional (mark ",")
  return if more.isEmpty && comma.isNone then a else .tuple (a :: more)

def starredExpressions (rules : Rules) : Reader Expression :=
  tupleOrItem (first [
    do
      mark "*"
      return .starred (← rules .union),
    rules .expression])

/-- The names behind `lambda`, with their defaults. -/
def parameter (rules : Rules) : Reader Unit :=
  first [
    do
      let _ ← Reader.name
      let _ ← optional do
        mark "="
        rules .expression
      return (),
    do
      let _ ← oneOf ["*", "**"]
      let _ ← Reader.name
      return (),
    do
      let _ ← oneOf ["*", "/"]
      return ()]

def lambda (rules : Rules) : Reader Expression := do
  mark "lambda"
  first [
    explain do
      let _ ← many do
        let _ ← Reader.name
        mark ","
      mark "("
      let _ ← separated Reader.name
      let _ ← optional (mark ",")
      mark ")"
      refuse .bracketedParameters,
    do
      let _ ← optional (separated (parameter rules))
      mark ":"
      let _ ← rules .expression
      return .other "lambda"]

def plainExpression (rules : Rules) : Reader Expression :=
  first [
    do
      let _ ← rules .disjunction
      mark "if"
      let _ ← rules .disjunction
      mark "else"
      let _ ← rules .expression
      return .other "conditional expression",
    rules .disjunction,
    lambda rules]

def explainExpression (rules : Rules) : Reader Expression :=
  first [
    do
      notAhead (first [
        do
          let _ ← Reader.name
          let _ ← quoted
          return (),
        do
          let _ ← take isSoftWord
          return ()])
      let a ← rules .disjunction
      let _ ← quietly (plainExpression rules)
      if isCallWord a then absent
      if (← previous).depth = 0 then absent
      refuse .missingComma,
    do
      let _ ← rules .disjunction
      mark "if"
      let _ ← rules .disjunction
      notAhead (oneOf ["else", ":"])
      refuse .missingElse,
    do
      let n ← Reader.name
      notAhead (mark "(")
      let _ ← starredExpressions rules
      if isCallWord (.name n) then refuse (.missingCall n)
      absent]

def expression (rules : Rules) : Reader Expression := first [explain (explainExpression rules), plainExpression rules]

/-! ## Comprehensions -/

/-- The first part of the target of a loop that cannot be set. -/
def badTarget? : Expression → Option Expression
  | .tuple items => items.attach.findSome? fun ⟨e, _⟩ => badTarget? e
  | .starred e => badTarget? e
  | .comparison left true => badTarget? left
  | .comparison _ false | .name _ => none
  | .other "attribute" => none
  | e => some e

/-- A name, an attribute, or targets in brackets. -/
def target (rules : Rules) : Reader Expression :=
  first [
    do
      mark "*"
      notAhead (mark "*")
      rules .target,
    do
      match ← rules .primary with
      | .other "attribute" => return .other "attribute"
      | _ => absent,
    .name <$> Reader.name,
    do
      mark "("
      let _ ← optional (tupleOrItem (rules .target))
      mark ")"
      return .tuple []]

def loop (rules : Rules) : Reader Unit :=
  first [
    do
      let _ ← optional (mark "async")
      mark "for"
      let _ ← tupleOrItem (rules .target)
      mark "in"
      settle do
        let _ ← rules .disjunction
        let _ ← many do
          mark "if"
          rules .disjunction
        return (),
    explain do
      let _ ← optional (mark "async")
      mark "for"
      match badTarget? (← starredExpressions rules) with
      | some e => refuse (.setTarget e.described)
      | none => absent]

def loops (rules : Rules) : Reader Unit := do
  let _ ← atLeastOne (loop rules)
  return ()

/-! ## Names for values -/

def naming (rules : Rules) : Reader Expression := do
  let _ ← Reader.name
  mark ":="
  let _ ← rules .expression
  return .other "named expression"

/-- An expression that is not given a name. -/
def unnamed (rules : Rules) : Reader Expression := do
  let e ← rules .expression
  notAhead (mark ":=")
  return e

def namedOrPlain (rules : Rules) : Reader Expression := first [naming rules, unnamed rules]

def generator (rules : Rules) : Reader Expression := do
  mark "("
  let _ ← namedOrPlain rules
  loops rules
  mark ")"
  return .other "generator expression"

def item (rules : Rules) : Reader Expression :=
  first [
    do
      mark "*"
      return .starred (← rules .union),
    rules .named]

def items (rules : Rules) : Reader (List Expression) := do
  let found ← separated (item rules)
  let _ ← optional (mark ",")
  return found

def tuple (rules : Rules) : Reader Expression := do
  mark "("
  let found ← optional do
    let a ← item rules
    mark ","
    return a :: ((← optional (items rules)).getD [])
  mark ")"
  return .tuple (found.getD [])

/-- What cannot be followed by an equals sign by mistake. -/
def cannotBeSet (rules : Rules) : Reader Unit :=
  first [
    do
      let _ ← tuple rules
      return (),
    do
      let _ ← generator rules
      return (),
    do
      let _ ← oneOf ["True", "None", "False"]
      return ()]

def explainNaming (rules : Rules) : Reader Expression :=
  first [
    do
      let a ← rules .expression
      mark ":="
      let _ ← rules .expression
      refuse (.badName a.described),
    do
      let _ ← Reader.name
      mark "="
      let _ ← rules .union
      notAhead (oneOf ["=", ":="])
      refuse .setName,
    do
      notAhead (cannotBeSet rules)
      let a ← rules .union
      mark "="
      let _ ← rules .union
      notAhead (oneOf ["=", ":="])
      refuse (.setOther a.described)]

def named (rules : Rules) : Reader Expression :=
  first [naming rules, explain (explainNaming rules), unnamed rules]

/-! ## Brackets -/

def yielded (rules : Rules) : Reader Expression :=
  first [
    do
      mark "yield"
      mark "from"
      let _ ← rules .expression
      return .other "yield expression",
    do
      mark "yield"
      let _ ← optional (starredExpressions rules)
      return .other "yield expression"]

def group (rules : Rules) : Reader Expression :=
  first [
    do
      mark "("
      let e ← first [yielded rules, rules .named]
      mark ")"
      return e,
    explain do
      mark "("
      let _ ← starred rules
      mark ")"
      refuse .starred,
    explain do
      mark "("
      mark "**"
      let _ ← rules .expression
      mark ")"
      refuse .doubleStarred]

/-- Why what begins with a bracket is no comprehension. -/
def explainComprehension (rules : Rules) : Reader Expression :=
  first [
    do
      let _ ← oneOf ["(", "\x7b"]
      let _ ← starred rules
      loops rules
      refuse .starredComprehension,
    do
      mark "\x7b"
      let _ ← item rules
      mark ","
      let _ ← items rules
      loops rules
      refuse .bareTarget,
    do
      mark "\x7b"
      let _ ← item rules
      mark ","
      loops rules
      refuse .bareTarget]

def parenthesized (rules : Rules) : Reader Expression :=
  first [tuple rules, group rules, generator rules, explain (explainComprehension rules)]

def pair (rules : Rules) : Reader (Option Expression × Expression) := do
  let key ← rules .expression
  mark ":"
  return (some key, ← rules .expression)

def entry (rules : Rules) : Reader (Option Expression × Expression) :=
  first [
    do
      mark "**"
      return (none, ← rules .union),
    pair rules]

def entries (rules : Rules) : Reader (List (Option Expression × Expression)) := do
  let found ← separated (entry rules)
  let _ ← optional (mark ",")
  return found

/-- Why a key is without a value. -/
def explainValue (rules : Rules) : Reader Unit :=
  first [
    do
      let _ ← rules .expression
      mark ":"
      mark "*"
      let _ ← rules .union
      refuse .starredValue,
    do
      let _ ← rules .expression
      mark ":"
      ahead (oneOf ["\x7d", ","])
      refuse .missingValue]

def explainEntries (rules : Rules) : Reader Unit :=
  first [
    do
      let _ ← separated (entry rules)
      mark ","
      first [
        do
          let _ ← rules .expression
          notAhead (mark ":")
          refuse .missingColon,
        explainValue rules],
    explainValue rules]

def braced (rules : Rules) : Reader Expression :=
  first [
    do
      mark "\x7b"
      let found ← optional (entries rules)
      mark "\x7d"
      return .mapping (found.getD []),
    do
      mark "\x7b"
      explainEntries rules
      mark "\x7d"
      absent,
    do
      mark "\x7b"
      let found ← items rules
      mark "\x7d"
      return .set found,
    do
      mark "\x7b"
      let _ ← pair rules
      loops rules
      mark "\x7d"
      return .other "dict comprehension",
    explain do
      mark "\x7b"
      mark "**"
      let _ ← rules .union
      loops rules
      mark "\x7d"
      refuse .unpackedComprehension,
    do
      mark "\x7b"
      let _ ← rules .named
      loops rules
      mark "\x7d"
      return .other "set comprehension",
    explain (explainComprehension rules)]

/-! ## Calls -/

inductive ArgumentKind where
  | positional
  | named
  | unpacked
deriving DecidableEq

def positionalArgument (rules : Rules) : Reader ArgumentKind := do
  let _ ← first [
    starred rules,
    do
      let e ← namedOrPlain rules
      notAhead (mark "=")
      return e]
  return .positional

def explainNamedArgument (rules : Rules) : Reader ArgumentKind :=
  first [
    do
      let t ← oneOf ["True", "False", "None"]
      mark "="
      refuse (.setConstant t.text),
    do
      let _ ← Reader.name
      mark "="
      let _ ← rules .expression
      loops rules
      refuse .setName,
    do
      notAhead do
        let _ ← Reader.name
        mark "="
      let _ ← rules .expression
      mark "="
      refuse .setArgument]

def namedArgument (rules : Rules) : Reader ArgumentKind := do
  let _ ← Reader.name
  mark "="
  let _ ← rules .expression
  return .named

def namedOrStarred (rules : Rules) : Reader ArgumentKind :=
  first [
    explain (explainNamedArgument rules),
    namedArgument rules,
    do
      let _ ← starred rules
      return .positional]

def namedOrUnpacked (rules : Rules) : Reader ArgumentKind :=
  first [
    explain (explainNamedArgument rules),
    namedArgument rules,
    do
      mark "**"
      let _ ← rules .expression
      return .unpacked]

def namedArguments (rules : Rules) : Reader (List ArgumentKind) :=
  first [
    do
      let a ← separated (namedOrStarred rules)
      mark ","
      return a ++ (← separated (namedOrUnpacked rules)),
    separated (namedOrStarred rules),
    separated (namedOrUnpacked rules)]

def arguments (rules : Rules) : Reader (List ArgumentKind) :=
  first [
    do
      let a ← separated (positionalArgument rules)
      let more ← optional do
        mark ","
        namedArguments rules
      return a ++ more.getD [],
    namedArguments rules]

def explainArguments (rules : Rules) : Reader (List ArgumentKind) :=
  first [
    do
      let _ ← arguments rules
      mark ","
      mark "*"
      refuse .starredAfterUnpacked,
    do
      let _ ← rules .expression
      loops rules
      mark ","
      refuse .bareGenerator,
    do
      let _ ← Reader.name
      mark "="
      let _ ← rules .expression
      loops rules
      refuse .setName,
    do
      let a ← arguments rules
      loops rules
      if a.count .positional ≤ 1 then absent
      refuse .bareGenerator,
    do
      let _ ← arguments rules
      mark ","
      let _ ← rules .expression
      loops rules
      refuse .bareGenerator,
    do
      let a ← arguments rules
      mark ","
      let _ ← arguments rules
      refuse (if a.contains .unpacked then .positionalAfterUnpacked else .positionalAfterNamed)]

/-- Whether a call has arguments. -/
def call (rules : Rules) : Reader Bool := do
  mark "("
  let found ← optional (first [
    do
      let a ← arguments rules
      let _ ← optional (mark ",")
      ahead (mark ")")
      return a,
    explain (explainArguments rules)])
  mark ")"
  return found.isSome

/-! ## Atoms -/

/-- Quoted texts that follow one another. Either all or none of them are bytes. -/
def texts : Reader Expression := do
  let found ← atLeastOne quoted
  let isBytes := found.head?.any QuotedText.isBytes
  found.forM fun q => do
    match q.check with
    | .ok () => pure ()
    | .error f => refuse (.escape f)
    if q.isBytes ≠ isBytes then refuse .mixedTexts
  return if found.any QuotedText.isTemplate then .template else .text

def number : Reader Expression := do
  let t ← take fun t =>
    match t.kind with
    | .number _ => true
    | _ => false
  match t.kind with
  | .number (.whole n) => return .whole n
  | .number (.tooLong digits) => refuse (.longInteger digits)
  | .number .real => return .real
  | .number .imaginary => return .imaginary
  | _ => absent

def constant : Reader Expression := do
  let t ← oneOf ["True", "False", "None", "..."]
  return if t.text = "True" then .truth true
    else if t.text = "False" then .truth false
    else if t.text = "None" then .nothing
    else .ellipsis

def atom (rules : Rules) : Reader Expression :=
  first [.name <$> Reader.name, constant, texts, number, parenthesized rules, braced rules]

/-- What may follow an atom, which has been read. -/
def suffix (rules : Rules) (e : Expression) : Reader Expression :=
  first [
    do
      mark "."
      let _ ← Reader.name
      return .other "attribute",
    do
      let _ ← first [generator rules, explain (explainComprehension rules)]
      return .call e false,
    do return .call e (!(← call rules))]

def suffixes (rules : Rules) (e : Expression) : Nat → Reader Expression
  | 0 => pure e
  | n + 1 => first [do suffixes rules (← suffix rules e) n, pure e]

def primary (rules : Rules) : Reader Expression := do
  let e ← atom rules
  fun setting => suffixes rules e setting.tokens.size setting

/-! ## Rules -/

def rule (rules : Rules) : Rules
  | .named => named rules
  | .expression => expression rules
  | .disjunction => chain ["or"] (rules .conjunction)
  | .conjunction => chain ["and"] (rules .inversion)
  | .inversion => inversion rules
  | .union => union rules
  | .factor => factor rules
  | .primary => primary rules
  | .target => target rules

/-- The rules up to a depth of nesting. -/
def rulesTo : Nat → Rules
  | 0 => fun _ => absent
  | depth + 1 => fun r => remember r (rule (rulesTo depth) r)

/-- Rules lead to other rules at most as often as there are rules before a token is used up. -/
def rules : Rules := fun r setting => rulesTo (Rule.count * (setting.tokens.size + 1)) r setting

/-- A whole text. -/
def whole : Reader Expression := do
  let e ← tupleOrItem (rules .expression)
  let _ ← many (take fun t => t.kind = .lineEnd)
  let _ ← take fun t => t.kind = .finish
  return e

end Grammar

end Literal

end Invocation
