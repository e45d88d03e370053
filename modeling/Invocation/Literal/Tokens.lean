import Invocation.Literal.Number
import Invocation.Text.Identifier
import Invocation.Text.LineBreak
import Invocation.Text.LowerCase
import Invocation.Text.Printable

/-!
# Token lists of literals

The tokens of a text in order, up to its end or to the first place where there is none. Brackets have to match, and
lines end only outside of brackets.
-/

namespace Invocation

namespace Literal

/-! ## Quoted texts -/

/-- The letters that may stand in front of a quoted text. -/
def quotePrefixes : List Text := ["r", "u", "b", "f", "br", "rb", "fr", "rf"]

def isQuote (c : CodePoint) : Bool := c.isOneOf ['"', '\'']

/-- What is known while a quoted text is read: its mark, how many marks end it, how many have been seen in a row, the
line, and the text so far in reverse. -/
structure Quotation where
  mark : CodePoint
  size : Nat
  seen : Nat
  line : Nat
  reversed : Text

/-- The end of a quoted text: its body, its last line, and what follows it. -/
def Quotation.close (q : Quotation) : Text → Except TokenFault (Text × Nat × Text)
  | [] => throw (.unterminated (q.size = 3) q.line)
  | c :: r =>
    if c = '\n' ∧ q.size = 1 then throw (.unterminated false q.line)
    else
      let line := if c = '\n' then q.line + 1 else q.line
      if c = q.mark then
        if q.seen + 1 = q.size then return ((q.reversed.drop q.seen).reverse, line, r)
        else close { q with seen := q.seen + 1, reversed := c :: q.reversed } r
      else if c = '\\' then
        match r with
        | d :: r =>
          close { q with seen := 0, line := if d = '\n' then line + 1 else line, reversed := d :: c :: q.reversed } r
        | [] => throw (.unterminated (q.size = 3) line)
      else close { q with seen := 0, line, reversed := c :: q.reversed } r

/-- The quoted text behind its letters. Two marks are an empty text unless a third one follows them. -/
def quotedOf (line : Nat) : Text → Except TokenFault (Text × Nat × Text)
  | a :: b :: r =>
    if a = b then
      if r.head? = some a then Quotation.close ⟨a, 3, 0, line, []⟩ (r.drop 1) else return ([], line, r)
    else Quotation.close ⟨a, 1, 0, line, []⟩ (b :: r)
  | _ => throw (.unterminated false line)

/-! ## Names -/

def reservedWords : List Text :=
  Text.words "False None True and as assert async await break class continue def del elif else except finally for from
    global if import in is lambda nonlocal not or pass raise return try while with yield"

/-- A name may hold no code point that is neither ASCII nor part of an identifier. -/
def checkName (name : Text) : Except TokenFault Unit :=
  let isBad := fun (c : CodePoint) (i : Nat) =>
    !(c = '_' || (if i = 0 then identifierStart.contains c else identifierRest.contains c))
  match name.zipIdx.find? fun (c, i) => isBad c i with
  | some (c, _) => throw (if c.isPrintable then .badCharacter c else .invisibleCharacter c)
  | none => return ()

/-! ## Marks -/

/-- Operators of more than one character, longer ones first. -/
def longOperators : List Text :=
  ["**=", "//=", ">>=", "<<=", "...", "==", "!=", "<=", ">=", "<>", "->", ":=", "+=", "-=", "*=", "/=", "%=", "&=",
    "|=", "^=", "@=", "//", "**", "<<", ">>"]

def operatorOf (c : CodePoint) (r : Text) : Text :=
  (longOperators.find? fun o => Text.startsWith (c :: r) o).getD [c]

/-- The opening bracket for a closing one. -/
def opening? (c : CodePoint) : Option CodePoint :=
  if c = ')' then some '(' else if c = ']' then some '[' else if c = '}' then some '\x7b' else none

/-! ## Tokens -/

/-- A place in a text: its line, and the brackets that are open with their lines, innermost first. -/
structure Place where
  line : Nat
  opened : List (CodePoint × Nat)

namespace Place

def token (p : Place) (kind : TokenKind) (text : Text) : Token := ⟨kind, text, p.opened.length, p.line⟩

/-- The place behind a bracket or another operator. -/
def after (p : Place) (c : CodePoint) : Except TokenFault Place :=
  if c.isOneOf ['(', '[', '\x7b'] then
    if 200 ≤ p.opened.length then throw .tooDeep else return { p with opened := (c, p.line) :: p.opened }
  else
    match opening? c, p.opened with
    | none, _ => return p
    | some _, [] => throw (.unmatched c)
    | some o, (bracket, line) :: outer =>
      if o = bracket then return { p with opened := outer }
      else throw (.mismatched c bracket (if line = p.line then none else some line))

/-- What is wrong at the end of a text. -/
def endFault? (p : Place) : Option TokenFault := p.opened.head?.map fun (bracket, line) => .unclosed bracket line

end Place

/-- A token, the place behind it, and the rest of the text. -/
abbrev Scanned := Token × Place × Text

def scanQuoted (p : Place) (letters t : Text) : Except TokenFault Scanned := do
  let (body, line, rest) ← quotedOf p.line t
  let p := { p with line }
  return (p.token (.quoted ⟨letters.lower, body⟩) [], p, rest)

/-- The token that a text begins with, which has at least one code point. -/
def scanToken (p : Place) (c : CodePoint) (r : Text) : Except TokenFault Scanned := do
  let t := c :: r
  let name := t.takeWhile isNamePart
  let rest := t.dropWhile isNamePart
  if c.isAsciiDigit || (c = '.' && r.head?.any CodePoint.isAsciiDigit) then
    let (n, rest) ← numberOf t
    return (p.token (.number n) [], p, rest)
  else if !name.isEmpty then
    if rest.head?.any isQuote && quotePrefixes.contains (Text.asciiLower name) then scanQuoted p name rest
    else
      checkName name
      return (p.token (if reservedWords.contains name then .mark else .name) name, p, rest)
  else if isQuote c then scanQuoted p [] t
  else
    let operator := operatorOf c r
    if operator.length = 1 && !c.isPrintable then throw (.invisibleCharacter c)
    let p ← p.after c
    return (p.token .mark operator, p, t.drop operator.length)

def isGap (c : CodePoint) : Bool := c.isOneOf [' ', '\t', '\x0c']

/-- A list of tokens with the fault at its end, if there is one. -/
structure TokenList where
  tokens : List Token
  fault : Option TokenFault

def TokenList.push (t : Token) (l : TokenList) : TokenList := { l with tokens := t :: l.tokens }

/-- The tokens of a text, given the place, and whether a line begins there. Every step uses up a code point or leaves
the beginning of a line. -/
def tokensFrom (fuel : Nat) (p : Place) (beginsLine : Bool) (t : Text) : TokenList :=
  match fuel with
  | 0 => ⟨[], none⟩
  | fuel + 1 =>
    match t.dropWhile isGap with
    | [] =>
      match p.endFault? with
      | some f => ⟨[], some f⟩
      | none => ⟨[p.token .finish []], none⟩
    | c :: r =>
      if c = '#' then tokensFrom fuel p beginsLine (r.dropWhile fun c => c ≠ .scalar '\n')
      else if c = '\n' then
        let next := tokensFrom fuel { p with line := p.line + 1 } (beginsLine || p.opened.isEmpty) r
        if beginsLine || !p.opened.isEmpty then next else next.push (p.token .lineEnd [])
      else if c = '\\' then
        match r with
        | .scalar '\n' :: [] => ⟨[], some (p.endFault?.getD .endOfText)⟩
        | .scalar '\n' :: r => tokensFrom fuel { p with line := p.line + 1 } false r
        | _ => ⟨[], some .badContinuation⟩
      else if beginsLine && t.head?.any isGap then
        (tokensFrom fuel p false (c :: r)).push (p.token .indent [])
      else
        match scanToken p c r with
        | .ok (token, p, rest) => (tokensFrom fuel p false rest).push token
        | .error f => ⟨[], some f⟩

/-- The tokens of a text. -/
def TokenList.ofText (t : Text) : TokenList :=
  let t := t.normalizeBreaks
  tokensFrom (2 * t.length + 2) ⟨1, []⟩ true (t.dropWhile isGap)

end Literal

end Invocation
