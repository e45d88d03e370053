import Invocation.Yaml.Scalar
import Invocation.Yaml.Tag

/-!
# Cutting a document into tokens

Blocks begin and end where the indentation changes. A key can be recognized only by the colon behind it, so the places
where one may have begun are kept in mind until the line ends, and tokens from there on are not certain.
-/

namespace Invocation

namespace Yaml

open Reader

/-! ## Possible keys -/

/-- How far the colon may be from the beginning of its key. -/
def greatestKeyLength : Nat := 1024

def keyActivity (k : PossibleKey) : Activity := ⟨"while scanning a simple key", some k.mark⟩

/-- Places from which no colon can be reached any more are dropped. -/
def dropStaleKeys : Reader Unit := do
  let s ← get
  let isStale := fun (k : PossibleKey) =>
    k.mark.line != s.mark.line || decide (s.mark.index - k.mark.index > greatestKeyLength)
  match s.possibleKeys.find? fun e => isStale e.2 && e.2.required with
  | some (_, k) => fail (keyActivity k) .colonMissing
  | none => set { s with possibleKeys := s.possibleKeys.filter fun e => !isStale e.2 }

/-- No key has begun on the present level. -/
def dropKey : Reader Unit := do
  let s ← get
  match s.possibleKeys.lookup s.flow with
  | some k =>
    if k.required then fail (keyActivity k) .colonMissing
    set { s with possibleKeys := s.possibleKeys.filter fun e => e.1 != s.flow }
  | none => return

/-- A key may begin here. -/
def rememberKey : Reader Unit := do
  if (← get).keyAllowed then
    dropKey
    modify fun s =>
      let required := s.flow == 0 && s.indent == s.mark.column
      { s with possibleKeys := s.possibleKeys ++ [(s.flow, ⟨s.tokens.size, required, s.mark⟩)] }

def allowKey (allowed : Bool) : Reader Unit := modify fun s => { s with keyAllowed := allowed }

/-! ## Indentation -/

/-- The blocks that are indented more than `column` end here. -/
def closeBlocks (column : Int) : List Int → Reader Unit
  | [] => return
  | outer :: others => do
    let s ← get
    if column < s.indent then
      set { s with indent := outer, outer := others, tokens := s.tokens.push ⟨.blockEnd, s.mark⟩ }
      closeBlocks column others

def unwind (column : Int) : Reader Unit := do
  let s ← get
  if s.flow = 0 then closeBlocks column s.outer

/-- Whether a block begins at `column`, which is noted. -/
def openBlock (column : Int) : Reader Bool := do
  let s ← get
  if s.indent < column then
    set { s with outer := s.indent :: s.outer, indent := column }
    return true
  else return false

/-! ## Tokens -/

/-- Blanks, comments and line breaks before the next token. -/
def skipToToken : Nat → Reader Unit
  | 0 => return
  | fuel + 1 => do
    skipSpaces
    skipComment
    let b ← lineBreak
    if b.isEmpty then return
    if !(← inFlow) then allowKey true
    skipToToken fuel

/-- A token made of the next `count` code points. -/
def take (count : Nat) (symbol : Symbol) : Reader Unit := do
  emit (← here) symbol
  forward count

def streamEnd : Reader Unit := do
  unwind (-1)
  dropKey
  modify fun s => { s with keyAllowed := false, possibleKeys := [], finished := true }
  emit (← here) .streamEnd

def documentMark (symbol : Symbol) : Reader Unit := do
  unwind (-1)
  dropKey
  allowKey false
  take 3 symbol

def directiveToken : Reader Unit := do
  unwind (-1)
  dropKey
  allowKey false
  let start ← here
  let symbol ← directive
  emit start symbol

def openFlow (symbol : Symbol) : Reader Unit := do
  rememberKey
  modify fun s => { s with flow := s.flow + 1, keyAllowed := true }
  take 1 symbol

def closeFlow (symbol : Symbol) : Reader Unit := do
  dropKey
  modify fun s => { s with flow := s.flow - 1, keyAllowed := false }
  take 1 symbol

def flowEntry : Reader Unit := do
  allowKey true
  dropKey
  take 1 .flowEntry

/-- A block that begins here, unless it has begun before; `what` is what stands in it. -/
def ensureBlock (what : String) (symbol : Symbol) : Reader Unit := do
  let s ← get
  if s.flow = 0 then
    if !s.keyAllowed then fail none (.notAllowed what)
    if ← openBlock s.mark.column then emit s.mark symbol

def blockEntry : Reader Unit := do
  ensureBlock "sequence entries" .blockSequenceStart
  allowKey true
  dropKey
  take 1 .entry

def explicitKey : Reader Unit := do
  ensureBlock "mapping keys" .blockMappingStart
  allowKey (!(← inFlow))
  dropKey
  take 1 .key

/-- The value of a key that has been recognized by its colon. -/
def valueOfKey (k : PossibleKey) : Reader Unit := do
  modify fun s =>
    { s with
      possibleKeys := s.possibleKeys.filter fun e => e.1 != s.flow
      tokens := s.tokens.insertIdxIfInBounds k.number ⟨.key, k.mark⟩ }
  if !(← inFlow) then
    if ← openBlock k.mark.column then
      modify fun s => { s with tokens := s.tokens.insertIdxIfInBounds k.number ⟨.blockMappingStart, k.mark⟩ }
  allowKey false

def value : Reader Unit := do
  let s ← get
  match s.possibleKeys.lookup s.flow with
  | some k => valueOfKey k
  | none =>
    ensureBlock "mapping values" .blockMappingStart
    allowKey (!(← inFlow))
    dropKey
  take 1 .value

/-- A token that may be a key. -/
def keyToken (read : Reader Symbol) : Reader Unit := do
  rememberKey
  allowKey false
  let start ← here
  let symbol ← read
  emit start symbol

def blockToken (isFolded : Bool) : Reader Unit := do
  allowKey true
  dropKey
  let start ← here
  let content ← blockScalar isFolded
  emit start (.scalar content false)

/-- Whether a plain scalar begins with `c` before `next`. -/
def startsPlain (flow : Bool) (c : CodePoint) (next : Option CodePoint) : Bool :=
  let isIndicator :=
    isBlankOrEnd (some c)
      || c.isOneOf ['-', '?', ':', ',', '[', ']', '\x7b', '\x7d', '#', '&', '*', '!', '|', '>', '\'', '"', '%', '@',
        '\x60']
  !isIndicator || (!isBlankOrEnd next && (c = '-' || (!flow && c.isOneOf ['?', ':'])))

/-- The next token, with the tokens that its indentation brings. -/
def nextToken : Reader Unit := do
  if (← here).index = 0 && (← peek) = some (.scalar '\uFEFF') then forward 1
  skipToToken ((← rest).length + 1)
  dropStaleKeys
  unwind (← here).column
  let flow ← inFlow
  let separator := (← here).column = 0 && (← atSeparator)
  let next ← peekAt 1
  let indicates := flow || isBlankOrEnd next
  match ← peek with
  | none => streamEnd
  | some c =>
    if c = '%' && (← here).column = 0 then directiveToken
    else if separator then documentMark (if c = '-' then .documentStart else .documentEnd)
    else if c = '[' then openFlow .flowSequenceStart
    else if c = '\x7b' then openFlow .flowMappingStart
    else if c = ']' then closeFlow .flowSequenceEnd
    else if c = '\x7d' then closeFlow .flowMappingEnd
    else if c = ',' then flowEntry
    else if c = '-' && isBlankOrEnd next then blockEntry
    else if c = '?' && indicates then explicitKey
    else if c = ':' && indicates then value
    else if c = '*' then keyToken (do return .reference (← anchorName "alias"))
    else if c = '&' then keyToken (do return .anchor (← anchorName "anchor"))
    else if c = '!' then keyToken (do return .tag (← writtenTag))
    else if c = '|' && !flow then blockToken false
    else if c = '>' && !flow then blockToken true
    else if c = '\'' then keyToken (do return .scalar (← quotedScalar false) false)
    else if c = '"' then keyToken (do return .scalar (← quotedScalar true) false)
    else if startsPlain flow c next then keyToken (do return .scalar (← plainScalar) true)
    else fail (some ⟨"while scanning for the next token", none⟩) (.strayCharacter (some c))

/-- Whether more has to be read before the next token is certain: there is none yet, or a key may begin before it. -/
def nextIsUncertain : Reader Bool := do
  let s ← get
  if s.tokens.size ≤ s.certain then return true
  dropStaleKeys
  let numbers := (← get).possibleKeys.map fun e => e.2.number
  return (← get).certain ∈ numbers.min?

/-- Reads until all tokens are certain, never more than the next one of them needs. -/
def allTokens : Nat → Reader Unit
  | 0 => return
  | fuel + 1 => do
    if !(← get).finished then
      if ← nextIsUncertain then nextToken
      else modify fun s => { s with certain := s.certain + 1 }
      allTokens fuel

/-- The tokens of a document, and the fault that ends them if there is one. -/
structure TokenStream where
  tokens : List Token
  fault : Option Fault

/-- A fault hides the tokens that are not certain. Every step reads something or makes one of at most five tokens for
each code point certain. -/
def tokenize (t : Text) : TokenStream :=
  match (allTokens (6 * t.length + 12)).run (.start t) with
  | .ok _ s => ⟨s.tokens.toList, none⟩
  | .error f s => ⟨s.tokens.toList.take s.certain, some f⟩

end Yaml

end Invocation
