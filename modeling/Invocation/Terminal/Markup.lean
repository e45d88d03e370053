import Invocation.Terminal.Emoji
import Invocation.Terminal.Handler
import Invocation.Terminal.Marked
import Invocation.Terminal.Style

/-!
# Markup

A tag in square brackets opens a style, and one with a slash closes it; tags are not shown. A backslash before a tag
makes it plain text, and two backslashes before a tag are one.
-/

namespace Invocation

namespace Terminal

/-! ## Tags -/

/-- What stands between the brackets of a tag, and what follows it. -/
def tagBody? : Text → Option (Text × Text)
  | [] => none
  | c :: r =>
    if c = '[' then none
    else if c = ']' then some ([], r)
    else (tagBody? r).map fun (body, rest) => (c :: body, rest)

def isBackslash (c : CodePoint) : Bool := c = '\\'

/-- A tag begins with a small letter, a hash sign, a slash or an at sign. -/
def startsTag (c : CodePoint) : Bool := c.isAsciiLower || c.isOneOf ['#', '/', '@']

/-- A tag with the number of backslashes before it. -/
structure TagMatch where
  backslashes : Nat
  body : Text

namespace TagMatch

/-- The tag that a text begins with, behind any number of backslashes. -/
def ofText? (t : Text) : Option TagMatch :=
  match t.dropWhile isBackslash with
  | .scalar '[' :: c :: r =>
    if startsTag c then (tagBody? (c :: r)).map fun (body, _) => ⟨(t.takeWhile isBackslash).length, body⟩
    else none
  | _ => none

def length (m : TagMatch) : Nat := m.backslashes + m.body.length + 2

/-- The tag as it is written, without backslashes. -/
def text (m : TagMatch) : Text := "[" ++ m.body ++ "]"

end TagMatch

/-! ## Escaping -/

/-- Escapes the tags, after `skip` code points that are used up. -/
def escapeTags (skip : Nat) : Text → Text
  | [] => []
  | c :: r =>
    match skip with
    | skip + 1 => escapeTags skip r
    | 0 =>
      match TagMatch.ofText? (c :: r) with
      | some m => Text.fill (2 * m.backslashes + 1) '\\' ++ m.text ++ escapeTags (m.length - 1) r
      | none => c :: escapeTags 0 r

/-- A single backslash at the end is doubled, because a tag may follow. -/
def escapeMarkup (t : Text) : Text :=
  let escaped := escapeTags 0 t
  match escaped.reverse with
  | .scalar '\\' :: .scalar '\\' :: _ => escaped
  | .scalar '\\' :: _ => escaped ++ "\\"
  | _ => escaped

/-! ## Reading -/

inductive MarkupPiece where
  | plain (t : Text)
  /-- A tag and its place in the markup. -/
  | tag (position : Nat) (body : Text)

def TagMatch.pieces (m : TagMatch) (position : Nat) : List MarkupPiece :=
  let half := m.backslashes / 2
  let shown := if half = 0 then [] else [.plain (Text.fill half '\\')]
  shown ++ [if m.backslashes % 2 = 1 then .plain m.text else .tag (position + 2 * half) m.body]

def plainPiece (reversed : Text) : List MarkupPiece := if reversed.isEmpty then [] else [.plain reversed.reverse]

/-- The pieces of a markup text from `position` on, given the plain text before it in reverse and the number of code
points that are used up. -/
def markupPieces (position : Nat) (before : Text) (skip : Nat) : Text → List MarkupPiece
  | [] => plainPiece before
  | c :: r =>
    match skip with
    | skip + 1 => markupPieces (position + 1) before skip r
    | 0 =>
      match TagMatch.ofText? (c :: r) with
      | some m => plainPiece before ++ m.pieces position ++ markupPieces (position + 1) [] (m.length - 1) r
      | none => markupPieces (position + 1) (c :: before) 0 r

inductive MarkupFault where
  | unmatched (tag : Text) (position : Nat)
  | nothingOpen (position : Nat)
  | style (f : ComponentFault)
  | handler (f : HandlerFault)
deriving DecidableEq

def MarkupFault.message : MarkupFault → Text
  | unmatched tag position =>
    "closing tag '[" ++ tag ++ "]' at position " ++ Text.ofNat position ++ " doesn't match any open tag"
  | nothingOpen position => "closing tag '[/]' at position " ++ Text.ofNat position ++ " has nothing to close"
  | style f => f.message
  | handler f => f.message

/-- A tag that is open: the normal form of its name, what stands behind an equals sign, and where the tag begins in the
text that is shown. -/
structure OpenTag where
  name : Text
  parameters : Option Text
  start : Nat

namespace OpenTag

def ofBody (start : Nat) (body : Text) : Except MarkupFault OpenTag := do
  let (written, parameters) :=
    match Text.cutAt '=' body with
    | some (name, parameters) => (name, some parameters)
    | none => (body, none)
  return ⟨← (normalStyle written).mapError .style, parameters, start⟩

def isHandler (tag : OpenTag) : Bool := tag.name.head? = some (.scalar '@')

/-- The stretch of a tag up to where it ends. -/
def span (tag : OpenTag) (stop : Nat) : Span where
  start := tag.start
  stop := stop
  style :=
    match tag.parameters with
    | some p => tag.name ++ " " ++ p
    | none => tag.name

end OpenTag

/-- What is known behind some tags: the open ones, innermost first, and the stretches of the closed ones, the last one
first. -/
structure Tags where
  opened : List OpenTag
  closed : List Span

namespace Tags

def empty : Tags := ⟨[], []⟩

/-- The tags after `tag`, which is open, has been closed. The parameters of a handler have to make sense by then. -/
def close (tags : Tags) (stop : Nat) (tag : OpenTag) : Except MarkupFault Tags := do
  if tag.isHandler then
    tag.parameters.forM fun p => do
      if !p.isEmpty then (checkHandler p).mapError .handler
  return ⟨tags.opened.eraseP fun t => t.name = tag.name, tag.span stop :: tags.closed⟩

/-- The tags after one more, behind `shown` code points of text. A closing tag without a name closes the innermost
tag. -/
def push (tags : Tags) (shown position : Nat) (body : Text) : Except MarkupFault Tags :=
  match body with
  | .scalar '/' :: r =>
    match tags.opened, Text.trim (r.takeWhile fun c => c ≠ .scalar '=') with
    | [], [] => throw (.nothingOpen position)
    | tag :: _, [] => tags.close shown tag
    | opened, written => do
      let name ← (normalStyle written).mapError .style
      match opened.find? fun tag => tag.name = name with
      | some tag => tags.close shown tag
      | none => throw (.unmatched body position)
  | body => return { tags with opened := (← OpenTag.ofBody shown body) :: tags.opened }

/-- All stretches by where they start. Tags that are open at the end are closed there, and of two stretches with one
start the one that is closed later comes first. -/
def spans (tags : Tags) (stop : Nat) : List Span :=
  (tags.opened.reverse.map (fun tag => tag.span stop) ++ tags.closed).mergeSort fun a b => a.start ≤ b.start

end Tags

/-- A bracket behind a backslash that belongs to no tag is a bracket. -/
def dropBracketEscapes : Text → Text
  | .scalar '\\' :: .scalar '[' :: r => .scalar '[' :: dropBracketEscapes r
  | c :: r => c :: dropBracketEscapes r
  | [] => []

/-- The pieces put together behind `shown` code points of text. -/
def MarkedText.ofPieces (tags : Tags) (shown : Nat) : List MarkupPiece → Except MarkupFault MarkedText
  | [] => return ⟨[], tags.spans shown⟩
  | .plain t :: ps => do
    let piece := withoutMoves (withEmoji (dropBracketEscapes t))
    let m ← ofPieces tags (shown + piece.length) ps
    return { m with text := piece ++ m.text }
  | .tag position body :: ps => do ofPieces (← tags.push shown position body) shown ps

namespace MarkedText

def ofMarkup (t : Text) : Except MarkupFault MarkedText := ofPieces .empty 0 (markupPieces 0 [] 0 t)

/-- The lines of the text, if every style that is left in them can be drawn. Without any room nothing is drawn. -/
def drawn (o : Overflow) (width : Nat) (m : MarkedText) : Except MarkupFault (List Text) :=
  if width = 0 then return []
  else
    (m.wrapped o width).mapM fun line => do
      line.spans.forM fun s => do
        let _ ← (styleOf? s.style).mapError .style
      return line.text

end MarkedText

end Terminal

end Invocation
