import Invocation.Calendar.Basic
import Invocation.Text.Integer
import Invocation.Text.Utf8

/-!
# Faults of YAML documents

Why a document cannot be read: a place where its form breaks, a part that has no value, or a value that is out of
range. A report on the form shows the line with a mark under the place.
-/

namespace Invocation

namespace Yaml

/-! ## Places -/

/-- A place in a document; all numbers begin at zero. -/
structure Mark where
  index : Nat
  line : Nat
  column : Nat
deriving DecidableEq, Inhabited

/-- Line feed, carriage return, next line, line separator, or paragraph separator. -/
def isBreak (c : CodePoint) : Bool := c.isOneOf ['\n', '\r', '\x85', '\u2028', '\u2029']

def isEnd (c : Option CodePoint) : Bool := c.all isBreak

def isSpaceOrEnd (c : Option CodePoint) : Bool := c.all fun d => d.isOneOf [' '] || isBreak d

def isBlankOrEnd (c : Option CodePoint) : Bool := c.all fun d => d.isOneOf [' ', '\t'] || isBreak d

/-- At most `limit` code points, which are shown with a sign of what is left out. A longer text is shortened by five
more to make room for the sign. -/
def shortened (limit : Nat) (t : Text) : Text × Bool :=
  if t.length ≤ limit then (t, false) else (t.take (limit - 4), true)

/-- The line of the mark, shortened at both ends if it is long, and the mark below it. -/
def Mark.snippet (source : Text) (m : Mark) : Text :=
  let (before, cutBefore) := shortened 36 ((source.take m.index).reverse.takeWhile fun c => !isBreak c)
  let (after, cutAfter) := shortened 36 ((source.drop m.index).takeWhile fun c => !isBreak c)
  let lead : Text := if cutBefore then " ... " else []
  let tail : Text := if cutAfter then " ... " else []
  "    " ++ lead ++ before.reverse ++ after ++ tail ++ "\n"
    ++ Text.fill (4 + lead.length + before.length) ' ' ++ "^"

def Mark.text (source : Text) (m : Mark) : Text :=
  "  in \"<unicode string>\", line " ++ Text.ofNat (m.line + 1) ++ ", column " ++ Text.ofNat (m.column + 1) ++ ":\n"
    ++ m.snippet source

/-- Whether two places look the same, although code points without a column may stand between them. -/
def Mark.isShownAt (m n : Mark) : Bool := m.line == n.line && m.column == n.column

/-! ## Form -/

/-- What is wrong with the form of a document. -/
inductive Problem where
  | expected (what : String) (found : Option CodePoint)
  | expectedToken (what : String) (found : String)
  | gotToken (what : String) (found : String)
  | strayCharacter (c : Option CodePoint)
  | unknownEscape (c : Option CodePoint)
  | colonMissing
  | notAllowed (what : String)
  | zeroIndentation
  | endInQuotes
  | separatorInQuotes
  | badUriBytes (e : Utf8.DecodeError)
  | duplicateVersion
  | incompatibleVersion
  | duplicateHandle (handle : Text)
  | unknownHandle (handle : Text)
  | unknownAlias (name : Text)
  | secondAnchor
  | secondDocument
  | unknownTag (tag : Text)
  | wrongNode (wanted found : String)
  | badMerge (wanted found : String)
  | keyIsCollection
  | listExpected (found : String)
  | singlePairMissing (found : String)
  | singlePairExpected (count : Nat)
  | notAscii (e : Text)
  | badBase64 (e : Text)
deriving DecidableEq

def Problem.message : Problem → Text
  | expected what found => "expected " ++ what ++ ", but found " ++ Text.quoted [found.getD '\x00']
  | expectedToken what found => "expected " ++ what ++ ", but found " ++ Text.quoted found
  | gotToken what found => "expected " ++ what ++ ", but got " ++ Text.quoted found
  | strayCharacter c => "found character " ++ Text.quoted [c.getD '\x00'] ++ " that cannot start any token"
  | unknownEscape c => "found unknown escape character " ++ Text.quoted [c.getD '\x00']
  | colonMissing => "could not find expected ':'"
  | notAllowed what => what ++ " are not allowed here"
  | zeroIndentation => "expected indentation indicator in the range 1-9, but found 0"
  | endInQuotes => "found unexpected end of stream"
  | separatorInQuotes => "found unexpected document separator"
  | badUriBytes e => e.message
  | duplicateVersion => "found duplicate YAML directive"
  | incompatibleVersion => "found incompatible YAML document (version 1.* is required)"
  | duplicateHandle handle => "duplicate tag handle " ++ handle.quoted
  | unknownHandle handle => "found undefined tag handle " ++ handle.quoted
  | unknownAlias name => "found undefined alias " ++ name.quoted
  | secondAnchor => "second occurrence"
  | secondDocument => "but found another document"
  | unknownTag tag => "could not determine a constructor for the tag " ++ tag.quoted
  | wrongNode wanted found => "expected a " ++ wanted ++ " node, but found " ++ found
  | badMerge wanted found => "expected " ++ wanted ++ " for merging, but found " ++ found
  | keyIsCollection => "found unhashable key"
  | listExpected found => "expected a sequence, but found " ++ found
  | singlePairMissing found => "expected a mapping of length 1, but found " ++ found
  | singlePairExpected count => "expected a single mapping item, but found " ++ Text.ofNat count ++ " items"
  | notAscii e => "failed to convert base64 data into ascii: " ++ e
  | badBase64 e => "failed to decode base64 data: " ++ e

/-! ## Values -/

/-- Why a scalar has no value of the kind that it should have. -/
inductive ValueFault where
  | codePoint
  | codePointWord
  | integer (base : Nat) (t : Text)
  | digitLimit (count : Nat)
  | float (t : Text)
  | sixtiethsTooLarge
  | truth (t : Text)
  | emptyNumber
  | timestamp
  | timestampOfMapping
  | scalarInItself
  | calendar (f : CalendarFault)
deriving DecidableEq

def ValueFault.message : ValueFault → Text
  | codePoint => "chr() arg not in range(0x110000)"
  | codePointWord => "Python int too large to convert to C int"
  | integer base t => malformedIntegerMessage base t
  | digitLimit count => longIntegerMessage count
  | float t => "could not convert string to float: " ++ t.quoted
  | sixtiethsTooLarge => "int too large to convert to float"
  | truth t => t.quoted
  | emptyNumber => "string index out of range"
  | timestamp => "'NoneType' object has no attribute 'groupdict'"
  | timestampOfMapping => "expected string or bytes-like object, got 'list'"
  | scalarInItself => "maximum recursion depth exceeded"
  | calendar f => f.message

/-! ## Faults -/

/-- What was being done, and where it had begun. -/
structure Activity where
  what : Text
  start : Option Mark
deriving DecidableEq

inductive Fault where
  | form (activity : Option Activity) (problem : Problem) (mark : Option Mark)
  | unprintable (index : Nat) (c : CodePoint)
  | value (f : ValueFault)
deriving DecidableEq

def Fault.message (source : Text) : Fault → Text
  | form activity problem mark =>
    let start := (activity.bind Activity.start).filter fun m => mark.all fun n => !m.isShownAt n
    let lines : List (Option Text) :=
      [activity.map Activity.what, start.map (Mark.text source), some problem.message, mark.map (Mark.text source)]
    Text.joinWith "\n" (lines.filterMap id)
  | unprintable index c =>
    "unacceptable character #x" ++ Text.ofHex 4 c.toNat
      ++ ": special characters are not allowed\n  in \"<unicode string>\", position " ++ Text.ofNat index
  | value f => f.message

end Yaml

end Invocation
