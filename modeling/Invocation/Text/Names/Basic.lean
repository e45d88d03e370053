/-!
# Runs of names

The names of code points that follow one another. Neighbours often begin with the same words, so a name is written
behind the number of words that it shares with the name before it.
-/

namespace Invocation

/-- The number of the first code point of a run, and the names with commas between them. A name may start a line. -/
abbrev NameRun := Nat × String

/-- The words of a name, given those of the name before it. A digit in front is the number of words that stay. -/
def wordsAfter (previous : List String) (entry : String) : List String :=
  match entry.toList.dropWhile Char.isWhitespace with
  | c :: r =>
    if c.isDigit then previous.take (c.toNat - '0'.toNat) ++ (String.ofList r).splitOn " "
    else (String.ofList (c :: r)).splitOn " "
  | [] => [""]

/-- The number of the code point that has the name made of `words`; `number` is that of the first entry. -/
def findName (words : List String) (number : Nat) (previous : List String) : List String → Option Nat
  | [] => none
  | entry :: entries =>
    let found := wordsAfter previous entry
    if found = words then some number else findName words (number + 1) found entries

def NameRun.find? (words : List String) (run : NameRun) : Option Nat :=
  findName words run.1 [] (run.2.splitOn ",")

end Invocation
