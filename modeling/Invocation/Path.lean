import Invocation.Text.Basic

/-!
# Paths

A path is a root, which may be missing, and names. Slashes that follow one another, a slash at the end, and names that
are a single dot say nothing and are left out; two dots stay, because what they lead to depends on the files.
-/

namespace Invocation

structure Path where
  root : Text
  names : List Text
deriving DecidableEq, Inhabited

namespace Path

/-- Exactly two slashes at the beginning are a root of their own. -/
def ofText (t : Text) : Path :=
  let slashes := (t.takeWhile fun c => c = .scalar '/').length
  { root := if slashes = 0 then [] else if slashes = 2 then "//" else "/"
    names := (t.splitAll fun c => c = .scalar '/').filter fun name => name ≠ [] ∧ name ≠ ("." : Text) }

def text (p : Path) : Text :=
  if p.root.isEmpty && p.names.isEmpty then "." else p.root ++ Text.joinWith "/" p.names

def isAbsolute (p : Path) : Bool := !p.root.isEmpty

/-- The path `q` seen from `p`. -/
def join (p q : Path) : Path := if q.isAbsolute then q else { p with names := p.names ++ q.names }

/-- The directory that holds everything. -/
def top : Path := ⟨"/", []⟩

/-- Two dots taken back together with the name before them. Without such a name they lead nowhere from the top, and
stay in a path that starts elsewhere. -/
def withoutDots (p : Path) : Path :=
  let take := fun (kept : List Text) (name : Text) =>
    if name ≠ ("..": Text) then kept ++ [name]
    else if !p.isAbsolute && kept.getLast?.all (· = ("..": Text)) then kept ++ [name]
    else kept.dropLast
  { p with names := p.names.foldl take [] }

/-- The path itself and every directory above it, up to the root. -/
def ancestors (p : Path) : List Path :=
  (List.range (p.names.length + 1)).map fun n => { p with names := p.names.take (p.names.length - n) }

end Path

end Invocation
