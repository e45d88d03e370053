/-!
# Text

A text is a list of code points. A code point is a Unicode scalar value or a surrogate that stands alone:
property files and quoted scalars may spell one, and it has to survive until it is printed.
-/

namespace Invocation

inductive CodePoint where
  | scalar (c : Char)
  | surrogate (i : Fin 2048)
deriving DecidableEq, Inhabited

abbrev Text := List CodePoint

instance : Coe Char CodePoint := ⟨.scalar⟩

/-! ## Code points -/

namespace CodePoint

def toNat : CodePoint → Nat
  | scalar c => c.toNat
  | surrogate i => 0xD800 + i.val

/-- Numbers above the last code point have none. -/
def ofNat? (n : Nat) : Option CodePoint :=
  if h : 0xD800 ≤ n ∧ n < 0xE000 then some (surrogate ⟨n - 0xD800, by omega⟩)
  else if n < 0x110000 then some (scalar (Char.ofNat n))
  else none

def isSurrogate : CodePoint → Bool
  | scalar _ => false
  | surrogate _ => true

def isHighSurrogate (c : CodePoint) : Bool := 0xD800 ≤ c.toNat && c.toNat < 0xDC00

def isLowSurrogate (c : CodePoint) : Bool := 0xDC00 ≤ c.toNat && c.toNat < 0xE000

def isOneOf (c : CodePoint) (cs : List Char) : Bool := cs.any fun d => decide (c = scalar d)

def isBetween (c : CodePoint) (low high : Char) : Bool := low.toNat ≤ c.toNat && c.toNat ≤ high.toNat

def isAsciiLower (c : CodePoint) : Bool := c.isBetween 'a' 'z'

def isAsciiUpper (c : CodePoint) : Bool := c.isBetween 'A' 'Z'

def isAsciiLetter (c : CodePoint) : Bool := c.isAsciiLower || c.isAsciiUpper

def isAsciiDigit (c : CodePoint) : Bool := c.isBetween '0' '9'

def isAsciiAlphanumeric (c : CodePoint) : Bool := c.isAsciiLetter || c.isAsciiDigit

/-- The value of an ASCII digit in any base up to sixteen. -/
def digit? (c : CodePoint) : Option Nat :=
  if c.isBetween '0' '9' then some (c.toNat - 48)
  else if c.isBetween 'a' 'f' then some (c.toNat - 87)
  else if c.isBetween 'A' 'F' then some (c.toNat - 55)
  else none

def isHexDigit (c : CodePoint) : Bool := c.digit?.isSome

/-- Lower case of the ASCII letters; every other code point stays. -/
def asciiLower (c : CodePoint) : CodePoint :=
  if c.isAsciiUpper then scalar (Char.ofNat (c.toNat + 32)) else c

/-- Upper case of the ASCII letters; every other code point stays. -/
def asciiUpper (c : CodePoint) : CodePoint :=
  if c.isAsciiLower then scalar (Char.ofNat (c.toNat - 32)) else c

end CodePoint

/-! ## Texts -/

namespace Text

def ofString (s : String) : Text := s.toList.map .scalar

instance : Coe String Text := ⟨ofString⟩

def ofNat (n : Nat) : Text := ofString (Nat.repr n)

def ofInt : Int → Text
  | .ofNat n => ofNat n
  | .negSucc n => CodePoint.scalar '-' :: ofNat (n + 1)

/-- The string of a text without surrogates. -/
def toString? (t : Text) : Option String :=
  (t.mapM fun | CodePoint.scalar c => some c | CodePoint.surrogate _ => none).map String.ofList

def hasSurrogate (t : Text) : Bool := t.any CodePoint.isSurrogate

def asciiLower (t : Text) : Text := t.map CodePoint.asciiLower

def asciiUpper (t : Text) : Text := t.map CodePoint.asciiUpper

/-- The texts in order, with `separator` between each two. -/
def joinWith (separator : Text) (ts : List Text) : Text := List.intercalate separator ts

/-- The pieces between the code points that satisfy `p`; there is always one more of them than separators. -/
def splitAll (p : CodePoint → Bool) : Text → List Text
  | [] => [[]]
  | c :: r =>
    match p c, splitAll p r with
    | true, pieces => [] :: pieces
    | false, piece :: pieces => (c :: piece) :: pieces
    | false, [] => [[c]]

/-- What stands before and after the first `c`. -/
def cutAt (c : CodePoint) : Text → Option (Text × Text)
  | [] => none
  | d :: r => if d = c then some ([], r) else (cutAt c r).map fun (a, b) => (d :: a, b)

/-- What follows `lead` in `t`. -/
def after? (lead t : Text) : Option Text :=
  match lead, t with
  | [], t => some t
  | _ :: _, [] => none
  | a :: lead, b :: t => if a = b then after? lead t else none

def startsWith (t lead : Text) : Bool := (after? lead t).isSome

def dropTrailing (p : CodePoint → Bool) : Text → Text
  | [] => []
  | c :: r =>
    match dropTrailing p r with
    | [] => if p c then [] else [c]
    | kept => c :: kept

/-- The same code point `count` times. -/
def fill (count : Nat) (c : Char) : Text := List.replicate count (.scalar c)

/-- At least `width` code points, with `c` put in front of a shorter text. -/
def padLeft (width : Nat) (c : Char) (t : Text) : Text := fill (width - t.length) c ++ t

/-- The number with at least `width` decimal digits. -/
def ofNatPadded (width n : Nat) : Text := padLeft width '0' (ofNat n)

/-- The value of a text of digits below `base`, with nothing else in it. -/
def toNat? (base : Nat) (t : Text) : Option Nat :=
  if t.isEmpty then none
  else t.foldlM (fun n c => c.digit?.bind fun d => if d < base then some (n * base + d) else none) 0

end Text

end Invocation
