import Invocation.Text.Names.Abugidas
import Invocation.Text.Names.Alphabets
import Invocation.Text.Names.Ancient
import Invocation.Text.Names.Extensions
import Invocation.Text.Names.Hieroglyphs
import Invocation.Text.Names.Mathematics
import Invocation.Text.Names.Notation
import Invocation.Text.Names.Pictographs
import Invocation.Text.Names.Signs
import Invocation.Text.Names.Syllables
import Invocation.Text.Basic

/-!
# Names of code points

Every assigned code point has a name, and some have further ones. The names of ideographs and of Korean syllables follow
from their numbers; for these alone the case of the name counts.
-/

namespace Invocation

/-! ## Names that follow from numbers -/

/-- Numbers of ideographs. -/
def ideographRanges : List (Nat × Nat) := [
  (0x3400, 0x4DBF), (0x4E00, 0x9FFF), (0x20000, 0x2A6DF), (0x2A700, 0x2B738), (0x2B740, 0x2B81D), (0x2B820, 0x2CEA1),
  (0x2CEB0, 0x2EBE0), (0x30000, 0x3134A)]

/-- Names that end in the number of the code point, and the numbers for which they are used. -/
def numberedNames : List (String × Nat × Nat) := [
  ("CJK COMPATIBILITY IDEOGRAPH-", 0xF900, 0xFA6D), ("CJK COMPATIBILITY IDEOGRAPH-", 0xFA70, 0xFAD9),
  ("CJK COMPATIBILITY IDEOGRAPH-", 0x2F800, 0x2FA1D), ("KHITAN SMALL SCRIPT CHARACTER-", 0x18B00, 0x18CD5),
  ("NUSHU CHARACTER-", 0x1B170, 0x1B2FB)]

def isWithin (ranges : List (Nat × Nat)) (n : Nat) : Bool := ranges.any fun r => r.1 ≤ n && n ≤ r.2

/-- The value of a number of four or five digits with capitals only. -/
def capitalHex? (t : Text) : Option Nat :=
  if (t.length = 4 ∨ t.length = 5) ∧ t.all (fun c => c.isAsciiDigit || c.isBetween 'A' 'F') then Text.toNat? 16 t
  else none

def ideograph? (digits : Text) : Option Nat := (capitalHex? digits).filter (isWithin ideographRanges)

def numbered? (name : Text) : Option Nat :=
  numberedNames.findSome? fun (lead, first, last) =>
    ((Text.after? lead name).bind capitalHex?).filter fun n => first ≤ n && n ≤ last

/-- The selectors of variants are numbered from one. -/
def selector? (name : Text) : Option Nat :=
  (((Text.after? "VS" name).bind (Text.toNat? 10)).filter fun n =>
      1 ≤ n && n ≤ 256 && name == ("VS" : Text) ++ Text.ofNat n).map
    fun n => if n ≤ 16 then 0xFE00 + (n - 1) else 0xE0100 + (n - 17)

/-! ## Syllables -/

def syllableLeads : List String :=
  ["G", "GG", "N", "D", "DD", "R", "M", "B", "BB", "S", "SS", "", "J", "JJ", "C", "K", "T", "P", "H"]

def syllableVowels : List String :=
  ["A", "AE", "YA", "YAE", "EO", "E", "YEO", "YE", "O", "WA", "WAE", "OE", "YO", "U", "WEO", "WE", "WI", "YU", "EU",
    "YI", "I"]

def syllableTails : List String :=
  ["", "G", "GG", "GS", "N", "NJ", "NH", "D", "L", "LG", "LM", "LB", "LS", "LT", "LP", "LH", "M", "B", "BS", "S", "SS",
    "NG", "J", "C", "K", "T", "P", "H"]

/-- The longest of the parts with which the text begins, by its place among them, and what follows it. -/
def longestPart (parts : List String) (t : Text) : Option (Nat × Text) :=
  parts.zipIdx.foldl (fun best (part, index) =>
    match Text.after? part t, best with
    | some rest, some (_, found) => if rest.length < found.length then some (index, rest) else best
    | some rest, none => some (index, rest)
    | none, _ => best) none

/-- The number of a Korean syllable, from its three parts. -/
def syllable? (t : Text) : Option Nat := do
  let (lead, t) ← longestPart syllableLeads t
  let (vowel, t) ← longestPart syllableVowels t
  let (tail, t) ← longestPart syllableTails t
  if t.isEmpty then return 0xAC00 + (lead * 21 + vowel) * 28 + tail else failure

/-! ## All names -/

/-- Names besides the first one. -/
def furtherNames : List (Nat × String) := [
  (0x0, "NUL,NULL"), (0x1, "SOH,START OF HEADING"), (0x2, "START OF TEXT,STX"), (0x3, "END OF TEXT,ETX"),
  (0x4, "END OF TRANSMISSION,EOT"), (0x5, "ENQ,ENQUIRY"), (0x6, "ACK,ACKNOWLEDGE"), (0x7, "ALERT,BEL"),
  (0x8, "BACKSPACE,BS"), (0x9, "CHARACTER TABULATION,HORIZONTAL TABULATION,HT,TAB"),
  (0xA, "END OF LINE,EOL,LF,LINE FEED,NEW LINE,NL"), (0xB, "LINE TABULATION,VERTICAL TABULATION,VT"),
  (0xC, "FF,FORM FEED"), (0xD, "CARRIAGE RETURN,CR"), (0xE, "LOCKING-SHIFT ONE,SHIFT OUT,SO"),
  (0xF, "LOCKING-SHIFT ZERO,SHIFT IN,SI"), (0x10, "DATA LINK ESCAPE,DLE"), (0x11, "DC1,DEVICE CONTROL ONE"),
  (0x12, "DC2,DEVICE CONTROL TWO"), (0x13, "DC3,DEVICE CONTROL THREE"), (0x14, "DC4,DEVICE CONTROL FOUR"),
  (0x15, "NAK,NEGATIVE ACKNOWLEDGE"), (0x16, "SYN,SYNCHRONOUS IDLE"), (0x17, "END OF TRANSMISSION BLOCK,ETB"),
  (0x18, "CAN,CANCEL"), (0x19, "END OF MEDIUM,EOM"), (0x1A, "SUB,SUBSTITUTE"), (0x1B, "ESC,ESCAPE"),
  (0x1C, "FILE SEPARATOR,FS,INFORMATION SEPARATOR FOUR"),
  (0x1D, "GROUP SEPARATOR,GS,INFORMATION SEPARATOR THREE"),
  (0x1E, "INFORMATION SEPARATOR TWO,RECORD SEPARATOR,RS"),
  (0x1F, "INFORMATION SEPARATOR ONE,UNIT SEPARATOR,US"), (0x20, "SP"), (0x7F, "DEL,DELETE"),
  (0x80, "PAD,PADDING CHARACTER"), (0x81, "HIGH OCTET PRESET,HOP"), (0x82, "BPH,BREAK PERMITTED HERE"),
  (0x83, "NBH,NO BREAK HERE"), (0x84, "IND,INDEX"), (0x85, "NEL,NEXT LINE"),
  (0x86, "SSA,START OF SELECTED AREA"), (0x87, "END OF SELECTED AREA,ESA"),
  (0x88, "CHARACTER TABULATION SET,HORIZONTAL TABULATION SET,HTS"),
  (0x89, "CHARACTER TABULATION WITH JUSTIFICATION,HORIZONTAL TABULATION WITH JUSTIFICATION,HTJ"),
  (0x8A, "LINE TABULATION SET,VERTICAL TABULATION SET,VTS"),
  (0x8B, "PARTIAL LINE DOWN,PARTIAL LINE FORWARD,PLD"), (0x8C, "PARTIAL LINE BACKWARD,PARTIAL LINE UP,PLU"),
  (0x8D, "REVERSE INDEX,REVERSE LINE FEED,RI"), (0x8E, "SINGLE SHIFT TWO,SINGLE-SHIFT-2,SS2"),
  (0x8F, "SINGLE SHIFT THREE,SINGLE-SHIFT-3,SS3"), (0x90, "DCS,DEVICE CONTROL STRING"),
  (0x91, "PRIVATE USE ONE,PRIVATE USE-1,PU1"), (0x92, "PRIVATE USE TWO,PRIVATE USE-2,PU2"),
  (0x93, "SET TRANSMIT STATE,STS"), (0x94, "CANCEL CHARACTER,CCH"), (0x95, "MESSAGE WAITING,MW"),
  (0x96, "SPA,START OF GUARDED AREA,START OF PROTECTED AREA"),
  (0x97, "END OF GUARDED AREA,END OF PROTECTED AREA,EPA"), (0x98, "SOS,START OF STRING"),
  (0x99, "SGC,SINGLE GRAPHIC CHARACTER INTRODUCER"), (0x9A, "SCI,SINGLE CHARACTER INTRODUCER"),
  (0x9B, "CONTROL SEQUENCE INTRODUCER,CSI"), (0x9C, "ST,STRING TERMINATOR"),
  (0x9D, "OPERATING SYSTEM COMMAND,OSC"), (0x9E, "PM,PRIVACY MESSAGE"),
  (0x9F, "APC,APPLICATION PROGRAM COMMAND"), (0xA0, "NBSP"), (0xAD, "SHY"), (0x1A2, "LATIN CAPITAL LETTER GHA"),
  (0x1A3, "LATIN SMALL LETTER GHA"), (0x34F, "CGJ"), (0x61C, "ALM"),
  (0x709, "SYRIAC SUBLINEAR COLON SKEWED LEFT"), (0xCDE, "KANNADA LETTER LLLA"), (0xE9D, "LAO LETTER FO FON"),
  (0xE9F, "LAO LETTER FO FAY"), (0xEA3, "LAO LETTER RO"), (0xEA5, "LAO LETTER LO"),
  (0xFD0, "TIBETAN MARK BKA- SHOG GI MGO RGYAN"), (0x11EC, "HANGUL JONGSEONG YESIEUNG-KIYEOK"),
  (0x11ED, "HANGUL JONGSEONG YESIEUNG-SSANGKIYEOK"), (0x11EE, "HANGUL JONGSEONG SSANGYESIEUNG"),
  (0x11EF, "HANGUL JONGSEONG YESIEUNG-KHIEUKH"), (0x180B, "FVS1"), (0x180C, "FVS2"), (0x180D, "FVS3"),
  (0x180E, "MVS"), (0x180F, "FVS4"), (0x200B, "ZWSP"), (0x200C, "ZWNJ"), (0x200D, "ZWJ"), (0x200E, "LRM"),
  (0x200F, "RLM"), (0x202A, "LRE"), (0x202B, "RLE"), (0x202C, "PDF"), (0x202D, "LRO"), (0x202E, "RLO"),
  (0x202F, "NNBSP"), (0x205F, "MMSP"), (0x2060, "WJ"), (0x2066, "LRI"), (0x2067, "RLI"), (0x2068, "FSI"),
  (0x2069, "PDI"), (0x2118, "WEIERSTRASS ELLIPTIC FUNCTION"), (0x2448, "MICR ON US SYMBOL"),
  (0x2449, "MICR DASH SYMBOL"), (0x2B7A, "LEFTWARDS TRIANGLE-HEADED ARROW WITH DOUBLE VERTICAL STROKE"),
  (0x2B7C, "RIGHTWARDS TRIANGLE-HEADED ARROW WITH DOUBLE VERTICAL STROKE"),
  (0xA015, "YI SYLLABLE ITERATION MARK"), (0xAA6E, "MYANMAR LETTER KHAMTI LLA"),
  (0xFE18, "PRESENTATION FORM FOR VERTICAL RIGHT WHITE LENTICULAR BRACKET"),
  (0xFEFF, "BOM,BYTE ORDER MARK,ZWNBSP"), (0x122D4, "CUNEIFORM SIGN NU11 TENU"),
  (0x122D5, "CUNEIFORM SIGN NU11 OVER NU11 BUR OVER BUR"), (0x16E56, "MEDEFAIDRIN CAPITAL LETTER H"),
  (0x16E57, "MEDEFAIDRIN CAPITAL LETTER NG"), (0x16E76, "MEDEFAIDRIN SMALL LETTER H"),
  (0x16E77, "MEDEFAIDRIN SMALL LETTER NG"), (0x1B001, "HENTAIGANA LETTER E-1"),
  (0x1D0C5, "BYZANTINE MUSICAL SYMBOL FTHORA SKLIRON CHROMA VASIS")]

def nameRuns : List (List NameRun) :=
  [alphabetNames, signNames, abugidaNames, extensionNames, syllableNames, ancientNames, hieroglyphNames, notationNames,
    mathematicalNames, pictographNames]

/-- The number of the code point with a name that is listed. -/
def listed? (name : Text) : Option Nat := do
  let capitals ← name.toString?
  let further := furtherNames.find? fun e => (e.2.splitOn ",").contains capitals
  (further.map Prod.fst).or (nameRuns.findSome? fun runs => runs.findSome? (NameRun.find? (capitals.splitOn " ")))

def numberOfName? (name : Text) : Option Nat :=
  match Text.after? "HANGUL SYLLABLE " name, Text.after? "CJK UNIFIED IDEOGRAPH-" name with
  | some parts, _ => syllable? parts
  | none, some digits => ideograph? digits
  | none, none =>
    let capitals := name.asciiUpper
    (numbered? capitals).or ((selector? capitals).or (listed? capitals))

/-- The code point that has the name. -/
def CodePoint.ofName? (name : Text) : Option CodePoint := (numberOfName? name).bind CodePoint.ofNat?

end Invocation
