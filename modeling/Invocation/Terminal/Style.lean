import Invocation.Text.Integer
import Invocation.Text.LowerCase

/-!
# Styles

A style is a list of words: attributes, which `not` takes back, a colour, a colour behind `on`, and an address behind
`link`. Two lists of words for one style have the same normal form.
-/

namespace Invocation

namespace Terminal

/-! ## Colours -/

def colorNames : String := "
  black red green yellow blue magenta cyan white bright_black bright_red bright_green bright_yellow bright_blue
  bright_magenta bright_cyan bright_white grey0 gray0 navy_blue dark_blue blue3 blue1 dark_green deep_sky_blue4
  dodger_blue3 dodger_blue2 green4 spring_green4 turquoise4 deep_sky_blue3 dodger_blue1 green3 spring_green3
  dark_cyan light_sea_green deep_sky_blue2 deep_sky_blue1 spring_green2 cyan3 dark_turquoise turquoise2 green1
  spring_green1 medium_spring_green cyan2 cyan1 dark_red deep_pink4 purple4 purple3 blue_violet orange4 grey37
  gray37 medium_purple4 slate_blue3 royal_blue1 chartreuse4 dark_sea_green4 pale_turquoise4 steel_blue steel_blue3
  cornflower_blue chartreuse3 cadet_blue sky_blue3 steel_blue1 pale_green3 sea_green3 aquamarine3 medium_turquoise
  chartreuse2 sea_green2 sea_green1 aquamarine1 dark_slate_gray2 dark_magenta dark_violet purple light_pink4 plum4
  medium_purple3 slate_blue1 yellow4 wheat4 grey53 gray53 light_slate_grey light_slate_gray medium_purple
  light_slate_blue dark_olive_green3 dark_sea_green light_sky_blue3 sky_blue2 dark_sea_green3 dark_slate_gray3
  sky_blue1 chartreuse1 light_green pale_green1 dark_slate_gray1 red3 medium_violet_red magenta3 dark_orange3
  indian_red hot_pink3 medium_orchid3 medium_orchid medium_purple2 dark_goldenrod light_salmon3 rosy_brown grey63
  gray63 medium_purple1 gold3 dark_khaki navajo_white3 grey69 gray69 light_steel_blue3 light_steel_blue yellow3
  dark_sea_green2 light_cyan3 light_sky_blue1 green_yellow dark_olive_green2 dark_sea_green1 pale_turquoise1
  deep_pink3 magenta2 hot_pink2 orchid medium_orchid1 orange3 light_pink3 pink3 plum3 violet light_goldenrod3 tan
  misty_rose3 thistle3 plum2 khaki3 light_goldenrod2 light_yellow3 grey84 gray84 light_steel_blue1 yellow2
  dark_olive_green1 honeydew2 light_cyan1 red1 deep_pink2 deep_pink1 magenta1 orange_red1 indian_red1 hot_pink
  dark_orange salmon1 light_coral pale_violet_red1 orchid2 orchid1 orange1 sandy_brown light_salmon1 light_pink1
  pink1 plum1 gold1 navajo_white1 misty_rose1 thistle1 yellow1 light_goldenrod1 khaki1 wheat1 cornsilk1 grey100
  gray100 grey3 gray3 grey7 gray7 grey11 gray11 grey15 gray15 grey19 gray19 grey23 gray23 grey27 gray27 grey30
  gray30 grey35 gray35 grey39 gray39 grey42 gray42 grey46 gray46 grey50 gray50 grey54 gray54 grey58 gray58 grey62
  gray62 grey66 gray66 grey70 gray70 grey74 gray74 grey78 gray78 grey82 gray82 grey85 gray85 grey89 gray89 grey93
  gray93
"

/-- What stands in parentheses behind a name. -/
def insideCall? (name t : Text) : Option Text :=
  match Text.after? (name ++ "(") t with
  | some r => if r.getLast? = some ')' then some r.dropLast else none
  | none => none

/-- A component of a colour that is no number. -/
structure ComponentFault where
  component : Text
  fault : Text.IntegerFault
deriving DecidableEq

def ComponentFault.message (f : ComponentFault) : Text :=
  match f.fault with
  | .malformed => malformedIntegerMessage 10 f.component
  | .tooLong digits => longIntegerMessage digits

/-- The three components of a colour, which may lack digits. -/
def components? (word : Text) : Option (List Text) := do
  let inside ← insideCall? "rgb" word
  guard (!inside.isEmpty && inside.all fun c => c.isDecimalDigit || c = ',')
  let components := inside.splitAll fun c => c = ','
  guard (components.length = 3)
  return components

def readComponent (t : Text) : Except ComponentFault Int := (Text.readInteger 10 t).mapError fun f => ⟨t, f⟩

def isNamedColor (word : Text) : Bool :=
  word = "default" || (Text.words colorNames).contains word
    || (match word with
        | .scalar '#' :: digits => digits.length = 6 && digits.all CodePoint.isHexDigit
        | _ => false)
    || (insideCall? "color" word).any fun n => n.length ≤ 3 && (Text.toNat? 10 n).any fun k => k < 256

def isColor (word : Text) : Except ComponentFault Bool :=
  match components? word with
  | some components => return (← components.mapM readComponent).all fun n => n < 256
  | none => return isNamedColor word

/-! ## Styles -/

/-- Attributes in the order of the normal form, each with its other names. -/
def attributes : List (String × List String) :=
  [("bold", ["b"]), ("dim", ["d"]), ("italic", ["i"]), ("underline", ["u"]), ("blink", []), ("blink2", []),
    ("reverse", ["r"]), ("conceal", ["c"]), ("strike", ["s"]), ("underline2", ["uu"]), ("frame", []),
    ("encircle", []), ("overline", ["o"])]

def attribute? (word : Text) : Option Text :=
  (attributes.find? fun a => (a.1 :: a.2).any fun name => word = Text.ofString name).map fun a => a.1

structure Style where
  /-- Attributes that are set or taken back; what is said last counts. -/
  attributes : List (Text × Bool)
  color : Option Text
  background : Option Text
  link : Option Text

namespace Style

def empty : Style := ⟨[], none, none, none⟩

def withAttribute (s : Style) (name : Text) (on : Bool) : Style := { s with attributes := (name, on) :: s.attributes }

/-- The style with further words. Words that make no sense have no style. -/
def read? (s : Style) : List Text → Except ComponentFault (Option Style)
  | [] => return some s
  | [written] => do
    let word := written.lower
    match attribute? word with
    | some name => return some (s.withAttribute name true)
    | none => return if ← isColor word then some { s with color := some word } else none
  | written :: next :: r => do
    let word := written.lower
    if word = "on" then
      if ← isColor next.lower then read? { s with background := some next.lower } r else return none
    else if word = "not" then
      match attribute? next with
      | some name => read? (s.withAttribute name false) r
      | none => return none
    else if word = "link" then read? { s with link := some next } r
    else
      match attribute? word with
      | some name => read? (s.withAttribute name true) (next :: r)
      | none => if ← isColor word then read? { s with color := some word } (next :: r) else return none

/-- The parts of the normal form. -/
def parts (s : Style) : List Text :=
  let named := fun (a : String × List String) =>
    (s.attributes.lookup (Text.ofString a.1)).map fun (isOn : Bool) => (if isOn then a.1 else "not " ++ a.1 : String)
  let colors : List Text := s.color.toList ++ (s.background.map fun (c : Text) => ("on " ++ c : Text)).toList
  let links : List Text := (s.link.map fun (l : Text) => ("link " ++ l : Text)).toList
  (Terminal.attributes.filterMap named).map Text.ofString ++ colors ++ links

def normal (s : Style) : Text := if s.parts.isEmpty then "none" else Text.joinWith " " s.parts

end Style

/-- The style of a text of words. -/
def styleOf? (t : Text) : Except ComponentFault (Option Style) :=
  if t.trim = "none" then return some .empty else Style.empty.read? t.words

/-- The normal form of the words of a style. Words without a style stay as they are but for their case. -/
def normalStyle (t : Text) : Except ComponentFault Text :=
  return ((← styleOf? t).map Style.normal).getD (Text.lower t.trim)

end Terminal

end Invocation
