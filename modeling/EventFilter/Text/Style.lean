import EventFilter.Json.Integer
import EventFilter.Text.Lowercase
import EventFilter.Text.Terminal

/-! Styles of text as they are named in a tag: traits such as `bold`, perhaps with a `not`, a
color, a color for the ground after `on`, and the target of a `link`. Names that mean the same
style come to one canonical name, so that a closing tag finds its opening one. -/
namespace EventFilter.Text

inductive Trait where
  | bold
  | dim
  | italic
  | underline
  | blink
  | blink2
  | reverse
  | conceal
  | strike
  | underline2
  | frame
  | encircle
  | overline
  deriving DecidableEq, Repr

namespace Trait

/-- In the order of a canonical name. -/
def every : List Trait := [bold, dim, italic, underline, blink, blink2, reverse, conceal, strike,
  underline2, frame, encircle, overline]

def name : Trait → String
  | bold => "bold"
  | dim => "dim"
  | italic => "italic"
  | underline => "underline"
  | blink => "blink"
  | blink2 => "blink2"
  | reverse => "reverse"
  | conceal => "conceal"
  | strike => "strike"
  | underline2 => "underline2"
  | frame => "frame"
  | encircle => "encircle"
  | overline => "overline"

def abbreviations : List (String × Trait) :=
  [("b", bold), ("d", dim), ("i", italic), ("u", underline), ("r", reverse), ("c", conceal),
    ("s", strike), ("uu", underline2), ("o", overline)]

def ofName? (word : String) : Option Trait :=
  match every.find? (·.name = word) with
  | some trait => some trait
  | none => abbreviations.lookup word

end Trait

/-- Colors of the terminal's palette that have a name. -/
def paletteNames : String := "
    black red green yellow blue magenta cyan white bright_black bright_red bright_green
    bright_yellow bright_blue bright_magenta bright_cyan bright_white grey0 gray0 navy_blue
    dark_blue blue3 blue1 dark_green deep_sky_blue4 dodger_blue3 dodger_blue2 green4 spring_green4
    turquoise4 deep_sky_blue3 dodger_blue1 green3 spring_green3 dark_cyan light_sea_green
    deep_sky_blue2 deep_sky_blue1 spring_green2 cyan3 dark_turquoise turquoise2 green1 spring_green1
    medium_spring_green cyan2 cyan1 dark_red deep_pink4 purple4 purple3 blue_violet orange4 grey37
    gray37 medium_purple4 slate_blue3 royal_blue1 chartreuse4 dark_sea_green4 pale_turquoise4
    steel_blue steel_blue3 cornflower_blue chartreuse3 cadet_blue sky_blue3 steel_blue1 pale_green3
    sea_green3 aquamarine3 medium_turquoise chartreuse2 sea_green2 sea_green1 aquamarine1
    dark_slate_gray2 dark_magenta dark_violet purple light_pink4 plum4 medium_purple3 slate_blue1
    yellow4 wheat4 grey53 gray53 light_slate_grey light_slate_gray medium_purple light_slate_blue
    dark_olive_green3 dark_sea_green light_sky_blue3 sky_blue2 dark_sea_green3 dark_slate_gray3
    sky_blue1 chartreuse1 light_green pale_green1 dark_slate_gray1 red3 medium_violet_red magenta3
    dark_orange3 indian_red hot_pink3 medium_orchid3 medium_orchid medium_purple2 dark_goldenrod
    light_salmon3 rosy_brown grey63 gray63 medium_purple1 gold3 dark_khaki navajo_white3 grey69
    gray69 light_steel_blue3 light_steel_blue yellow3 dark_sea_green2 light_cyan3 light_sky_blue1
    green_yellow dark_olive_green2 dark_sea_green1 pale_turquoise1 deep_pink3 magenta2 hot_pink2
    orchid medium_orchid1 orange3 light_pink3 pink3 plum3 violet light_goldenrod3 tan misty_rose3
    thistle3 plum2 khaki3 light_goldenrod2 light_yellow3 grey84 gray84 light_steel_blue1 yellow2
    dark_olive_green1 honeydew2 light_cyan1 red1 deep_pink2 deep_pink1 magenta1 orange_red1
    indian_red1 hot_pink dark_orange salmon1 light_coral pale_violet_red1 orchid2 orchid1 orange1
    sandy_brown light_salmon1 light_pink1 pink1 plum1 gold1 navajo_white1 misty_rose1 thistle1
    yellow1 light_goldenrod1 khaki1 wheat1 cornsilk1 grey100 gray100 grey3 gray3 grey7 gray7 grey11
    gray11 grey15 gray15 grey19 gray19 grey23 gray23 grey27 gray27 grey30 gray30 grey35 gray35
    grey39 gray39 grey42 gray42 grey46 gray46 grey50 gray50 grey54 gray54 grey58 gray58 grey62
    gray62 grey66 gray66 grey70 gray70 grey74 gray74 grey78 gray78 grey82 gray82 grey85 gray85
    grey89 gray89 grey93 gray93"

def palette : List (List Char) :=
  (splitAt blank.contains paletteNames.toList).filter (!·.isEmpty)

/-- A component or a palette index. -/
def maxComponent : Nat := 255

/-- What stands between a name with an opening parenthesis and a closing one. -/
def between? (opening : String) (word : List Char) : Option (List Char) :=
  let n := opening.length
  if word.take n = opening.toList && word.getLast? = some ')' && n < word.length then
    some ((word.drop n).dropLast)
  else none

def isHex6 (word : List Char) : Bool :=
  match word with
  | '#' :: digits => digits.length == 6 && digits.all fun c => (hexValue? c).isSome
  | _ => false

def isPaletteIndex (word : List Char) : Bool :=
  match between? "color(" word with
  | some digits => 1 ≤ digits.length && digits.length ≤ 3 && digits.all isAsciiDigit
      && ofDigits (digits.map asciiDigitValue) ≤ maxComponent
  | none => false

/-- Three numbers; an empty one is no number at all and spoils more than the color. -/
def isRgb (word : List Char) : Except IntegerError Bool :=
  match between? "rgb(" word with
  | none => .ok false
  | some inner =>
    if inner.isEmpty || !inner.all fun c => c = ',' || (digitValue? c).isSome then .ok false
    else
      match splitAt (· = ',') inner with
      | [red, green, blue] => do
        let components ← [red, green, blue].mapM fun digits => Numeral.read (String.ofList digits)
        return components.all (· ≤ maxComponent)
      | _ => .ok false

/-- The word is in small letters. -/
def isColor (word : List Char) : Except IntegerError Bool :=
  if word = "default".toList || palette.contains word || isHex6 word || isPaletteIndex word then
    .ok true
  else isRgb word

structure TextStyle where
  traits : List (Trait × Bool) := []
  color : Option (List Char) := none
  ground : Option (List Char) := none
  link : Option (List Char) := none

namespace TextStyle

/-- The later of two settings of a trait counts. -/
def set (style : TextStyle) (trait : Trait) (on : Bool) : TextStyle :=
  { style with traits := (trait, on) :: style.traits }

/-- A word that stands for itself, in small letters: a trait or a color. -/
def add (style : TextStyle) (word : List Char) : Except IntegerError (Option TextStyle) :=
  match Trait.ofName? (String.ofList word) with
  | some trait => .ok (some (style.set trait true))
  | none => do
    if ← isColor word then return some { style with color := some word } else return none

/-- What a word says of the one after it; `none` if it says nothing. -/
def addPair (style : TextStyle) (word next : List Char) :
    Option (Except IntegerError (Option TextStyle)) :=
  match String.ofList word with
  | "on" => some do
    let color := lowercase next
    if ← isColor color then return some { style with ground := some color } else return none
  | "not" => some (.ok ((Trait.ofName? (String.ofList next)).map fun trait => style.set trait false))
  | "link" => some (.ok (some { style with link := some next }))
  | _ => none

/-- `none` if the words do not describe a style. -/
def readFrom (style : TextStyle) : List (List Char) → Except IntegerError (Option TextStyle)
  | [] => .ok (some style)
  | [word] => style.add (lowercase word)
  | word :: next :: words =>
    match style.addPair (lowercase word) next with
    | some read => do
      match ← read with
      | some style => style.readFrom words
      | none => return none
    | none => do
      match ← style.add (lowercase word) with
      | some style => style.readFrom (next :: words)
      | none => return none

def canonicalName (style : TextStyle) : String :=
  let traits := Trait.every.filterMap fun trait =>
    (style.traits.lookup trait).map fun on =>
      if on then trait.name else "not " ++ trait.name
  let others := [("", style.color), ("on ", style.ground), ("link ", style.link)].filterMap
    fun (before, word) => word.map fun word => before ++ String.ofList word
  match traits ++ others with
  | [] => "none"
  | parts => " ".intercalate parts

/-- `none` stands for no style at all, but only alone. -/
def parse (text : List Char) : Except IntegerError (Option TextStyle) :=
  let words := (splitAt blank.contains text).filter (!·.isEmpty)
  if words = ["none".toList] then .ok (some {}) else readFrom {} words

end TextStyle

/-- The canonical name of a style; any other text is trimmed and put in small letters. -/
def styleName (text : List Char) : Except IntegerError String := do
  match ← TextStyle.parse text with
  | some style => return style.canonicalName
  | none => return String.ofList (lowercase (trimChars blank text))

end EventFilter.Text
