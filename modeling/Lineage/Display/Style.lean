import Lineage.Text.Blank

/-!
# Style — the names of text styles

A style is named by a list of words: attributes, a colour, a background behind `on`, a link. Several lists may name the same
style; `Style.normalize` picks one of them, so that styles can be compared by name. A list with an unknown word names
itself, in lower case.
-/

set_option autoImplicit false

namespace Lineage.Display

namespace Style

/-- The attributes in their order, each with the words for it. -/
def attributeWords : List (String × List String) :=
  [("bold", ["bold", "b"]), ("dim", ["dim", "d"]), ("italic", ["italic", "i"]), ("underline", ["underline", "u"]),
    ("blink", ["blink"]), ("blink2", ["blink2"]), ("reverse", ["reverse", "r"]), ("conceal", ["conceal", "c"]),
    ("strike", ["strike", "s"]), ("underline2", ["underline2", "uu"]), ("frame", ["frame"]),
    ("encircle", ["encircle"]), ("overline", ["overline", "o"])]

/-- The attribute that a word names. -/
def attributeOf? (word : String) : Option String := (attributeWords.find? (·.2.contains word)).map (·.1)

/-- The colours with names. -/
def colourNames : List String :=
  ["black", "red", "green", "yellow", "blue", "magenta", "cyan", "white", "bright_black", "bright_red",
    "bright_green", "bright_yellow", "bright_blue", "bright_magenta", "bright_cyan", "bright_white", "grey0",
    "gray0", "navy_blue", "dark_blue", "blue3", "blue1", "dark_green", "deep_sky_blue4", "dodger_blue3",
    "dodger_blue2", "green4", "spring_green4", "turquoise4", "deep_sky_blue3", "dodger_blue1", "green3",
    "spring_green3", "dark_cyan", "light_sea_green", "deep_sky_blue2", "deep_sky_blue1", "cyan3", "dark_turquoise",
    "turquoise2", "green1", "spring_green2", "spring_green1", "medium_spring_green", "cyan2", "cyan1", "dark_red",
    "deep_pink4", "purple4", "purple3", "blue_violet", "orange4", "grey37", "gray37", "medium_purple4",
    "slate_blue3", "royal_blue1", "chartreuse4", "dark_sea_green4", "pale_turquoise4", "steel_blue", "steel_blue3",
    "cornflower_blue", "chartreuse3", "cadet_blue", "sky_blue3", "steel_blue1", "pale_green3", "sea_green3",
    "aquamarine3", "medium_turquoise", "chartreuse2", "sea_green2", "sea_green1", "aquamarine1", "dark_slate_gray2",
    "dark_magenta", "dark_violet", "purple", "light_pink4", "plum4", "medium_purple3", "slate_blue1", "yellow4",
    "wheat4", "grey53", "gray53", "light_slate_grey", "light_slate_gray", "medium_purple", "light_slate_blue",
    "dark_olive_green3", "dark_sea_green", "light_sky_blue3", "sky_blue2", "dark_sea_green3", "dark_slate_gray3",
    "sky_blue1", "chartreuse1", "light_green", "pale_green1", "dark_slate_gray1", "red3", "medium_violet_red",
    "magenta3", "dark_orange3", "indian_red", "hot_pink3", "medium_orchid3", "medium_orchid", "medium_purple2",
    "dark_goldenrod", "light_salmon3", "rosy_brown", "grey63", "gray63", "medium_purple1", "gold3", "dark_khaki",
    "navajo_white3", "grey69", "gray69", "light_steel_blue3", "light_steel_blue", "yellow3", "dark_sea_green2",
    "light_cyan3", "light_sky_blue1", "green_yellow", "dark_olive_green2", "dark_sea_green1", "pale_turquoise1",
    "deep_pink3", "magenta2", "hot_pink2", "orchid", "medium_orchid1", "orange3", "light_pink3", "pink3", "plum3",
    "violet", "light_goldenrod3", "tan", "misty_rose3", "thistle3", "plum2", "khaki3", "light_goldenrod2",
    "light_yellow3", "grey84", "gray84", "light_steel_blue1", "yellow2", "dark_olive_green1", "honeydew2",
    "light_cyan1", "red1", "deep_pink2", "deep_pink1", "magenta1", "orange_red1", "indian_red1", "hot_pink",
    "dark_orange", "salmon1", "light_coral", "pale_violet_red1", "orchid2", "orchid1", "orange1", "sandy_brown",
    "light_salmon1", "light_pink1", "pink1", "plum1", "gold1", "navajo_white1", "misty_rose1", "thistle1", "yellow1",
    "light_goldenrod1", "khaki1", "wheat1", "cornsilk1", "grey100", "gray100", "grey3", "gray3", "grey7", "gray7",
    "grey11", "gray11", "grey15", "gray15", "grey19", "gray19", "grey23", "gray23", "grey27", "gray27", "grey30",
    "gray30", "grey35", "gray35", "grey39", "gray39", "grey42", "gray42", "grey46", "gray46", "grey50", "gray50",
    "grey54", "gray54", "grey58", "gray58", "grey62", "gray62", "grey66", "gray66", "grey70", "gray70", "grey74",
    "gray74", "grey78", "gray78", "grey82", "gray82", "grey85", "gray85", "grey89", "gray89", "grey93", "gray93",
    "default"]

/-- Whether a character is a hexadecimal digit in lower case. -/
def isHex (c : Char) : Bool := c.isDigit || ('a' ≤ c && c ≤ 'f')

/-- The numbers between the brackets of a function with a name. -/
def arguments? (function : String) (word : List Char) : Option (List (List Char)) :=
  let start := function.toList ++ ['(']
  if start.isPrefixOf word && word.getLast? = some ')' then
    let inner := (word.drop start.length).dropLast
    some ((String.ofList inner).splitOn "," |>.map fun s => Text.stripChars s.toList)
  else none

/-- Whether digits spell a number below 256. -/
def isOctet (ds : List Char) : Bool :=
  !ds.isEmpty && ds.all Char.isDigit && ds.foldl (fun n c => 10 * n + (c.toNat - 48)) 0 < 256

/-- Whether a word in lower case names a colour. -/
def isColour (word : String) : Bool :=
  if colourNames.contains word then true
  else match word.toList with
    | '#' :: ds => ds.length = 6 && ds.all isHex
    | cs => match arguments? "color" cs, arguments? "rgb" cs with
      | some [n], _ => n.length ≤ 3 && isOctet n
      | _, some [r, g, b] => isOctet r && isOctet g && isOctet b
      | _, _ => false

/-- A style as it is read word by word. -/
structure Reading where
  attributes : List (String × Bool)
  colour : Option String
  background : Option String
  link : Option String

/-- Reads the words of a style; an unknown one makes all unreadable. -/
def readWords (r : Reading) : List String → Option Reading
  | [] => some r
  | word :: rest =>
    let lower (s : String) : String := String.ofList (s.toList.map Char.toLower)
    let set (a : String) (b : Bool) : List (String × Bool) := r.attributes.filter (·.1 ≠ a) ++ [(a, b)]
    match lower word, rest with
    | "on", c :: rest => if isColour (lower c) then readWords { r with background := some (lower c) } rest else none
    | "not", w :: rest => match attributeOf? w with
      | some a => readWords { r with attributes := set a false } rest
      | none => none
    | "link", l :: rest => readWords { r with link := some l } rest
    | w, rest =>
      if ["on", "not", "link"].contains w then none
      else match attributeOf? w with
        | some a => readWords { r with attributes := set a true } rest
        | none => if isColour w then readWords { r with colour := some w } rest else none

/-- The one name of a style that has been read. -/
def Reading.name (r : Reading) : String :=
  let flags := attributeWords.filterMap fun a => match r.attributes.find? (·.1 = a.1) with
    | some (_, true) => some a.1
    | some (_, false) => some ("not " ++ a.1)
    | none => none
  let parts := flags ++ r.colour.toList ++ (r.background.map ("on " ++ ·)).toList ++ (r.link.map ("link " ++ ·)).toList
  if parts.isEmpty then "none" else String.intercalate " " parts

/-- The words of a text. -/
def wordsOf (cs : List Char) : List String :=
  ((cs.map fun c => if Text.isBlank c then ' ' else c).splitBy fun a b => a ≠ ' ' && b ≠ ' ').filterMap fun w =>
    if w = [' '] then none else some (String.ofList w)

/-- The name by which a style is compared. -/
def normalize (style : String) : String :=
  let plain := Text.stripChars style.toList
  if plain = [] ∨ plain = "none".toList then "none"
  else match readWords ⟨[], none, none, none⟩ (wordsOf plain) with
    | some r => r.name
    | none => String.ofList (plain.map Char.toLower)

end Style

end Lineage.Display
