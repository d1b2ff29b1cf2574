import Lineage.Text.Names.Letters
import Lineage.Text.Names.Pictures
import Lineage.Text.Names.Signs

/-!
# Names — characters by name

A character is named by its standard name or, above all where it has none, by an alias; both are found whatever
their case. The names of ideographs end in the number of the character, and those of Korean syllables are put together from
the names of their parts; these are found only as they are written here.
-/

set_option autoImplicit false

namespace Lineage.Text

namespace Names

/-- Characters by an alias. -/
def aliases : List (String × Nat) := [
    ("NULL", 0x0), ("NUL", 0x0), ("START OF HEADING", 0x1), ("SOH", 0x1), ("START OF TEXT", 0x2), ("STX", 0x2),
    ("END OF TEXT", 0x3), ("ETX", 0x3), ("END OF TRANSMISSION", 0x4), ("EOT", 0x4), ("ENQUIRY", 0x5), ("ENQ", 0x5),
    ("ACKNOWLEDGE", 0x6), ("ACK", 0x6), ("ALERT", 0x7), ("BEL", 0x7), ("BACKSPACE", 0x8), ("BS", 0x8),
    ("CHARACTER TABULATION", 0x9), ("HORIZONTAL TABULATION", 0x9), ("HT", 0x9), ("TAB", 0x9), ("LINE FEED", 0xa),
    ("NEW LINE", 0xa), ("END OF LINE", 0xa), ("LF", 0xa), ("NL", 0xa), ("EOL", 0xa), ("LINE TABULATION", 0xb),
    ("VERTICAL TABULATION", 0xb), ("VT", 0xb), ("FORM FEED", 0xc), ("FF", 0xc), ("CARRIAGE RETURN", 0xd),
    ("CR", 0xd), ("SHIFT OUT", 0xe), ("LOCKING-SHIFT ONE", 0xe), ("SO", 0xe), ("SHIFT IN", 0xf),
    ("LOCKING-SHIFT ZERO", 0xf), ("SI", 0xf), ("DATA LINK ESCAPE", 0x10), ("DLE", 0x10),
    ("DEVICE CONTROL ONE", 0x11), ("DC1", 0x11), ("DEVICE CONTROL TWO", 0x12), ("DC2", 0x12),
    ("DEVICE CONTROL THREE", 0x13), ("DC3", 0x13), ("DEVICE CONTROL FOUR", 0x14), ("DC4", 0x14),
    ("NEGATIVE ACKNOWLEDGE", 0x15), ("NAK", 0x15), ("SYNCHRONOUS IDLE", 0x16), ("SYN", 0x16),
    ("END OF TRANSMISSION BLOCK", 0x17), ("ETB", 0x17), ("CANCEL", 0x18), ("CAN", 0x18), ("END OF MEDIUM", 0x19),
    ("EOM", 0x19), ("SUBSTITUTE", 0x1a), ("SUB", 0x1a), ("ESCAPE", 0x1b), ("ESC", 0x1b),
    ("INFORMATION SEPARATOR FOUR", 0x1c), ("FILE SEPARATOR", 0x1c), ("FS", 0x1c),
    ("INFORMATION SEPARATOR THREE", 0x1d), ("GROUP SEPARATOR", 0x1d), ("GS", 0x1d),
    ("INFORMATION SEPARATOR TWO", 0x1e), ("RECORD SEPARATOR", 0x1e), ("RS", 0x1e),
    ("INFORMATION SEPARATOR ONE", 0x1f), ("UNIT SEPARATOR", 0x1f), ("US", 0x1f), ("SP", 0x20), ("DELETE", 0x7f),
    ("DEL", 0x7f), ("PADDING CHARACTER", 0x80), ("PAD", 0x80), ("NEXT LINE", 0x85), ("NEL", 0x85), ("NBSP", 0xa0),
    ("SHY", 0xad), ("CGJ", 0x34f), ("ZWSP", 0x200b), ("ZWNJ", 0x200c), ("ZWJ", 0x200d), ("LRM", 0x200e),
    ("RLM", 0x200f), ("LRE", 0x202a), ("RLE", 0x202b), ("PDF", 0x202c), ("LRO", 0x202d), ("RLO", 0x202e),
    ("NNBSP", 0x202f), ("WJ", 0x2060), ("BYTE ORDER MARK", 0xfeff), ("BOM", 0xfeff), ("ZWNBSP", 0xfeff),
    ("ALM", 0x61c), ("MVS", 0x180e), ("BREAK PERMITTED HERE", 0x82), ("BPH", 0x82), ("NO BREAK HERE", 0x83),
    ("NBH", 0x83), ("INDEX", 0x84), ("IND", 0x84), ("STRING TERMINATOR", 0x9c), ("ST", 0x9c),
    ("CONTROL SEQUENCE INTRODUCER", 0x9b), ("CSI", 0x9b)]

/-- The bounds of the ideographs. -/
def ideographs : List (Nat × Nat) :=
  [(0x3400, 0x4dbf), (0x4e00, 0x9fff), (0x20000, 0x2a6df), (0x2a700, 0x2b738), (0x2b740, 0x2b81d), (0x2b820, 0x2cea1),
    (0x2ceb0, 0x2ebe0), (0x30000, 0x3134a)]

/-- The value of a hexadecimal digit in upper case. -/
def upperHexValue? (c : Char) : Option Nat :=
  if c.isDigit then some (c.toNat - 48) else if 'A' ≤ c ∧ c ≤ 'F' then some (c.toNat - 55) else none

/-- What follows a start. -/
def behind? (start name : List Char) : Option (List Char) :=
  if start.isPrefixOf name then some (name.drop start.length) else none

/-- The ideograph whose number is spelled, in four or five digits. -/
def ideograph? (digits : List Char) : Option Nat := do
  let n := (← digits.mapM upperHexValue?).foldl (16 * · + ·) 0
  if (digits.length = 4 ∨ digits.length = 5) ∧ ideographs.any (fun b => b.1 ≤ n && n ≤ b.2) then some n else none

/-- The names of the first, second and last parts of Korean syllables. -/
def leads : List String :=
  ["G", "GG", "N", "D", "DD", "R", "M", "B", "BB", "S", "SS", "", "J", "JJ", "C", "K", "T", "P", "H"]

@[inherit_doc leads]
def vowels : List String :=
  ["A", "AE", "YA", "YAE", "EO", "E", "YEO", "YE", "O", "WA", "WAE", "OE", "YO", "U", "WEO", "WE", "WI", "YU", "EU", "YI",
    "I"]

@[inherit_doc leads]
def tails : List String :=
  ["", "G", "GG", "GS", "N", "NJ", "NH", "D", "L", "LG", "LM", "LB", "LS", "LT", "LP", "LH", "M", "B", "BS", "S", "SS",
    "NG", "J", "C", "K", "T", "P", "H"]

/-- The longest of several parts that a name starts with, by its place, and the rest of the name. -/
def longestPart (parts : List String) (name : List Char) : Option (Nat × List Char) :=
  let fits := (parts.mapIdx fun i p => (i, p.toList)).filter fun p => p.2.isPrefixOf name
  let best := fits.foldl (fun (b : Option (Nat × List Char)) p => match b with
    | some q => if q.2.length < p.2.length then some p else some q
    | none => some p) none
  best.map fun p => (p.1, name.drop p.2.length)

/-- The Korean syllable whose parts are spelled. -/
def syllable? (name : List Char) : Option Nat := do
  let (lead, r) ← longestPart leads name
  let (vowel, r) ← longestPart vowels r
  let (tail, r) ← longestPart tails r
  if r.isEmpty then some (0xac00 + (lead * 21 + vowel) * 28 + tail) else none

end Names

/-- The point with a name. -/
def named? (name : String) : Option Nat :=
  let upper := name.toList.map Char.toUpper
  let systematic := match Names.behind? "CJK UNIFIED IDEOGRAPH-".toList name.toList with
    | some digits => Names.ideograph? digits
    | none => (Names.behind? "HANGUL SYLLABLE ".toList name.toList).bind Names.syllable?
  systematic
    <|> (Names.letters ++ Names.signs ++ Names.pictures).findSome? (·.find? upper)
    <|> (Names.aliases.find? fun a => a.1.toList = upper).map (·.2)

end Lineage.Text
