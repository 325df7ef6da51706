import RunnerAtlas.Text.CharacterName.Letters
import RunnerAtlas.Text.CharacterName.Scripts
import RunnerAtlas.Text.CharacterName.Signs
import RunnerAtlas.Text.Digit

/-!
# Names of characters

The names of the characters of Unicode 14, with the aliases that stand for one character. Most are
listed, and small letters count as capitals in them. Ideographs and syllables of Hangul are named by
a rule, in capitals only. A name of a sequence of characters is no name of a character.

## Main definitions

* `RunnerAtlas.Text.CharacterName.Family` — characters that are named by a number.
* `RunnerAtlas.Text.CharacterName.ideograph?`, `RunnerAtlas.Text.CharacterName.syllable?` — the
  characters that are named by a rule.
* `RunnerAtlas.Text.CharacterName.find?` — the code point that has a name.
-/

set_option autoImplicit false

namespace RunnerAtlas.Text.CharacterName

/-- The runs of all the names that are listed. -/
def runs : List Run :=
  europeanRuns ++ semiticRuns ++ indianRuns ++ variousRuns ++ phoneticRuns ++ minorityRuns ++
    symbolRuns ++ supplementaryRuns ++ easternRuns ++ compatibleRuns ++ notationalRuns ++
    pictographicRuns ++ ancientRuns ++ brahmicRuns ++ pictorialRuns

/-- Names of further characters and further names of some, one for each entry. -/
def aliases : List (Nat × String) :=
  [(0x0, "NULL"), (0x0, "NUL"), (0x1, "START OF HEADING"), (0x1, "SOH"), (0x2, "START OF TEXT"),
   (0x2, "STX"), (0x3, "END OF TEXT"), (0x3, "ETX"), (0x4, "END OF TRANSMISSION"), (0x4, "EOT"),
   (0x5, "ENQUIRY"), (0x5, "ENQ"), (0x6, "ACKNOWLEDGE"), (0x6, "ACK"), (0x7, "ALERT"), (0x7, "BEL"),
   (0x8, "BACKSPACE"), (0x8, "BS"), (0x9, "CHARACTER TABULATION"), (0x9, "HORIZONTAL TABULATION"),
   (0x9, "HT"), (0x9, "TAB"), (0xa, "LINE FEED"), (0xa, "NEW LINE"), (0xa, "END OF LINE"),
   (0xa, "LF"), (0xa, "NL"), (0xa, "EOL"), (0xb, "LINE TABULATION"), (0xb, "VERTICAL TABULATION"),
   (0xb, "VT"), (0xc, "FORM FEED"), (0xc, "FF"), (0xd, "CARRIAGE RETURN"), (0xd, "CR"),
   (0xe, "SHIFT OUT"), (0xe, "LOCKING-SHIFT ONE"), (0xe, "SO"), (0xf, "SHIFT IN"),
   (0xf, "LOCKING-SHIFT ZERO"), (0xf, "SI"), (0x10, "DATA LINK ESCAPE"), (0x10, "DLE"),
   (0x11, "DEVICE CONTROL ONE"), (0x11, "DC1"), (0x12, "DEVICE CONTROL TWO"), (0x12, "DC2"),
   (0x13, "DEVICE CONTROL THREE"), (0x13, "DC3"), (0x14, "DEVICE CONTROL FOUR"), (0x14, "DC4"),
   (0x15, "NEGATIVE ACKNOWLEDGE"), (0x15, "NAK"), (0x16, "SYNCHRONOUS IDLE"), (0x16, "SYN"),
   (0x17, "END OF TRANSMISSION BLOCK"), (0x17, "ETB"), (0x18, "CANCEL"), (0x18, "CAN"),
   (0x19, "END OF MEDIUM"), (0x19, "EOM"), (0x1a, "SUBSTITUTE"), (0x1a, "SUB"), (0x1b, "ESCAPE"),
   (0x1b, "ESC"), (0x1c, "INFORMATION SEPARATOR FOUR"), (0x1c, "FILE SEPARATOR"), (0x1c, "FS"),
   (0x1d, "INFORMATION SEPARATOR THREE"), (0x1d, "GROUP SEPARATOR"), (0x1d, "GS"),
   (0x1e, "INFORMATION SEPARATOR TWO"), (0x1e, "RECORD SEPARATOR"), (0x1e, "RS"),
   (0x1f, "INFORMATION SEPARATOR ONE"), (0x1f, "UNIT SEPARATOR"), (0x1f, "US"), (0x20, "SP"),
   (0x7f, "DELETE"), (0x7f, "DEL"), (0x80, "PADDING CHARACTER"), (0x80, "PAD"),
   (0x81, "HIGH OCTET PRESET"), (0x81, "HOP"), (0x82, "BREAK PERMITTED HERE"), (0x82, "BPH"),
   (0x83, "NO BREAK HERE"), (0x83, "NBH"), (0x84, "INDEX"), (0x84, "IND"), (0x85, "NEXT LINE"),
   (0x85, "NEL"), (0x86, "START OF SELECTED AREA"), (0x86, "SSA"), (0x87, "END OF SELECTED AREA"),
   (0x87, "ESA"), (0x88, "CHARACTER TABULATION SET"), (0x88, "HORIZONTAL TABULATION SET"),
   (0x88, "HTS"), (0x89, "CHARACTER TABULATION WITH JUSTIFICATION"),
   (0x89, "HORIZONTAL TABULATION WITH JUSTIFICATION"), (0x89, "HTJ"), (0x8a, "LINE TABULATION SET"),
   (0x8a, "VERTICAL TABULATION SET"), (0x8a, "VTS"), (0x8b, "PARTIAL LINE FORWARD"),
   (0x8b, "PARTIAL LINE DOWN"), (0x8b, "PLD"), (0x8c, "PARTIAL LINE BACKWARD"),
   (0x8c, "PARTIAL LINE UP"), (0x8c, "PLU"), (0x8d, "REVERSE LINE FEED"), (0x8d, "REVERSE INDEX"),
   (0x8d, "RI"), (0x8e, "SINGLE SHIFT TWO"), (0x8e, "SINGLE-SHIFT-2"), (0x8e, "SS2"),
   (0x8f, "SINGLE SHIFT THREE"), (0x8f, "SINGLE-SHIFT-3"), (0x8f, "SS3"),
   (0x90, "DEVICE CONTROL STRING"), (0x90, "DCS"), (0x91, "PRIVATE USE ONE"),
   (0x91, "PRIVATE USE-1"), (0x91, "PU1"), (0x92, "PRIVATE USE TWO"), (0x92, "PRIVATE USE-2"),
   (0x92, "PU2"), (0x93, "SET TRANSMIT STATE"), (0x93, "STS"), (0x94, "CANCEL CHARACTER"),
   (0x94, "CCH"), (0x95, "MESSAGE WAITING"), (0x95, "MW"), (0x96, "START OF GUARDED AREA"),
   (0x96, "START OF PROTECTED AREA"), (0x96, "SPA"), (0x97, "END OF GUARDED AREA"),
   (0x97, "END OF PROTECTED AREA"), (0x97, "EPA"), (0x98, "START OF STRING"), (0x98, "SOS"),
   (0x99, "SINGLE GRAPHIC CHARACTER INTRODUCER"), (0x99, "SGC"),
   (0x9a, "SINGLE CHARACTER INTRODUCER"), (0x9a, "SCI"), (0x9b, "CONTROL SEQUENCE INTRODUCER"),
   (0x9b, "CSI"), (0x9c, "STRING TERMINATOR"), (0x9c, "ST"), (0x9d, "OPERATING SYSTEM COMMAND"),
   (0x9d, "OSC"), (0x9e, "PRIVACY MESSAGE"), (0x9e, "PM"), (0x9f, "APPLICATION PROGRAM COMMAND"),
   (0x9f, "APC"), (0xa0, "NBSP"), (0xad, "SHY"), (0x1a2, "LATIN CAPITAL LETTER GHA"),
   (0x1a3, "LATIN SMALL LETTER GHA"), (0x34f, "CGJ"), (0x61c, "ALM"),
   (0x709, "SYRIAC SUBLINEAR COLON SKEWED LEFT"), (0xcde, "KANNADA LETTER LLLA"),
   (0xe9d, "LAO LETTER FO FON"), (0xe9f, "LAO LETTER FO FAY"), (0xea3, "LAO LETTER RO"),
   (0xea5, "LAO LETTER LO"), (0xfd0, "TIBETAN MARK BKA- SHOG GI MGO RGYAN"),
   (0x11ec, "HANGUL JONGSEONG YESIEUNG-KIYEOK"), (0x11ed, "HANGUL JONGSEONG YESIEUNG-SSANGKIYEOK"),
   (0x11ee, "HANGUL JONGSEONG SSANGYESIEUNG"), (0x11ef, "HANGUL JONGSEONG YESIEUNG-KHIEUKH"),
   (0x180b, "FVS1"), (0x180c, "FVS2"), (0x180d, "FVS3"), (0x180e, "MVS"), (0x180f, "FVS4"),
   (0x200b, "ZWSP"), (0x200c, "ZWNJ"), (0x200d, "ZWJ"), (0x200e, "LRM"), (0x200f, "RLM"),
   (0x202a, "LRE"), (0x202b, "RLE"), (0x202c, "PDF"), (0x202d, "LRO"), (0x202e, "RLO"),
   (0x202f, "NNBSP"), (0x205f, "MMSP"), (0x2060, "WJ"), (0x2066, "LRI"), (0x2067, "RLI"),
   (0x2068, "FSI"), (0x2069, "PDI"), (0x2118, "WEIERSTRASS ELLIPTIC FUNCTION"),
   (0x2448, "MICR ON US SYMBOL"), (0x2449, "MICR DASH SYMBOL"),
   (0x2b7a, "LEFTWARDS TRIANGLE-HEADED ARROW WITH DOUBLE VERTICAL STROKE"),
   (0x2b7c, "RIGHTWARDS TRIANGLE-HEADED ARROW WITH DOUBLE VERTICAL STROKE"),
   (0xa015, "YI SYLLABLE ITERATION MARK"), (0xaa6e, "MYANMAR LETTER KHAMTI LLA"),
   (0xfe18, "PRESENTATION FORM FOR VERTICAL RIGHT WHITE LENTICULAR BRACKET"),
   (0xfeff, "BYTE ORDER MARK"), (0xfeff, "BOM"), (0xfeff, "ZWNBSP"),
   (0x122d4, "CUNEIFORM SIGN NU11 TENU"), (0x122d5, "CUNEIFORM SIGN NU11 OVER NU11 BUR OVER BUR"),
   (0x16e56, "MEDEFAIDRIN CAPITAL LETTER H"), (0x16e57, "MEDEFAIDRIN CAPITAL LETTER NG"),
   (0x16e76, "MEDEFAIDRIN SMALL LETTER H"), (0x16e77, "MEDEFAIDRIN SMALL LETTER NG"),
   (0x1b001, "HENTAIGANA LETTER E-1"),
   (0x1d0c5, "BYZANTINE MUSICAL SYMBOL FTHORA SKLIRON CHROMA VASIS")]

/-- Consecutive code points that are named by consecutive numbers. -/
structure Family where
  /-- What all the names begin with. -/
  start : String
  /-- The base of the numbers. -/
  base : Nat
  /-- The least number of digits. -/
  width : Nat
  /-- The first number. -/
  low : Nat
  /-- The last number. -/
  high : Nat
  /-- The code point that has the first number. -/
  first : Nat

/-- The characters that are named by a number. -/
def families : List Family :=
  [⟨"CJK COMPATIBILITY IDEOGRAPH-", 16, 4, 0xf900, 0xfa6d, 0xf900⟩,
   ⟨"CJK COMPATIBILITY IDEOGRAPH-", 16, 4, 0xfa70, 0xfad9, 0xfa70⟩,
   ⟨"CJK COMPATIBILITY IDEOGRAPH-", 16, 4, 0x2f800, 0x2fa1d, 0x2f800⟩,
   ⟨"KHITAN SMALL SCRIPT CHARACTER-", 16, 4, 0x18b00, 0x18cd5, 0x18b00⟩,
   ⟨"NUSHU CHARACTER-", 16, 4, 0x1b170, 0x1b2fb, 0x1b170⟩,
   ⟨"TANGUT COMPONENT-", 10, 3, 1, 768, 0x18800⟩,
   ⟨"VARIATION SELECTOR-", 10, 1, 1, 16, 0xfe00⟩,
   ⟨"VARIATION SELECTOR-", 10, 1, 17, 256, 0xe0100⟩,
   ⟨"VS", 10, 1, 1, 16, 0xfe00⟩, ⟨"VS", 10, 1, 17, 256, 0xe0100⟩]

/-- The digits of a number in a base, with capitals for those beyond nine and zeros in front up to a
width. -/
def digitsOf (base width number : Nat) : List Char :=
  (Nat.toDigits base number).map Char.toUpper |>.leftpad width '0'

/-- The code point that has a name in a family. A number has only one spelling there. -/
def Family.find? (family : Family) (name : List Char) : Option Nat := do
  let digits ← after? family.start name
  let number := Digit.ofDigits family.base (digits.filterMap (Digit.plainValue? family.base))
  if family.low ≤ number ∧ number ≤ family.high ∧ digitsOf family.base family.width number = digits
  then some (family.first + (number - family.low)) else none

/-- The code points of unified ideographs. -/
def ideographs : Ranges :=
  [(0x3400, 0x4dbf), (0x4e00, 0x9fff), (0x20000, 0x2a6df), (0x2a700, 0x2b738), (0x2b740, 0x2b81d),
   (0x2b820, 0x2cea1), (0x2ceb0, 0x2ebe0), (0x30000, 0x3134a)]

/-- The unified ideograph that has a name, which is its code point in four or five digits. -/
def ideograph? (name : List Char) : Option Nat := do
  let digits ← after? "CJK UNIFIED IDEOGRAPH-" name
  let code := Digit.ofDigits 16 (digits.filterMap (Digit.plainValue? 16))
  if (digits.length = 4 ∨ digits.length = 5) ∧ digitsOf 16 digits.length code = digits ∧
      ideographs.has code
  then some code else none

/-- What a syllable of Hangul begins with. -/
def initials : List String :=
  ["G", "GG", "N", "D", "DD", "R", "M", "B", "BB", "S", "SS", "", "J", "JJ", "C", "K", "T", "P",
   "H"]

/-- The vowels of a syllable of Hangul. -/
def vowels : List String :=
  ["A", "AE", "YA", "YAE", "EO", "E", "YEO", "YE", "O", "WA", "WAE", "OE", "YO", "U", "WEO", "WE",
   "WI", "YU", "EU", "YI", "I"]

/-- What a syllable of Hangul ends with. -/
def finals : List String :=
  ["", "G", "GG", "GS", "N", "NJ", "NH", "D", "L", "LG", "LM", "LB", "LS", "LT", "LP", "LH", "M",
   "B", "BS", "S", "SS", "NG", "J", "C", "K", "T", "P", "H"]

/-- The syllable of Hangul that has a name. Vowels and consonants have no letters in common, so that
the name falls into three parts. -/
def syllable? (name : List Char) : Option Nat := do
  let letters ← after? "HANGUL SYLLABLE " name
  let (start, rest) := letters.span fun c => !"AEIOUWY".toList.contains c
  let (middle, finish) := rest.span fun c => "AEIOUWY".toList.contains c
  let initial ← initials.idxOf? (String.ofList start)
  let vowel ← vowels.idxOf? (String.ofList middle)
  let final ← finals.idxOf? (String.ofList finish)
  return 0xac00 + (initial * vowels.length + vowel) * finals.length + final

/-- The code point that has a name. -/
def find? (name : String) : Option Nat :=
  let capitals := name.toList.map Char.toUpper
  let alias? := aliases.find? fun entry => entry.2.toList = capitals
  (syllable? name.toList).or <| (ideograph? name.toList).or <|
    (families.findSome? fun family => family.find? capitals).or <|
    (runs.findSome? fun run => run.find? capitals).or (alias?.map (·.1))

end RunnerAtlas.Text.CharacterName
