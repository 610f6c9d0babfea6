import HtmlTemplate.Writing.CharName.Ancient
import HtmlTemplate.Writing.CharName.Control
import HtmlTemplate.Writing.CharName.Eastern
import HtmlTemplate.Writing.CharName.Mixed
import HtmlTemplate.Writing.CharName.Pictures
import HtmlTemplate.Writing.CharName.Signs
import HtmlTemplate.Writing.CharName.Syllabic
import HtmlTemplate.Writing.CharName.Western
import HtmlTemplate.Text.Figure

/-!
# Characters by their names

The character that has a name. Most names are listed. Those of ideographs end in the code point, and those of Korean
syllables are composed of the names of their parts. The case of letters matters in the names that are not listed.
-/

namespace HtmlTemplate.CharName

/-- All runs of names. -/
def runs : List NameRun :=
  westernNames ++ easternNames ++ signsNames ++ mixedNames ++ ancientNames ++ syllabicNames ++ picturesNames

/-- The unified ideographs. -/
def ideographTable : CharTable :=
  [(0x3400, 0x4DBF), (0x4E00, 0x9FFF), (0x20000, 0x2A6DF), (0x2A700, 0x2B738), (0x2B740, 0x2B81D),
   (0x2B820, 0x2CEA1), (0x2CEB0, 0x2EBE0), (0x30000, 0x3134A)]

/-- Characters whose names are a stem and the code point. -/
def codedNames : List (String × CharTable) :=
  [("CJK COMPATIBILITY IDEOGRAPH-", [(0xF900, 0xFA6D), (0xFA70, 0xFAD9), (0x2F800, 0x2FA1D)]),
   ("KHITAN SMALL SCRIPT CHARACTER-", [(0x18B00, 0x18CD5)]), ("NUSHU CHARACTER-", [(0x1B170, 0x1B2FB)])]

/-- The consonants that begin a Korean syllable. -/
def syllableStarts : List String :=
  ["G", "GG", "N", "D", "DD", "R", "M", "B", "BB", "S", "SS", "", "J", "JJ", "C", "K", "T", "P", "H"]

/-- The vowels of a Korean syllable. -/
def syllableVowels : List String :=
  ["A", "AE", "YA", "YAE", "EO", "E", "YEO", "YE", "O", "WA", "WAE", "OE", "YO", "U", "WEO", "WE", "WI", "YU", "EU",
    "YI", "I"]

/-- The consonants that end a Korean syllable. -/
def syllableEnds : List String :=
  ["", "G", "GG", "GS", "N", "NJ", "NH", "D", "L", "LG", "LM", "LB", "LS", "LT", "LP", "LH", "M", "B", "BS", "S", "SS",
    "NG", "J", "C", "K", "T", "P", "H"]

/-- The small letters of ASCII as capitals. -/
def capitals (s : Text) : Text := s.map (·.map Char.toUpper)

/-- The longest of some texts with which a text begins: which one it is, and what follows it. -/
def longest? (parts : List String) (s : Text) : Option (Nat × Text) :=
  let found := parts.mapIdx fun i part => (afterStem? part.text s).map fun rest => (i, rest)
  found.foldl (fun best entry =>
    match best, entry with
    | some (i, rest), some (j, left) => if left.length < rest.length then some (j, left) else some (i, rest)
    | none, entry => entry
    | best, none => best) none

/-- The code point of a Korean syllable that is composed of named parts. -/
def syllable? (name : Text) : Option Nat := do
  let (start, rest) ← longest? syllableStarts name
  let (vowel, rest) ← longest? syllableVowels rest
  let (finish, rest) ← longest? syllableEnds rest
  if rest.isEmpty then return 0xAC00 + (start * 21 + vowel) * 28 + finish else none

/-- The number that capital hexadecimal digits write. -/
def capitalHex? (digits : Text) : Option Nat :=
  if digits.any (·.any Char.isLower) then none else hexNumber? digits

/-- The code point of a unified ideograph, which its name tells with four or five digits. -/
def ideograph? (digits : Text) : Option Nat := do
  let code ← capitalHex? digits
  if (digits.length = 4 || digits.length = 5) && ideographTable.hasCode code then return code else none

/-- The code point of a character with a name that ends in it. -/
def coded? (name : Text) : Option Nat :=
  codedNames.findSome? fun (stem, table) => do
    let digits ← afterStem? stem.text name
    let code ← capitalHex? digits
    if digits.length = (Nat.toDigits 16 code).length && table.hasCode code then return code else none

/-- The code point of a character with a name that is listed. -/
def listed? (name : Text) : Option Nat :=
  let name := capitals name
  ((coded? name).or (runs.findSome? fun run => run.code? name)).or
    (furtherNames.findSome? fun (code, names) => (index? name names).map fun _ => code)

/-- The code point of the character that has a name. -/
def code? (name : Text) : Option Nat :=
  match afterStem? "HANGUL SYLLABLE ".text name with
  | some parts => syllable? parts
  | none =>
    match afterStem? "CJK UNIFIED IDEOGRAPH-".text name with
    | some digits => ideograph? digits
    | none => listed? name

end HtmlTemplate.CharName
