import DocComments.Text.CharacterName.Ancient
import DocComments.Text.CharacterName.Brahmic
import DocComments.Text.CharacterName.Compatibility
import DocComments.Text.CharacterName.Cuneiform
import DocComments.Text.CharacterName.EastAsian
import DocComments.Text.CharacterName.Hieroglyphic
import DocComments.Text.CharacterName.Indic
import DocComments.Text.CharacterName.Kana
import DocComments.Text.CharacterName.Middle
import DocComments.Text.CharacterName.Modern
import DocComments.Text.CharacterName.Other
import DocComments.Text.CharacterName.Phonetic
import DocComments.Text.CharacterName.Pictures
import DocComments.Text.CharacterName.Semitic
import DocComments.Text.CharacterName.Signs
import DocComments.Text.CharacterName.Supplements
import DocComments.Text.CharacterName.Syllabic
import DocComments.Text.CharacterName.Western
import DocComments.Text.CharacterName.Written
import DocComments.Text.Hex
import DocComments.Text.Ranges

/-!
# Names of characters

A character can be asked for by its name.  The names of ideographs, of syllables of Hangul and of
some other characters follow rules; all others are in tables.  Case counts only in the names of
unified ideographs and of syllables.
-/

namespace DocComments.Text.CharacterName

/-! ### Names that follow rules -/

/-- What is left of a text behind its beginning, if it begins so. -/
def behind? (beginning : String) (text : List Char) : Option (List Char) :=
  if beginning.toList.isPrefixOf text then some (text.drop beginning.length) else none

/-- The unified ideographs. -/
def ideographs : Ranges :=
  [(0x3400, 0x4DBF), (0x4E00, 0x9FFF), (0x20000, 0x2A6DF), (0x2A700, 0x2B738),
    (0x2B740, 0x2B81D), (0x2B820, 0x2CEA1), (0x2CEB0, 0x2EBE0), (0x30000, 0x3134A)]

/-- The value of hexadecimal digits in capital letters. -/
def hexNumber? (digits : List Char) : Option Nat :=
  if digits.any Char.isLower then none
  else digits.foldlM (fun n c => (hexValue? c).map (n * 16 + ·)) 0

/-- The ideograph whose name ends with some digits, four or five. -/
def ideograph? (digits : List Char) : Option Nat :=
  if digits.length = 4 ∨ digits.length = 5 then (hexNumber? digits).filter ideographs.containsCode
  else none

/-- How initial letters of Hangul are called. -/
def initialNames : List String :=
  ["G", "GG", "N", "D", "DD", "R", "M", "B", "BB", "S", "SS", "", "J", "JJ", "C", "K", "T", "P",
    "H"]

/-- How medial letters of Hangul are called. -/
def medialNames : List String :=
  ["A", "AE", "YA", "YAE", "EO", "E", "YEO", "YE", "O", "WA", "WAE", "OE", "YO", "U", "WEO", "WE",
    "WI", "YU", "EU", "YI", "I"]

/-- How final letters of Hangul are called, none the first of them. -/
def finalNames : List String :=
  ["", "G", "GG", "GS", "N", "NJ", "NH", "D", "L", "LG", "LM", "LB", "LS", "LT", "LP", "LH", "M",
    "B", "BS", "S", "SS", "NG", "J", "C", "K", "T", "P", "H"]

/-- The longest of some names that a text begins with, by number, and what is left behind it. -/
def longest? (names : List String) (text : List Char) : Option (Nat × List Char) :=
  let fitting := names.zipIdx.filter fun (name, _) => name.toList.isPrefixOf text
  (fitting.foldl (fun best (name, n) =>
      match best with
      | some (length, _) => if length < name.length then some (name.length, n) else best
      | none => some (name.length, n)) none).map
    fun (length, n) => (n, text.drop length)

/-- The syllable whose name ends with the names of its letters. -/
def syllable? (letters : List Char) : Option Nat := do
  let (initial, rest) ← longest? initialNames letters
  let (medial, rest) ← longest? medialNames rest
  let (final, rest) ← longest? finalNames rest
  if rest.isEmpty then some (0xAC00 + (initial * 21 + medial) * 28 + final) else none

/-- The characters whose names end with their code points. -/
def numbered : List (String × Ranges) :=
  [("CJK COMPATIBILITY IDEOGRAPH-", [(0xF900, 0xFA6D), (0xFA70, 0xFAD9), (0x2F800, 0x2FA1D)]),
    ("KHITAN SMALL SCRIPT CHARACTER-", [(0x18B00, 0x18CD5)]),
    ("NUSHU CHARACTER-", [(0x1B170, 0x1B2FB)])]

/-- The character whose name ends with its code point, which is written without leading zeros. -/
def numbered? (name : List Char) : Option Nat :=
  numbered.findSome? fun (beginning, codes) =>
    (behind? beginning name).bind fun digits =>
      if digits.head? = some '0' then none else (hexNumber? digits).filter codes.containsCode

/-- The variation selector whose name, long or short, ends with its number. -/
def selector? (name : List Char) : Option Nat := do
  let digits ← behind? "VARIATION SELECTOR-" name <|> behind? "VS" name
  if digits.head? = some '0' || digits.isEmpty || !digits.all Char.isDigit then none
  else
    let number := digits.foldl (fun n c => n * 10 + (c.toNat - '0'.toNat)) 0
    if number ≤ 16 then some (0xFE00 + (number - 1))
    else if number ≤ 256 then some (0xE0100 + (number - 17))
    else none

/-! ### All names -/

/-- The tables of names. -/
def tables : List NameTable :=
  [western, semitic, indic, middle, phonetic, signs, supplements, eastAsian, syllabic,
    compatibility, ancient, brahmic, cuneiform, hieroglyphic, modern, kana, written, pictures]

/-- **The code point of the character with a given name**, if there is one. -/
def find? (name : List Char) : Option Nat :=
  match behind? "HANGUL SYLLABLE " name, behind? "CJK UNIFIED IDEOGRAPH-" name with
  | some letters, _ => syllable? letters
  | none, some digits => ideograph? digits
  | none, none =>
      let name := name.map Char.toUpper
      numbered? name <|> selector? name <|> otherNames.lookup (String.ofList name) <|>
        tables.findSome? fun t => t.find? name

end DocComments.Text.CharacterName
