import DocComments.Text.Hex
import DocComments.Text.Loose
import DocComments.Text.Printable

/-!
# Texts in quotes

Messages show a text between quotes, so that its ends and its unprintable characters can be
seen.  Single quotes are used, unless the text holds a single quote and no double quote.
The quote in use and the backslash are escaped by a backslash; newline, carriage return and
tab by their letters; every other character that does not print by its code point, in two,
four or eight hexadecimal digits.  So is a half of a pair that stands alone.
-/

namespace DocComments.Text

/-- The quote around `text`: single, unless that costs an escape and double does not. -/
def chooseQuote (text : List Char) : Char :=
  if '\'' ∈ text ∧ '"' ∉ text then '"' else '\''

/-- A code point as an escape, in the shortest of the three widths. -/
def escapeCodePoint (code : Nat) : List Char :=
  if code < 0x100 then '\\' :: 'x' :: hexDigits code 2
  else if code < 0x10000 then '\\' :: 'u' :: hexDigits code 4
  else '\\' :: 'U' :: hexDigits code 8

/-- One character of a quoted text. -/
def escapeChar (quote c : Char) : List Char :=
  if c = quote ∨ c = '\\' then ['\\', c]
  else if c = '\n' then ['\\', 'n']
  else if c = '\r' then ['\\', 'r']
  else if c = '\t' then ['\\', 't']
  else if isPrintable c then [c]
  else escapeCodePoint c.toNat

/-- One sign of a quoted text. -/
def escapeSign (quote : Char) : Sign → List Char
  | .char c => escapeChar quote c
  | .half index => escapeCodePoint (Sign.half index).code

/-- A loose text as a string, with an escape for each half that stands alone. -/
def LooseString.escaped (text : LooseString) : String :=
  String.ofList (text.signs.flatMap fun s =>
    match s with
    | .char c => [c]
    | .half index => escapeCodePoint (Sign.half index).code)

/-- **The quoted form** of a loose text. -/
def LooseString.quoted (text : LooseString) : String :=
  let quote := chooseQuote (text.signs.filterMap Sign.char?)
  String.ofList (quote :: text.signs.flatMap (escapeSign quote) ++ [quote])

/-- **The quoted form** of a text. -/
def quoted (text : String) : String :=
  (LooseString.ofString text).quoted

/-- The quoted form of a text is made of its characters one by one. -/
theorem toList_quoted (text : String) :
    (quoted text).toList =
      chooseQuote text.toList ::
        text.toList.flatMap (escapeChar (chooseQuote text.toList)) ++
          [chooseQuote text.toList] := by
  have h : (text.toList.map Sign.char).filterMap Sign.char? = text.toList := by
    simp [List.filterMap_map, Function.comp_def]
  simp [quoted, LooseString.quoted, LooseString.ofString, h, List.flatMap_map, escapeSign]

end DocComments.Text
