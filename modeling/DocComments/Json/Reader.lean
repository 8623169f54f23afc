import DocComments.Json
import DocComments.Text.Numeral

/-!
# Reading JSON text

`Json.read` reads one value, which must be all there is in the text apart from blanks.  The
format is the standard one, widened by the words `NaN`, `Infinity` and `-Infinity` for
numbers; in an object a key that is repeated keeps its first place and its last value.  A
whole number may have no more than `maxDigits` digits, and arrays and objects may be nested no
more than `maxNesting` deep.

A reader takes the characters still to come and answers with what is left, or with the fault
it met and how many characters were left there.  The place of a fault is computed from that
number alone, at the end (`Json.Fault.ofProblem`).
-/

namespace DocComments.Json

open Text

/-- What can be wrong with a JSON text. -/
inductive Problem where
  | expectingValue
  | expectingName
  | expectingColon
  | expectingComma
  | extraData
  | unterminatedString
  | controlCharacter
  | invalidEscape
  | invalidUnicodeEscape
  | byteOrderMark
  | tooManyDigits (digits : Nat)
  | tooDeep (inObject : Bool)
  deriving DecidableEq, Repr

/-- How many digits a whole number may have. -/
def maxDigits : Nat := 4300

/-- How deep arrays and objects may be nested. -/
def maxNesting : Nat := 990

/-- What a problem is called. -/
def Problem.name : Problem → String
  | expectingValue => "Expecting value"
  | expectingName => "Expecting property name enclosed in double quotes"
  | expectingColon => "Expecting ':' delimiter"
  | expectingComma => "Expecting ',' delimiter"
  | extraData => "Extra data"
  | unterminatedString => "Unterminated string starting at"
  | controlCharacter => "Invalid control character at"
  | invalidEscape => "Invalid \\escape"
  | invalidUnicodeEscape => "Invalid \\uXXXX escape"
  | byteOrderMark => "Unexpected UTF-8 BOM (decode using utf-8-sig)"
  | tooManyDigits digits =>
      s!"Exceeds the limit ({maxDigits} digits) for integer string conversion: " ++
        s!"value has {digits} digits; use sys.set_int_max_str_digits() to increase the limit"
  | tooDeep inObject =>
      "maximum recursion depth exceeded while decoding a JSON " ++
        (if inObject then "object" else "array") ++ " from a unicode string"

/-- The problem is that the text is nested too deep, and not that it is wrong. -/
def Problem.isNesting : Problem → Bool
  | tooDeep _ => true
  | _ => false

/-- **A fault in a JSON text**: the problem and its place. -/
structure Fault where
  /-- What is wrong. -/
  problem : Problem
  /-- The line of the place, counted from one. -/
  line : Nat
  /-- The column of the place, counted from one. -/
  column : Nat
  /-- The number of characters before the place. -/
  offset : Nat
  deriving DecidableEq, Repr

/-- The wording of a fault.  It gives the place, except where a limit is exceeded. -/
def Fault.message (f : Fault) : String :=
  match f.problem with
  | .tooManyDigits _ | .tooDeep _ => f.problem.name
  | _ => s!"{f.problem.name}: line {f.line} column {f.column} (char {f.offset})"

/-- The place in `text` at which `left` characters are left. -/
def Fault.ofProblem (text : List Char) (problem : Problem) (left : Nat) : Fault :=
  let before := text.take (text.length - left)
  let tail := before.reverse.takeWhile (· ≠ '\n')
  ⟨problem, before.count '\n' + 1, tail.length + 1, before.length⟩

/-- What a reader answers with, as a rule a value and the characters behind it; where it
fails, a problem and how many characters were left at its place. -/
abbrev Reading := Except (Problem × Nat)

/-- The text without the blanks that JSON allows between its signs. -/
def skipBlanks (text : List Char) : List Char :=
  text.dropWhile fun c => c = ' ' || c = '\t' || c = '\n' || c = '\r'

/-! ### Strings -/

/-- The character of a one-letter escape. -/
def escaped? : Char → Option Char
  | '"' => some '"'
  | '\\' => some '\\'
  | '/' => some '/'
  | 'b' => some '\x08'
  | 'f' => some '\x0c'
  | 'n' => some '\n'
  | 'r' => some '\r'
  | 't' => some '\t'
  | _ => none

/-- The value of four hexadecimal digits. -/
def hexUnit? (a b c d : Char) : Option Nat := do
  let w ← hexValue? a
  let x ← hexValue? b
  let y ← hexValue? c
  let z ← hexValue? d
  pure (((w * 16 + x) * 16 + y) * 16 + z)

/-- The code unit is the first half of a character beyond U+FFFF. -/
def isHighHalf (unit : Nat) : Bool := 0xD800 ≤ unit && unit < 0xDC00

/-- The code unit is the second half of a character beyond U+FFFF. -/
def isLowHalf (unit : Nat) : Bool := 0xDC00 ≤ unit && unit < 0xE000

/-- The escape with which `text` continues, four digits and at least one more character. -/
def unitEscape? : List Char → Option (Option Nat × List Char)
  | a :: b :: c :: d :: e :: more => some (hexUnit? a b c d, e :: more)
  | _ => none

/-- What a piece of a string is: a sign, the closing quote, or a fault. -/
inductive Piece where
  | sign (s : Sign) (more : List Char)
  | close (more : List Char)
  | fault (problem : Problem) (left : Nat)

/-- The escape behind `\u`, where `digits` begins with its digits.  Two halves of one
character are read together, and any other half stands alone. -/
def unicodePiece (digits : List Char) : Piece :=
  match unitEscape? digits with
  | none => .fault .invalidUnicodeEscape (digits.length + 1)
  | some (none, _) => .fault .invalidUnicodeEscape (digits.length + 1)
  | some (some unit, more) =>
      if isHighHalf unit then
        match more with
        | '\\' :: 'u' :: second =>
            match unitEscape? second with
            | none => .sign (.ofCode unit) more
            | some (none, _) => .fault .invalidUnicodeEscape (second.length + 1)
            | some (some low, behind) =>
                if isLowHalf low then
                  .sign (.ofCode (0x10000 + (unit - 0xD800) * 0x400 + (low - 0xDC00))) behind
                else .sign (.ofCode unit) more
        | _ => .sign (.ofCode unit) more
      else .sign (.ofCode unit) more

/-- The first piece of a string that opened with `opening` characters left. -/
def piece (opening : Nat) : List Char → Piece
  | [] => .fault .unterminatedString opening
  | '"' :: more => .close more
  | '\\' :: 'u' :: digits => unicodePiece digits
  | '\\' :: e :: more =>
      match escaped? e with
      | some c => .sign (.char c) more
      | none => .fault .invalidEscape (more.length + 2)
  | c :: more =>
      if c = '\\' then .fault .unterminatedString opening
      else if c.toNat ≤ 0x1F then .fault .controlCharacter (more.length + 1)
      else .sign (.char c) more

theorem length_unitEscape? {text more : List Char} {unit : Option Nat}
    (h : unitEscape? text = some (unit, more)) : more.length < text.length := by
  unfold unitEscape? at h
  split at h
  · simp only [Option.some.injEq, Prod.mk.injEq] at h
    obtain ⟨-, rfl⟩ := h
    simp only [List.length_cons]
    omega
  · simp at h

theorem length_unicodePiece {digits more : List Char} {s : Sign}
    (h : unicodePiece digits = .sign s more) : more.length < digits.length := by
  unfold unicodePiece at h
  split at h
  · simp at h
  · simp at h
  · next unit rest hrest =>
      have h₁ := length_unitEscape? hrest
      split at h
      · split at h
        · next second =>
            split at h
            · simp only [Piece.sign.injEq] at h
              obtain ⟨-, rfl⟩ := h
              exact h₁
            · simp at h
            · next low behind hlow =>
                have h₂ := length_unitEscape? hlow
                simp only [List.length_cons] at h₁
                split at h <;> simp only [Piece.sign.injEq] at h <;> obtain ⟨-, rfl⟩ := h
                · omega
                · simpa using h₁
        · simp only [Piece.sign.injEq] at h
          obtain ⟨-, rfl⟩ := h
          exact h₁
      · simp only [Piece.sign.injEq] at h
        obtain ⟨-, rfl⟩ := h
        exact h₁

/-- A piece that is a sign leaves less to read. -/
theorem length_piece {opening : Nat} {text more : List Char} {s : Sign}
    (h : piece opening text = .sign s more) : more.length < text.length := by
  unfold piece at h
  split at h
  · simp at h
  · simp at h
  · have := length_unicodePiece h
    simp only [List.length_cons]
    omega
  · split at h
    · simp only [Piece.sign.injEq] at h
      obtain ⟨-, rfl⟩ := h
      simp only [List.length_cons]
      omega
    · simp at h
  · split at h
    · simp at h
    · split at h
      · simp at h
      · simp only [Piece.sign.injEq] at h
        obtain ⟨-, rfl⟩ := h
        simp

/-- **The rest of a string** behind its opening quote, which had `opening` characters from it
to the end; `done` are the signs read so far, the last one first. -/
def readString (opening : Nat) (done : List Sign) (text : List Char) :
    Reading (LooseString × List Char) :=
  match _h : piece opening text with
  | .fault problem left => .error (problem, left)
  | .close more => .ok (⟨done.reverse⟩, more)
  | .sign s more => readString opening (s :: done) more
termination_by text.length
decreasing_by exact length_piece ‹_›

/-! ### Numbers -/

/-- The value of a list of decimal digits. -/
def digitsValue (digits : List Char) : Nat :=
  digits.foldl (fun n c => n * 10 + (c.toNat - 48)) 0

/-- The whole part at the start of a text: a single zero, or digits that start with another
one. -/
def wholeDigits : List Char → List Char
  | '0' :: _ => ['0']
  | text => text.takeWhile isAsciiDigit

/-- The digits of the fraction at the start of a text. -/
def fractionDigits : List Char → List Char
  | '.' :: more => more.takeWhile isAsciiDigit
  | _ => []

/-- The exponent at the start of a text: its value, and what stands behind it. -/
def readExponent? : List Char → Option (Int × List Char)
  | e :: more =>
      if e = 'e' ∨ e = 'E' then
        let signed := more.head? = some '-' ∨ more.head? = some '+'
        let digits := (if signed then more.drop 1 else more).takeWhile isAsciiDigit
        if digits.isEmpty then none
        else
          let value : Int := digitsValue digits
          some (if more.head? = some '-' then -value else value,
            (if signed then more.drop 1 else more).drop digits.length)
      else none
  | [] => none

/-- The number at the start of a text, the sign already read; `start` characters were left
before the sign. -/
def readNumber (start : Nat) (negative : Bool) (text : List Char) : Reading (Json × List Char) :=
  let whole := wholeDigits text
  if whole.isEmpty then .error (.expectingValue, start)
  else
    let behindWhole := text.drop whole.length
    let fraction := fractionDigits behindWhole
    let behind := if fraction.isEmpty then behindWhole else behindWhole.drop (fraction.length + 1)
    match readExponent? behind with
    | some (power, more) =>
        .ok (.real (.ofDecimal negative (digitsValue (whole ++ fraction))
          (power - fraction.length)), more)
    | none =>
        if !fraction.isEmpty then
          .ok (.real (.ofDecimal negative (digitsValue (whole ++ fraction))
            (-(fraction.length : Int))), behind)
        else if whole.length > maxDigits then .error (.tooManyDigits whole.length, start)
        else
          let n : Int := digitsValue whole
          .ok (.int (if negative then -n else n), behind)

/-! ### Values -/

/-- The words that stand for values. -/
def constantWords : List (List Char × Json) :=
  [("null".toList, .null), ("true".toList, .bool true), ("false".toList, .bool false),
    ("NaN".toList, .real .nan), ("Infinity".toList, .real (.infinite false)),
    ("-Infinity".toList, .real (.infinite true))]

/-- The word or number at the start of a text. -/
def readAtom (text : List Char) : Reading (Json × List Char) :=
  match constantWords.find? (·.1.isPrefixOf text) with
  | some (word, value) => .ok (value, text.drop word.length)
  | none =>
      match text with
      | '-' :: more => readNumber text.length true more
      | text => readNumber text.length false text

mutual

/-- **The value at the start** of a text, no more than `depth` readers deep; arrays and objects
may be nested `room` deep in it. -/
def readValue : Nat → Nat → List Char → Reading (Json × List Char)
  | 0, _, text => .error (.expectingValue, text.length)
  | depth + 1, room, text =>
      match text, room with
      | '"' :: more, _ => do
          let (s, rest) ← readString text.length [] more
          pure (.string s, rest)
      | '[' :: more, 0 => .error (.tooDeep false, more.length + 1)
      | '[' :: more, room + 1 =>
          match skipBlanks more with
          | ']' :: rest => pure (.array [], rest)
          | start => do
              let (items, rest) ← readItems depth room start
              pure (.array items, rest)
      | '\x7b' :: more, 0 => .error (.tooDeep true, more.length + 1)
      | '\x7b' :: more, room + 1 =>
          match skipBlanks more with
          | '\x7d' :: rest => pure (.object [], rest)
          | start => do
              let (members, rest) ← readMembers depth room start
              pure (.object (OrderedMap.ofEntries members), rest)
      | text, _ => readAtom text

/-- The items of an array from the first one on, and its closing bracket. -/
def readItems : Nat → Nat → List Char → Reading (List Json × List Char)
  | 0, _, text => .error (.expectingValue, text.length)
  | depth + 1, room, text => do
      let (item, rest) ← readValue depth room text
      match skipBlanks rest with
      | ']' :: more => pure ([item], more)
      | ',' :: more => do
          let (items, rest) ← readItems depth room (skipBlanks more)
          pure (item :: items, rest)
      | rest => .error (.expectingComma, rest.length)

/-- The members of an object from the first one on, and its closing bracket. -/
def readMembers : Nat → Nat → List Char → Reading (List (LooseString × Json) × List Char)
  | 0, _, text => .error (.expectingName, text.length)
  | depth + 1, room, text =>
      match text with
      | '"' :: more => do
          let (key, rest) ← readString text.length [] more
          match skipBlanks rest with
          | ':' :: more => do
              let (value, rest) ← readValue depth room (skipBlanks more)
              match skipBlanks rest with
              | '\x7d' :: more => pure ([(key, value)], more)
              | ',' :: more => do
                  let (members, rest) ← readMembers depth room (skipBlanks more)
                  pure ((key, value) :: members, rest)
              | rest => .error (.expectingComma, rest.length)
          | rest => .error (.expectingColon, rest.length)
      | text => .error (.expectingName, text.length)

end

/-- **Reads a JSON text.**  Every reader inside takes at least one character before it calls
another twice, so the depth that is allowed is never used up. -/
def read (source : String) : Except Fault Json :=
  let text := source.toList
  let result : Reading (Json × List Char) :=
    if text.head? = some '\ufeff' then .error (.byteOrderMark, text.length)
    else do
      let (value, rest) ← readValue (2 * text.length + 2) maxNesting (skipBlanks text)
      match skipBlanks rest with
      | [] => pure (value, [])
      | rest => .error (.extraData, rest.length)
  match result with
  | .ok (value, _) => .ok value
  | .error (problem, left) => .error (.ofProblem text problem left)

end DocComments.Json
