import DocComments.Text.CharacterName
import DocComments.Text.Encoding.Fault
import DocComments.Text.Hex
import DocComments.Text.Loose

/-!
# Escaped text

Latin-1 text in which a backslash starts an escape.  In the full form (`readEscape`) there
are escapes by letter, by octal and by hexadecimal number and by name; in the raw form
(`readRawEscape`) only those with four or eight hexadecimal digits.  A backslash that starts
no escape stands for itself.
-/

namespace DocComments.Text

/-- What an escape stands for and how many bytes it takes behind its backslash; or how many
bytes are at fault, with the backslash, and why. -/
abbrev EscapeStep := Except (Nat × String) (List Sign × Nat)

/-- The value of a hexadecimal digit that is a byte. -/
def hexByte? (b : UInt8) : Option Nat :=
  hexValue? (Char.ofNat b.toNat)

/-- An escape whose letter is followed by `count` hexadecimal digits. -/
def readHexEscape (count : Nat) (truncated beyond : String) (bytes : List UInt8) : EscapeStep :=
  let digits := ((bytes.take count).map hexByte?).takeWhile Option.isSome
  if digits.length < count then .error (2 + digits.length, truncated)
  else
    let code := digits.foldl (fun n d => n * 16 + d.getD 0) 0
    if code < 0x110000 then .ok ([.ofCode code], 1 + count)
    else .error (2 + count, beyond)

/-- An escape by name, from behind its letter on. -/
def readNamedEscape (bytes : List UInt8) : EscapeStep :=
  let malformed := "malformed \\N character escape"
  match bytes with
  | 0x7B :: more =>
      let name := more.takeWhile (· ≠ 0x7D)
      if name.length = more.length then .error (3 + name.length, malformed)
      else if name.isEmpty then .error (3, malformed)
      else
        match CharacterName.find? (name.map fun b => Char.ofNat b.toNat) with
        | some code => .ok ([.ofCode code], 3 + name.length)
        | none => .error (4 + name.length, "unknown Unicode character name")
  | _ => .error (2, malformed)

/-- The character that a letter behind a backslash stands for. -/
def letterEscape? (b : UInt8) : Option Char :=
  [('\\', '\\'), ('\'', '\''), ('"', '"'), ('a', '\x07'), ('b', '\x08'), ('t', '\t'), ('n', '\n'),
    ('v', '\x0b'), ('f', '\x0c'), ('r', '\r')].lookup (Char.ofNat b.toNat)

/-- The reason against four hexadecimal digits that break off. -/
def truncatedFour : String := "truncated \\uXXXX escape"

/-- The reason against eight hexadecimal digits that break off. -/
def truncatedEight : String := "truncated \\UXXXXXXXX escape"

/-- **An escape of the full form**, from behind its backslash on. -/
def readEscape (bytes : List UInt8) : EscapeStep :=
  let beyond := "illegal Unicode character"
  match bytes with
  | [] => .error (1, "\\ at end of string")
  | b :: more =>
      if b = 0x0A then .ok ([], 1)
      else if b = 0x78 then readHexEscape 2 "truncated \\xXX escape" beyond more
      else if b = 0x75 then readHexEscape 4 truncatedFour beyond more
      else if b = 0x55 then readHexEscape 8 truncatedEight beyond more
      else if b = 0x4E then readNamedEscape more
      else
        match letterEscape? b with
        | some c => .ok ([.char c], 1)
        | none =>
            let digits := (bytes.take 3).takeWhile fun d => 0x30 ≤ d ∧ d ≤ 0x37
            if digits.isEmpty then .ok ([.char '\\', .ofCode b.toNat], 1)
            else
              let code := digits.foldl (fun n d => n * 8 + (d.toNat - 0x30)) 0
              .ok ([.ofCode code], digits.length)

/-- **An escape of the raw form**, from behind its backslash on. -/
def readRawEscape (bytes : List UInt8) : EscapeStep :=
  let beyond := "\\Uxxxxxxxx out of range"
  match bytes with
  | 0x75 :: more => readHexEscape 4 truncatedFour beyond more
  | 0x55 :: more => readHexEscape 8 truncatedEight beyond more
  | [] => .ok ([.char '\\'], 0)
  | b :: _ => .ok ([.char '\\', .ofCode b.toNat], 1)

/-- **The text of bytes with escapes**, as `escape` reads them; `offset` bytes came before. -/
def decodeEscaped (codec : String) (escape : List UInt8 → EscapeStep) (offset : Nat) :
    List UInt8 → LooseDecoded
  | [] => .ok []
  | b :: more =>
      if b = 0x5C then
        match escape more with
        | .error (width, reason) =>
            .error (.undecodable codec b offset (offset + width) reason)
        | .ok (text, taken) =>
            (decodeEscaped codec escape (offset + 1 + taken) (more.drop taken)).map (text ++ ·)
      else (decodeEscaped codec escape (offset + 1) more).map (.ofCode b.toNat :: ·)
termination_by bytes => bytes.length
decreasing_by all_goals simp only [List.length_drop, List.length_cons]; omega

end DocComments.Text
