import DocComments.Text.Encoding.CodePage
import DocComments.Text.Loose

/-!
# Punycode

Text in ASCII: its ASCII characters, a hyphen, and then numbers that tell which other
code points are to be put in and where.  A number is written in base 36, its digits from the
lowest on, and each digit has a threshold below which it is the last (`readNumber`,
`writeNumber`).  Each number moves on from where the last code point was put in, over all places
of the text for one code point and then to the next code point (`insertAll`, `insertions`).

A text is given by its code points, among which can be halves of pairs.
-/

namespace DocComments.Text

namespace Punycode

/-- The threshold of the digit at `place` of a number. -/
def threshold (place bias : Nat) : Nat :=
  max 1 (min 26 (36 * (place + 1) - bias))

/-- The value of a digit. -/
def digit? (c : Char) : Option Nat :=
  if 'A' ≤ c ∧ c ≤ 'Z' then some (c.toNat - 65)
  else if '0' ≤ c ∧ c ≤ '9' then some (c.toNat - 48 + 26)
  else none

/-- The digit with a given value. -/
def digitChar (value : Nat) : Char :=
  if value < 26 then Char.ofNat (0x61 + value) else Char.ofNat (0x30 + (value - 26))

/-- A number and the characters behind it; `place` digits came before, which make `value`, and
`weight` is the weight of the next. -/
def readNumber (bias place weight value : Nat) :
    List Char → Except Irregularity (Nat × List Char)
  | [] => .error .incompleteNumber
  | c :: more =>
      match digit? c with
      | none => .error (.notDigit c)
      | some digit =>
          let value := value + digit * weight
          if digit < threshold place bias then .ok (value, more)
          else readNumber bias (place + 1) (weight * (36 - threshold place bias)) value more

theorem length_readNumber {bias place weight value number : Nat} {chars more : List Char}
    (h : readNumber bias place weight value chars = .ok (number, more)) :
    more.length < chars.length := by
  induction chars generalizing place weight value with
  | nil => simp [readNumber] at h
  | cons c rest ih =>
      simp only [readNumber] at h
      split at h
      · simp at h
      · split at h
        · simp only [Except.ok.injEq, Prod.mk.injEq] at h; simp [h.2]
        · exact Nat.lt_succ_of_lt (ih h)

/-- How often a number can be divided by 35 before it is at most 455, 36 for each time, and
what is left of it then. -/
def scale (number : Nat) : Nat × Nat :=
  if 455 < number then
    let (steps, left) := scale (number / 35)
    (36 + steps, left)
  else (0, number)

/-- The bias after `number` has put in a code point, with which there are `size`. -/
def adapt (number : Nat) (isFirst : Bool) (size : Nat) : Nat :=
  let number := if isFirst then number / 700 else number / 2
  let (steps, left) := scale (number + number / size)
  steps + 36 * left / (left + 38)

/-! ### Reading -/

/-- **The text with all code points put in**: `code` is the last of them, `place` the place
behind it. -/
def insertAll (isFirst : Bool) (bias code place : Nat) (base : List Nat) (chars : List Char) :
    Except Irregularity (List Nat) :=
  if chars.isEmpty then .ok base
  else
    match _h : readNumber bias 0 1 0 chars with
    | .error e => .error e
    | .ok (number, more) =>
        let places := base.length + 1
        let code := code + (place + number) / places
        if 0x10FFFF < code then .error (.notCodePoint code)
        else
          let place := (place + number) % places
          insertAll false (adapt number isFirst places) code (place + 1)
            (base.insertIdx place code) more
termination_by chars.length
decreasing_by exact length_readNumber ‹_›

/-! ### Writing -/

/-- The digits of a number, as they are written with a given bias. -/
def writeNumber (bias place number : Nat) : List Char :=
  let t := threshold place bias
  if number < t then [digitChar number]
  else
    digitChar (t + (number - t) % (36 - t)) ::
      writeNumber bias (place + 1) ((number - t) / (36 - t))
termination_by number
decreasing_by
  have ht : 1 ≤ threshold place bias := by simp only [threshold]; omega
  calc (number - threshold place bias) / (36 - threshold place bias)
      ≤ number - threshold place bias := Nat.div_le_self _ _
    _ < number := by omega

/-- The places at which a code point is put in, each counted when all lower code points and the
same one at earlier places are there. -/
def placesOf (code : Nat) : List Nat → List Nat
  | [] => []
  | c :: more =>
      if c = code then 0 :: (placesOf code more).map (· + 1)
      else if c < code then (placesOf code more).map (· + 1)
      else placesOf code more

/-- The numbers that put in the code points `codes` of a text, which are given in ascending
order; `last` was put in before them, and `place` is the place behind it. -/
def insertions (text : List Nat) (last place : Nat) : List Nat → List Nat
  | [] => []
  | code :: more =>
      let places := placesOf code text
      let moved := ((text.filter (· < code)).length + 1) * (code - last)
      let numbers := (places.zip (place :: places.map (· + 1))).mapIdx fun n (goal, start) =>
        if n = 0 then moved + goal - start else goal - start
      numbers ++ insertions text code ((places.getLast?.map (· + 1)).getD place) more

/-- The digits of numbers, the bias adapting to each; there are `size` characters before them. -/
def writeNumbers (isFirst : Bool) (bias size : Nat) : List Nat → List Char
  | [] => []
  | number :: more =>
      writeNumber bias 0 number ++
        writeNumbers false (adapt number isFirst (size + 1)) (size + 1) more

end Punycode

/-- **What bytes in Punycode stand for.**  The last hyphen parts the ASCII characters from the
numbers; without one there are only numbers. -/
def readPunycode (bytes : List UInt8) : Except DecodeFault (List Nat) := do
  let numbers := (bytes.reverse.takeWhile (· ≠ 0x2D)).reverse
  let base ← decodeAscii (bytes.take (bytes.length - numbers.length - 1))
  let chars ← decodeAscii numbers
  (Punycode.insertAll true 72 0x80 0 (base.map Char.toNat) (chars.map Char.toUpper)).mapError
    .irregular

/-- **A text in Punycode.** -/
def writePunycode (text : List Nat) : List Char :=
  let base := text.filter (· < 0x80)
  let others := ((text.filter (0x80 ≤ ·)).mergeSort (· ≤ ·)).eraseReps
  (base.map Char.ofNat ++ if base.isEmpty then [] else ['-']) ++
    Punycode.writeNumbers true 72 base.length (Punycode.insertions text 0x80 0 others)

end DocComments.Text
