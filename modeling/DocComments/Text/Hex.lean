/-!
# Hexadecimal numerals of fixed width

Escapes write a code point as a fixed number of lower-case hexadecimal digits.
-/

namespace DocComments.Text

/-- The lower-case hexadecimal digit with value `n`, for `n < 16`. -/
def hexDigit (n : Nat) : Char :=
  if n < 10 then Char.ofNat (48 + n) else Char.ofNat (87 + n)

/-- The last `width` hexadecimal digits of `n`, the most significant one first. -/
def hexDigits (n : Nat) : Nat → List Char
  | 0 => []
  | width + 1 => hexDigits (n / 16) width ++ [hexDigit (n % 16)]

/-- The value of a hexadecimal digit in either case. -/
def hexValue? (c : Char) : Option Nat :=
  if '0' ≤ c && c ≤ '9' then some (c.toNat - 48)
  else if 'a' ≤ c && c ≤ 'f' then some (c.toNat - 87)
  else if 'A' ≤ c && c ≤ 'F' then some (c.toNat - 55)
  else none

@[simp] theorem hexDigits_zero (n : Nat) : hexDigits n 0 = [] := rfl

theorem hexDigits_succ (n width : Nat) :
    hexDigits n (width + 1) = hexDigits (n / 16) width ++ [hexDigit (n % 16)] := rfl

@[simp] theorem length_hexDigits (n width : Nat) : (hexDigits n width).length = width := by
  induction width generalizing n with
  | zero => rfl
  | succ width ih => simp [hexDigits_succ, ih]

/-- Reading a digit gives back the value it was written for. -/
theorem hexValue?_hexDigit {n : Nat} (h : n < 16) : hexValue? (hexDigit n) = some n := by
  revert n
  decide

end DocComments.Text
