import DocComments.Text.Encoding.Fault

/-!
# UTF-8

A sequence is checked byte by byte, so the bytes reported are exactly those that began a
possible character.  `decodeUtf8Marked` lets a byte-order mark stand before the text.
-/

namespace DocComments.Text

/-- A character of UTF-8 and the bytes behind it, or how many bytes are at fault and why. -/
abbrev Utf8Step := Except (Nat × String) (Char × List UInt8)

/-- The `needed` bytes that continue a character; `seen` bytes came before them and make
`value`.  The first of them lies between `low` and `high`. -/
def utf8Tail (low high seen value : Nat) : Nat → List UInt8 → Utf8Step
  | 0, more => .ok (Char.ofNat value, more)
  | _ + 1, [] => .error (seen, "unexpected end of data")
  | needed + 1, b :: more =>
      if low ≤ b.toNat ∧ b.toNat ≤ high then
        utf8Tail 0x80 0xBF (seen + 1) (value * 64 + (b.toNat - 0x80)) needed more
      else .error (seen, "invalid continuation byte")

/-- The character that starts with byte `b`. -/
def utf8Char (b : UInt8) (more : List UInt8) : Utf8Step :=
  let n := b.toNat
  if n < 0x80 then .ok (Char.ofNat n, more)
  else if n < 0xC2 then .error (1, "invalid start byte")
  else if n < 0xE0 then utf8Tail 0x80 0xBF 1 (n - 0xC0) 1 more
  else if n < 0xF0 then
    utf8Tail (if n = 0xE0 then 0xA0 else 0x80) (if n = 0xED then 0x9F else 0xBF) 1 (n - 0xE0) 2
      more
  else if n < 0xF5 then
    utf8Tail (if n = 0xF0 then 0x90 else 0x80) (if n = 0xF4 then 0x8F else 0xBF) 1 (n - 0xF0) 3
      more
  else .error (1, "invalid start byte")

theorem length_utf8Tail {low high seen value needed : Nat} {bytes more : List UInt8} {c : Char}
    (h : utf8Tail low high seen value needed bytes = .ok (c, more)) :
    more.length ≤ bytes.length := by
  induction needed generalizing low high seen value bytes with
  | zero => simp only [utf8Tail, Except.ok.injEq, Prod.mk.injEq] at h; simp [h.2]
  | succ needed ih =>
      cases bytes with
      | nil => simp [utf8Tail] at h
      | cons b rest =>
          simp only [utf8Tail] at h
          split at h
          · exact Nat.le_succ_of_le (ih h)
          · simp at h

theorem length_utf8Char {b : UInt8} {bytes more : List UInt8} {c : Char}
    (h : utf8Char b bytes = .ok (c, more)) : more.length ≤ bytes.length := by
  simp only [utf8Char] at h
  split at h
  · simp only [Except.ok.injEq, Prod.mk.injEq] at h; simp [h.2]
  split at h
  · simp at h
  split at h
  · exact length_utf8Tail h
  split at h
  · exact length_utf8Tail h
  split at h
  · exact length_utf8Tail h
  · simp at h

/-- **The text of bytes in UTF-8**; `offset` bytes came before them.  A character has but one
form in UTF-8, so it tells itself how many bytes it took. -/
def decodeUtf8 (offset : Nat) : List UInt8 → Decoded
  | [] => .ok []
  | b :: rest =>
      match _h : utf8Char b rest with
      | .error (width, reason) =>
          .error (.undecodable "utf-8" b offset (offset + width) reason)
      | .ok (c, more) =>
          (decodeUtf8 (offset + c.utf8Size) more).map (c :: ·)
termination_by bytes => bytes.length
decreasing_by exact Nat.lt_succ_of_le (length_utf8Char ‹_›)

/-- The text of bytes in UTF-8 behind a byte-order mark, if there is one.  The beginning of a
mark on its own is no text. -/
def decodeUtf8Marked (bytes : List UInt8) : Decoded :=
  if bytes.isPrefixOf [0xEF, 0xBB] then .ok []
  else
    match bytes with
    | 0xEF :: 0xBB :: 0xBF :: more => decodeUtf8 0 more
    | bytes => decodeUtf8 0 bytes

end DocComments.Text
