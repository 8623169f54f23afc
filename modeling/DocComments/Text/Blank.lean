import DocComments.Text.Ranges

/-!
# Blank characters

The characters that separate words: Unicode's white space together with the four
information separators U+001C to U+001F.  The zero-width space U+200B and the byte-order
mark U+FEFF are not among them.  A newline is blank, and it is the only character that
ends a line.
-/

namespace DocComments.Text

/-- The blank characters, by code point. -/
def blankRanges : Ranges :=
  [(0x9, 0xD), (0x1C, 0x20), (0x85, 0x85), (0xA0, 0xA0), (0x1680, 0x1680), (0x2000, 0x200A),
    (0x2028, 0x2029), (0x202F, 0x202F), (0x205F, 0x205F), (0x3000, 0x3000)]

/-- The character separates words. -/
def isBlank (c : Char) : Bool := blankRanges.contains c

/-- Every character that core calls white space is blank. -/
theorem isBlank_of_isWhitespace {c : Char} (h : c.isWhitespace = true) : isBlank c = true := by
  simp only [Char.isWhitespace, Bool.or_eq_true, decide_eq_true_eq] at h
  rcases h with ((h | h) | h) | h <;> subst h <;> decide

theorem isBlank_newline : isBlank '\n' = true := by decide

end DocComments.Text
