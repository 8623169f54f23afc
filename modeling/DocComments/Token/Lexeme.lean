import DocComments.Text.Blank
import DocComments.Text.Letter
import DocComments.Text.Numeral
import DocComments.Token

/-!
# Reading one lexeme

Everything the lexer knows about the *text* of tokens, as functions of the characters that
are still to come: what may stand between tokens (`gapLength`), how far a name, a number, a
string, a regular expression, a comment or an operator reaches, and which of these starts
here (`Lexeme.read`).  No function here knows about lines, columns or earlier tokens, apart
from the one bit that says whether a slash may open a regular expression.

A reader answers with a number of characters, its *width*.  What is load-bearing for the
lexer is that a width is positive (`Lexeme.width_read_pos`) and that a gap never reaches
beyond the text (`gapLength_le`): together they make every step of the lexer progress.
-/

namespace DocComments

open Text

/-! ### Names -/

/-- The character may start a name. -/
def isNameStart (c : Char) : Bool :=
  isLetter c || c = '_' || c = '$'

/-- The character may stand inside a name. -/
def isNamePart (c : Char) : Bool :=
  isLetter c || isNumeric c || c = '_' || c = '$'

/-- The reserved words.  `true`, `false` and `null` are not among them. -/
def keywords : List String :=
  ["break", "case", "catch", "continue", "default", "delete", "do", "else", "finally", "for",
    "function", "if", "in", "instanceof", "new", "return", "switch", "this", "throw", "try",
    "typeof", "var", "void", "while", "with"]

/-- The kind of a name: a reserved word, or a plain identifier. -/
def nameKind (name : List Char) : TokenKind :=
  if keywords.contains (String.ofList name) then .keyword else .ident

/-! ### Numbers -/

/-- The fraction at the start of a text: a point and any number of digits, or nothing. -/
def fractionChars : List Char → List Char
  | '.' :: more => '.' :: more.takeWhile isDigit
  | _ => []

/-- The exponent at the start of a text: a letter `e`, a sign or none, and at least one
digit, or nothing. -/
def exponentChars : List Char → List Char
  | e :: sign :: more =>
      if e = 'e' ∨ e = 'E' then
        if isDigit sign then e :: sign :: more.takeWhile isDigit
        else if sign = '+' ∨ sign = '-' then
          match more.takeWhile isDigit with
          | [] => []
          | digits => e :: sign :: digits
        else []
      else []
  | _ => []

/-- The decimal number at the start of a text: digits, a fraction and an exponent, each of
which may be missing. -/
def decimalChars (text : List Char) : List Char :=
  let whole := text.takeWhile isDigit
  let fraction := fractionChars (text.drop whole.length)
  let exponent := exponentChars (text.drop (whole.length + fraction.length))
  whole ++ fraction ++ exponent

/-- The number at the start of a text: hexadecimal behind `0x` or `0X`, else decimal. -/
def numberChars : List Char → List Char
  | '0' :: x :: more =>
      if x = 'x' ∨ x = 'X' then '0' :: x :: more.takeWhile isHexDigit
      else decimalChars ('0' :: x :: more)
  | text => decimalChars text

/-- A number starts here: with a digit, or with a point and a digit. -/
def startsNumber : List Char → Bool
  | '.' :: d :: _ => isDigit d
  | c :: _ => isDigit c
  | [] => false

/-! ### Strings and regular expressions -/

/-- **The body of a string** behind its opening quote: whether the closing quote was met, and
the characters before it.  A backslash takes the next character with it, whatever it is; a
newline that no backslash takes ends the reading. -/
def stringBody (quote : Char) : List Char → Bool × List Char
  | [] => (false, [])
  | '\\' :: c :: more =>
      let r := stringBody quote more
      (r.1, '\\' :: c :: r.2)
  | c :: more =>
      if c = '\\' then (false, [c])
      else if c = quote then (true, [])
      else if c = '\n' then (false, [])
      else
        let r := stringBody quote more
        (r.1, c :: r.2)

/-- **The body of a regular expression** behind its opening slash: whether the closing slash
was met, and the characters up to and with it.  Between `[` and `]` a slash does not close;
a backslash takes the next character with it; a newline that no backslash takes ends the
reading. -/
def regexBody (inClass : Bool) : List Char → Bool × List Char
  | [] => (false, [])
  | '\\' :: c :: more =>
      let r := regexBody inClass more
      (r.1, '\\' :: c :: r.2)
  | c :: more =>
      if c = '\\' then (false, [c])
      else if c = '\n' then (false, [])
      else if c = '/' ∧ inClass = false then (true, [c])
      else
        let r := regexBody (if c = '[' then true else if c = ']' then false else inClass) more
        (r.1, c :: r.2)

/-! ### Comments and gaps -/

/-- What stands before the first `*/`, if there is one. -/
def commentBody? : List Char → Option (List Char)
  | [] => none
  | '*' :: '/' :: _ => some []
  | c :: more => (commentBody? more).map (c :: ·)

/-- A doc-comment opens here.  The empty comment `/**/` is a plain one. -/
def startsDocComment : List Char → Bool
  | '/' :: '*' :: '*' :: '/' :: _ => false
  | '/' :: '*' :: '*' :: _ => true
  | _ => false

/-- The width of the complete plain comment that starts here; zero if there is none.  A line
comment stops before its newline. -/
def plainCommentLength (text : List Char) : Nat :=
  match text with
  | '/' :: '/' :: more => (more.takeWhile (· ≠ '\n')).length + 2
  | '/' :: '*' :: more =>
      if startsDocComment text then 0
      else
        match commentBody? more with
        | some body => body.length + 4
        | none => 0
  | _ => 0

/-- **The width of the gap** at the start of a text: blanks and complete plain comments, as
many as there are. -/
def gapLength : List Char → Nat
  | [] => 0
  | c :: more =>
      if isBlank c then gapLength more + 1
      else
        let n := plainCommentLength (c :: more)
        if n = 0 then 0 else n + gapLength (more.drop (n - 1))
termination_by text => text.length
decreasing_by
  all_goals simp only [List.length_cons, List.length_drop]; omega

/-! ### Operators -/

/-- The operators and brackets, longer ones before shorter ones. -/
def punctuators : List String :=
  [">>>=", "===", "!==", ">>>", "<<=", ">>=",
    "<=", ">=", "==", "!=", "++", "--", "<<", ">>", "&&", "||", "+=", "-=", "*=", "%=", "&=",
    "|=", "^=", "/=",
    "\x7b", "\x7d", "(", ")", "[", "]", ";", ",", ".", ":", "?", "~", "<", ">", "+", "-", "*",
    "%", "&", "|", "^", "!", "=", "/"]

/-- The longest operator at the start of a text; a single character where there is none. -/
def punctChars (c : Char) (more : List Char) : List Char :=
  ((punctuators.map String.toList).find? (·.isPrefixOf (c :: more))).getD [c]

/-! ### The lexeme -/

/-- The constructs that can be left open. -/
inductive Construct where
  | string
  | regex
  | comment
  deriving DecidableEq, Repr

/-- **What stands at the start of a text**: a token with its kind, its text and its width, or
a construct that is never closed and the width read in search of its end. -/
inductive Lexeme where
  | token (kind : TokenKind) (text : List Char) (width : Nat)
  | unterminated (what : Construct) (width : Nat)
  deriving DecidableEq, Repr

namespace Lexeme

/-- How many characters the lexeme takes. -/
def width : Lexeme → Nat
  | token _ _ width => width
  | unterminated _ width => width

/-- The comment that opens with the two characters before `more`. -/
def comment (more : List Char) : Lexeme :=
  match commentBody? more with
  | some body => .token .docComment (body.drop 1) (body.length + 4)
  | none => .unterminated .comment (more.length + 2)

/-- The string that opens with `quote`. -/
def string (quote : Char) (more : List Char) : Lexeme :=
  match stringBody quote more with
  | (true, body) => .token .string body (body.length + 2)
  | (false, body) => .unterminated .string (body.length + 1)

/-- The regular expression that opens with the slash before `more`; the letters behind its
closing slash belong to it. -/
def regex (more : List Char) : Lexeme :=
  match regexBody false more with
  | (true, body) =>
      let flags := (more.drop body.length).takeWhile isLetter
      .token .regex ('/' :: body ++ flags) (body.length + flags.length + 1)
  | (false, body) => .unterminated .regex (body.length + 1)

/-- **The lexeme at the start** of the text `c :: more`, where no gap precedes it.
`regexAllowed` says that a slash here opens a regular expression and is no division. -/
def read (regexAllowed : Bool) (c : Char) (more : List Char) : Lexeme :=
  if c = '/' ∧ more.head? = some '*' then comment more.tail
  else if isNameStart c then
    let name := c :: more.takeWhile isNamePart
    .token (nameKind name) name name.length
  else if startsNumber (c :: more) then
    let number := numberChars (c :: more)
    .token .number number number.length
  else if c = '"' ∨ c = '\'' then string c more
  else if c = '/' ∧ regexAllowed = true then regex more
  else
    let punct := punctChars c more
    .token .punct punct punct.length

end Lexeme

/-! ### Widths -/

theorem commentBody?_length {text body : List Char} (h : commentBody? text = some body) :
    body.length + 2 ≤ text.length := by
  fun_induction commentBody? text generalizing body with
  | case1 => simp at h
  | case2 => simp only [Option.some.injEq] at h; subst h; simp
  | case3 c more _ ih =>
      obtain ⟨b, hb, rfl⟩ := Option.map_eq_some_iff.1 h
      have := ih hb
      simp only [List.length_cons]
      omega

theorem plainCommentLength_le (text : List Char) : plainCommentLength text ≤ text.length := by
  unfold plainCommentLength
  split
  · next more =>
      have := (List.takeWhile_sublist (· ≠ '\n') (l := more)).length_le
      simp only [List.length_cons]
      omega
  · next more =>
      split
      · simp
      · split
        · next body h =>
            have := commentBody?_length h
            simp only [List.length_cons]
            omega
        · simp
  · simp

/-- A gap is part of the text. -/
theorem gapLength_le (text : List Char) : gapLength text ≤ text.length := by
  fun_induction gapLength text with
  | case1 => simp
  | case2 c more _ ih => simpa using ih
  | case3 => simp
  | case4 c more _ n hn ih =>
      have := plainCommentLength_le (c :: more)
      simp only [List.length_cons, List.length_drop] at *
      omega

theorem decimalChars_ne_nil {text : List Char} (h : startsNumber text = true) :
    decimalChars text ≠ [] := by
  unfold startsNumber at h
  split at h
  · next d more =>
      by_cases hp : isDigit '.' = true
      · simp [decimalChars, hp]
      · simp [decimalChars, hp, fractionChars]
  · next c more _ => simp [decimalChars, h]
  · simp at h

theorem numberChars_ne_nil {text : List Char} (h : startsNumber text = true) :
    numberChars text ≠ [] := by
  unfold numberChars
  split
  · split
    · simp
    · exact decimalChars_ne_nil h
  · exact decimalChars_ne_nil h

theorem punctChars_ne_nil (c : Char) (more : List Char) : punctChars c more ≠ [] := by
  unfold punctChars
  cases hf : (punctuators.map String.toList).find? (·.isPrefixOf (c :: more)) with
  | none => simp
  | some p =>
      have hmem := List.mem_of_find?_eq_some hf
      have hne : ∀ p ∈ punctuators.map String.toList, p ≠ [] := by decide
      simpa using hne p hmem

namespace Lexeme

/-- **Progress**: a lexeme takes at least one character. -/
theorem width_read_pos (regexAllowed : Bool) (c : Char) (more : List Char) :
    0 < (read regexAllowed c more).width := by
  unfold read
  split
  · unfold comment
    split <;> simp [width]
  split
  · simp [width]
  split
  · next hn => exact List.length_pos_iff.2 (numberChars_ne_nil hn)
  split
  · unfold string
    split <;> simp [width]
  split
  · unfold regex
    split <;> simp [width]
  · exact List.length_pos_iff.2 (punctChars_ne_nil c more)

end Lexeme

end DocComments
