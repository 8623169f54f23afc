import DocComments.Token

/-!
# Patterns of tokens

A pattern is a list of tests, one for each of the tokens that come next.  A test asks either
for a kind or for a text.  Only names, reserved words, operators and numbers can be asked
for by their text: what stands inside a string, a regular expression or a doc-comment never
decides how the source is read.
-/

namespace DocComments

/-- **A test of one token**: for its kind, or for its text. -/
inductive TokenTest where
  | kind (kind : TokenKind)
  | text (text : String)
  deriving DecidableEq, Repr

namespace TokenTest

instance : Coe TokenKind TokenTest := ⟨kind⟩

instance : Coe String TokenTest := ⟨text⟩

/-- A word as a test: the name of a kind asks for that kind, any other word for itself. -/
def ofString (word : String) : TokenTest :=
  match TokenKind.ofName? word with
  | some k => kind k
  | none => text word

/-- The word for a test. -/
def name : TokenTest → String
  | kind k => k.name
  | text s => s

end TokenTest

/-- Tokens of this kind can be asked for by their text. -/
def TokenKind.hasPlainText : TokenKind → Bool
  | .ident | .keyword | .punct | .number => true
  | _ => false

/-- The token passes the test. -/
def TokenTest.fits : TokenTest → Token → Bool
  | kind k, t => t.kind = k
  | text s, t => t.kind.hasPlainText && t.text = s

/-- **The next tokens do not fit a pattern**: the whole pattern, and the first token that
fails its test. -/
structure Mismatch where
  /-- The pattern. -/
  expected : List TokenTest
  /-- The first token that fails its test. -/
  actual : Token
  deriving DecidableEq, Repr

/-- The wording of a mismatch, in which `quote` shows the text of the token. -/
def Mismatch.messageBy (quote : String → String) (m : Mismatch) : String :=
  let pattern := " ".intercalate (m.expected.map fun test => Text.quoted test.name)
  let actual := m.actual.displayBy quote
  s!"Expected {pattern}, got {actual} at line {m.actual.line}, col {m.actual.column}"

/-- The wording of a mismatch. -/
def Mismatch.message (m : Mismatch) : String :=
  m.messageBy Text.quoted

namespace TokenTest

theorem fits_kind (k : TokenKind) (t : Token) : (kind k).fits t = decide (t.kind = k) := rfl

theorem fits_text (s : String) (t : Token) :
    (text s).fits t = (t.kind.hasPlainText && decide (t.text = s)) := rfl

/-- No text is asked of the end of the source. -/
theorem fits_text_endOfInput (s : String) (line column : Int) :
    (text s).fits (Token.endOfInput line column) = false := rfl

end TokenTest

end DocComments
