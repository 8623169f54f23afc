import DocComments.Text.Quoted

/-!
# Tokens

A token is a piece of source text with its kind and the place where it starts.  The kinds
that a source has are a closed set (`TokenKind.lexical`); each has a fixed name, under which
it is shown and under which patterns ask for it.  The end of the source is a kind of its own,
so that looking past the last token has an answer.  Tokens made by others can have kinds of
any other name, so kinds and names are the same (`TokenKind.ofName_name`).
-/

namespace DocComments

/-- The names of the kinds of token that a source has. -/
def lexicalNames : List String :=
  ["IDENT", "KEYWORD", "STRING", "NUMBER", "REGEX", "DOC_COMMENT", "PUNCT", "EOF"]

/-- **The kinds of token.** -/
inductive TokenKind where
  /-- A name that is not reserved. -/
  | ident
  /-- A reserved word. -/
  | keyword
  /-- A quoted text. -/
  | string
  /-- A number. -/
  | number
  /-- A regular expression between slashes. -/
  | regex
  /-- A comment that documents what follows it. -/
  | docComment
  /-- An operator, a bracket, or any other single character. -/
  | punct
  /-- The end of the source. -/
  | endOfInput
  /-- A kind that no source has, by its name. -/
  | other (name : String) (isOther : name ∉ lexicalNames)
  deriving DecidableEq, Repr

namespace TokenKind

/-- The name under which a kind is shown. -/
def name : TokenKind → String
  | ident => "IDENT"
  | keyword => "KEYWORD"
  | string => "STRING"
  | number => "NUMBER"
  | regex => "REGEX"
  | docComment => "DOC_COMMENT"
  | punct => "PUNCT"
  | endOfInput => "EOF"
  | other name _ => name

/-- The kinds of token that a source has. -/
def lexical : List TokenKind :=
  [ident, keyword, string, number, regex, docComment, punct, endOfInput]

/-- The kind with a given name, of those that a source has. -/
def ofName? (name : String) : Option TokenKind :=
  lexical.find? fun kind => kind.name = name

/-- The kind with a given name. -/
def ofName (name : String) : TokenKind :=
  if h : name ∈ lexicalNames then (ofName? name).getD endOfInput else other name h

theorem map_name_lexical : lexical.map name = lexicalNames := rfl

theorem ofName?_name_of_mem {kind : TokenKind} (h : kind ∈ lexical) :
    ofName? kind.name = some kind := by
  revert kind
  decide

/-- **A kind is known by its name.** -/
@[simp] theorem ofName_name (kind : TokenKind) : ofName kind.name = kind := by
  cases kind with
  | other name isOther => simp [ofName, TokenKind.name, isOther]
  | _ => rfl

theorem name_injective {kind kind' : TokenKind} (h : kind.name = kind'.name) : kind = kind' := by
  rw [← ofName_name kind, h, ofName_name]

end TokenKind

/-- **A token**: its kind, its text, and where it starts.  The text of a string is what
stands between the quotes, that of a doc-comment what stands between its markers. -/
structure Token where
  /-- What sort of token it is. -/
  kind : TokenKind
  /-- Its text. -/
  text : String
  /-- The line on which it starts, counted from one. -/
  line : Int
  /-- The column at which it starts, counted from one. -/
  column : Int
  deriving DecidableEq, Repr

namespace Token

/-- How messages show a token: its kind and its text as `quote` shows it. -/
def displayBy (quote : String → String) (t : Token) : String :=
  s!"Token({t.kind.name}, {quote t.text})"

/-- How messages show a token: its kind and its quoted text. -/
def display (t : Token) : String :=
  t.displayBy Text.quoted

/-- The token that stands for the end of the source. -/
def endOfInput (line column : Int) : Token :=
  ⟨.endOfInput, TokenKind.endOfInput.name, line, column⟩

@[simp] theorem kind_endOfInput (line column : Int) :
    (endOfInput line column).kind = .endOfInput := rfl

end Token

end DocComments
