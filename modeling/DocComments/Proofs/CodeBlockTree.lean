import DocComments.CodeBlock.Grammar
import DocComments.Proofs.LexerRun
import DocComments.Proofs.LiteralSentence

/-!
# The trees of code blocks

The grammar of code blocks, apart from how it is read: the trees (`Block`), the tokens that spell
one out (`Block.Spelled`), what a tree is summed up as (`Block.summary`), and the tokens that would
go on with it (`Block.extensions`).

The grammar asks for words and operators by their text, and a token of any kind that can be asked
for so would do.  In a source the text tells the kind (`Token.WellKinded`), so a name is never
taken for a reserved word or for an operator.
-/

namespace DocComments

/-! ### Words and operators among the tokens -/

/-- The token is this name. -/
def Token.IsName (t : Token) (name : String) : Prop :=
  t.kind = .ident ∧ t.text = name

/-- The token is this reserved word. -/
def Token.IsWord (t : Token) (word : String) : Prop :=
  t.kind = .keyword ∧ t.text = word

instance (t : Token) (name : String) : Decidable (t.IsName name) :=
  inferInstanceAs (Decidable (_ ∧ _))

instance (t : Token) (word : String) : Decidable (t.IsWord word) :=
  inferInstanceAs (Decidable (_ ∧ _))

theorem Token.IsName.fits_text {t : Token} {name : String} (h : t.IsName name) (s : String) :
    TokenTest.fits (.text s) t = decide (name = s) := by
  rw [TokenTest.fits_text, h.1, h.2]
  rfl

theorem Token.IsWord.fits_text {t : Token} {word : String} (h : t.IsWord word) (s : String) :
    TokenTest.fits (.text s) t = decide (word = s) := by
  rw [TokenTest.fits_text, h.1, h.2]
  rfl

/-- The texts by which code blocks and their expressions are told apart. -/
def tellingTexts : List String :=
  ["function", "var", "this", "Ext", "define", "ClassManager", "create", "extend", ","]

/-- **The text tells the kind**, for the texts that the grammar asks for. -/
def Token.WellKinded (t : Token) : Prop :=
  ∀ text ∈ tellingTexts, TokenTest.fits (.text text) t = true → t.kind = kindOfText text.toList

instance (t : Token) : Decidable t.WellKinded :=
  inferInstanceAs (Decidable (∀ text ∈ tellingTexts, _ → _))

theorem Token.Kinded.wellKinded {t : Token} (h : t.Kinded) : t.WellKinded := by
  have hnumber : ∀ text ∈ tellingTexts, startsNumber text.toList = false := by decide
  exact fun text htext hfits => h.kind_eq (hnumber text htext) hfits

/-- **The tokens of a source are well-kinded.** -/
theorem wellKinded_of_mem_upcoming {source : String} {t : Token}
    (h : .ok t ∈ (TokenSource.ofString source).upcoming) : t.WellKinded :=
  (kinded_of_mem_upcoming h).wellKinded

/-! ### Trees -/

/-- **The head of a function**: its name, if it has one, and its parameters. -/
structure FunctionHead where
  /-- The name. -/
  name : Option String
  /-- The names of the parameters. -/
  params : List String

/-- **A chain of names** joined by points. -/
structure Chain where
  /-- The first name; it may be `this`. -/
  first : String
  /-- The names behind points. -/
  more : List String

/-- All names of a chain, in order. -/
def Chain.names (c : Chain) : List String :=
  c.first :: c.more

/-- **What can stand behind an equals sign or a colon.** -/
inductive Expression where
  /-- The head of a function. -/
  | function (head : FunctionHead)
  /-- A call that extends a class, up to the name of the class. -/
  | extension (base : Chain)
  /-- A literal. -/
  | literal (l : Literal)
  /-- Nothing. -/
  | absent

/-- **A code block**, class definitions apart. -/
inductive Block where
  /-- The head of a function. -/
  | function (head : FunctionHead)
  /-- A chain of names, perhaps declared as a variable, and what stands behind an equals sign if
  there is one. -/
  | assignment (declared : Bool) (target : Chain) (value : Option Expression)
  /-- A key, perhaps behind a comma, and what stands behind the colon. -/
  | property (continued : Bool) (key : String) (value : Expression)
  /-- A string that stands alone. -/
  | string (text : String)

/-! ### Summaries -/

/-- The summary of the head of a function. -/
def FunctionHead.summary (head : FunctionHead) : Summary :=
  .function head.name head.params

/-- The summary of an expression, if it is there. -/
def Expression.summary? : Expression → Option Summary
  | function head => some head.summary
  | extension base => some (.extension base.names)
  | literal l => some (.literal l)
  | absent => none

/-- **The summary of a code block.** -/
def Block.summary : Block → Summary
  | function head => head.summary
  | assignment _ target value => .assignment target.names (value.bind Expression.summary?)
  | property _ key value => .assignment [key] value.summary?
  | string text => .assignment [text] none

/-! ### The tokens of a tree -/

/-- The tokens are these names, with a separator before each. -/
inductive NamesBehind (separator : String) : List String → List Token → Prop where
  | nil : NamesBehind separator [] []
  | cons {name : String} {names : List String} {sep t : Token} {tokens : List Token}
      (hsep : sep.IsPunct separator) (hname : t.IsName name)
      (hmore : NamesBehind separator names tokens) :
      NamesBehind separator (name :: names) (sep :: t :: tokens)

/-- The tokens are these names, with commas between them. -/
inductive NamesListed : List String → List Token → Prop where
  | nil : NamesListed [] []
  | cons {name : String} {names : List String} {t : Token} {tokens : List Token}
      (hname : t.IsName name) (hmore : NamesBehind "," names tokens) :
      NamesListed (name :: names) (t :: tokens)

/-- The tokens are this name, or there is none of both. -/
inductive NameGiven : Option String → List Token → Prop where
  | none : NameGiven none []
  | some {name : String} {t : Token} (hname : t.IsName name) : NameGiven (some name) [t]

/-- The tokens spell out the head of a function, up to and with the brace that opens its body. -/
inductive FunctionHead.Spelled : FunctionHead → List Token → Prop where
  | mk {name : Option String} {params : List String} {word opening closing brace : Token}
      {given listed : List Token} (hword : word.IsWord "function") (hname : NameGiven name given)
      (hopen : opening.IsPunct "(") (hparams : NamesListed params listed)
      (hclose : closing.IsPunct ")") (hbrace : brace.IsPunct "\x7b") :
      Spelled ⟨name, params⟩ (word :: (given ++ opening :: (listed ++ [closing, brace])))

/-- The tokens spell out the chain. -/
inductive Chain.Spelled : Chain → List Token → Prop where
  | this {more : List String} {t : Token} {tokens : List Token} (hfirst : t.IsWord "this")
      (hmore : NamesBehind "." more tokens) : Spelled ⟨"this", more⟩ (t :: tokens)
  | name {first : String} {more : List String} {t : Token} {tokens : List Token}
      (hfirst : t.IsName first) (hmore : NamesBehind "." more tokens) :
      Spelled ⟨first, more⟩ (t :: tokens)

/-- The tokens spell out the expression. -/
inductive Expression.Spelled : Expression → List Token → Prop where
  | function {head : FunctionHead} {tokens : List Token} (h : head.Spelled tokens) :
      Spelled (.function head) tokens
  | extension {ext point extend opening : Token} {base : Chain} {tokens : List Token}
      (hext : ext.IsName "Ext") (hpoint : point.IsPunct ".") (hextend : extend.IsName "extend")
      (hopen : opening.IsPunct "(") (hbase : base.Spelled tokens) :
      Spelled (.extension base) (ext :: point :: extend :: opening :: tokens)
  | literal {l : Literal} {tokens : List Token} (h : l.Sentence tokens) :
      Spelled (.literal l) tokens
  | absent : Spelled .absent []

/-- The token can be the key of a property. -/
def Token.IsKey (t : Token) (key : String) : Prop :=
  (t.kind = .ident ∨ t.kind = .string) ∧ t.text = key

/-- **The tokens spell out the code block.** -/
inductive Block.Spelled : Block → List Token → Prop where
  | function {head : FunctionHead} {tokens : List Token} (h : head.Spelled tokens) :
      Spelled (.function head) tokens
  | target {target : Chain} {tokens : List Token} (htarget : target.Spelled tokens) :
      Spelled (.assignment false target none) tokens
  | assignment {target : Chain} {value : Expression} {equals : Token} {left right : List Token}
      (htarget : target.Spelled left) (hequals : equals.IsPunct "=")
      (hvalue : value.Spelled right) :
      Spelled (.assignment false target (some value)) (left ++ equals :: right)
  | declared {word : Token} {target : Chain} {value : Option Expression} {tokens : List Token}
      (hword : word.IsWord "var") (h : Spelled (.assignment false target value) tokens) :
      Spelled (.assignment true target value) (word :: tokens)
  | property {keyToken colon : Token} {key : String} {value : Expression} {tokens : List Token}
      (hkey : keyToken.IsKey key) (hcolon : colon.IsPunct ":") (hvalue : value.Spelled tokens) :
      Spelled (.property false key value) (keyToken :: colon :: tokens)
  | continued {comma : Token} {key : String} {value : Expression} {tokens : List Token}
      (hcomma : comma.IsPunct ",") (h : Spelled (.property false key value) tokens) :
      Spelled (.property true key value) (comma :: tokens)
  | string {t : Token} {text : String} (hkind : t.kind = .string) (htext : t.text = text) :
      Spelled (.string text) [t]

/-! ### What would go on -/

/-- The patterns with which a literal starts. -/
def literalStarts : List (List TokenTest) :=
  [[TokenKind.string], [TokenKind.number], [TokenKind.regex], [TokenKind.ident], ["["], ["\x7b"]]

/-- The pattern that goes on with a chain. -/
def chainLink : List TokenTest :=
  [".", TokenKind.ident]

/-- The names of the calls that define a class. -/
def definingCalls : List (List String) :=
  [["Ext", "define"], ["Ext", "ClassManager", "create"]]

/-- **The patterns that would go on with an expression.** -/
def Expression.extensions : Expression → List (List TokenTest)
  | function _ => []
  | extension _ => [chainLink]
  | literal (.scalar .ident text _) => if text = "Ext" then [[".", "extend", "("]] else []
  | literal _ => []
  | absent => ["function"] :: literalStarts

/-- The patterns that would make something else of a target that is not declared: a property, or
a class definition. -/
def Chain.rivals (c : Chain) : List (List TokenTest) :=
  if c.names ∈ definingCalls then [["(", TokenKind.string]]
  else if c.more = [] ∧ c.first ≠ "this" then [[":"]]
  else []

/-- **The patterns that would go on with a code block.** -/
def Block.extensions : Block → List (List TokenTest)
  | function _ => []
  | assignment true _ none => [chainLink, ["="]]
  | assignment false target none => chainLink :: ["="] :: target.rivals
  | assignment _ _ (some value) => value.extensions
  | property _ _ value => value.extensions
  | string _ => [[":"]]

/-- None of the patterns fits the start of the tokens. -/
def NoneFits (patterns : List (List TokenTest)) (rest : List Token) : Prop :=
  ∀ pattern ∈ patterns, TokenTest.fitAll pattern rest = false

end DocComments
