import DocComments.ClassDefinition.Grammar

/-!
# The grammar of code blocks

    block       :=  function | "var" assignment | definition | property | "," property
                 |  assignment | string
    function    :=  "function" [ ident ] "(" [ ident { "," ident } ] ")" "{"
    assignment  :=  chain [ "=" [ expression ] ]
    chain       :=  ( "this" | ident ) { "." ident }
    property    :=  ( ident | string ) ":" [ expression ]
    expression  :=  function | "Ext" "." "extend" "(" chain | literal

The first alternative whose opening tokens fit is taken; where none does, the block is not
recognised and no token is taken.  A function's body and the further arguments of a call are
left where they are.
-/

namespace DocComments.Rule

/-- The names of the parameters, with their parentheses. -/
def parameters : Rule (List String) := do
  let _ ← expectOne "("
  let names ←
    match ← acceptOne TokenKind.ident with
    | none => pure []
    | some first =>
        let more ← many (accept [",", TokenKind.ident])
        pure (first.text :: more.map (·.text))
  let _ ← expectOne ")"
  pure names

/-- **The head of a function**, up to and with the brace that opens its body. -/
def function : Rule Summary := do
  let _ ← expectOne "function"
  let name ← acceptOne TokenKind.ident
  let names ← parameters
  let _ ← expectOne "\x7b"
  pure (.function (name.map (·.text)) names)

/-- **A chain of names** joined by points; the first may be `this`. -/
def chain : Rule (List String) := do
  let first ←
    if ← look ["this"] then expectOne "this" else expectOne TokenKind.ident
  let more ← many (accept [".", TokenKind.ident])
  pure (first.text :: more.map (·.text))

/-- A call that extends a class, up to the name of the class. -/
def extension : Rule Summary := do
  let _ ← expect ["Ext", ".", "extend", "("]
  Summary.extension <$> chain

/-- A literal as a value, if there is one. -/
def literalExpression : Rule (Option Summary) := do
  let l ← literal
  pure (l.map .literal)

/-- **The value** behind an equals sign or a colon, if there is one. -/
def expression : Rule (Option Summary) := do
  if ← look ["function"] then some <$> function
  else if ← look ["Ext", ".", "extend", "("] then some <$> extension
  else literalExpression

/-- **An assignment**: a chain of names, and a value behind an equals sign. -/
def assignment : Rule Summary := do
  let left ← chain
  match ← acceptOne "=" with
  | none => pure (.assignment left none)
  | some _ => Summary.assignment left <$> expression

/-- A declaration of a variable. -/
def variableDeclaration : Rule Summary := do
  let _ ← expectOne "var"
  assignment

/-- **A property**: a key, whatever the next token is, and a value behind a colon. -/
def property : Rule Summary := do
  let key ← next
  let _ ← expectOne ":"
  Summary.assignment [key.text] <$> expression

/-- A property behind a comma. -/
def continuedProperty : Rule Summary := do
  let _ ← expectOne ","
  property

/-- A string that stands alone. -/
def stringDeclaration : Rule Summary := do
  let s ← expectOne TokenKind.string
  pure (.assignment [s.text] none)

/-- The alternatives in order: the patterns that open each, and its rule. -/
def alternatives : List (List (List TokenTest) × Rule Summary) :=
  [([["function"]], function),
    ([["var"]], variableDeclaration),
    ([["Ext", ".", "define", "(", TokenKind.string],
      ["Ext", ".", "ClassManager", ".", "create", "(", TokenKind.string]], classDefinition),
    ([[TokenKind.ident, ":"], [TokenKind.string, ":"]], property),
    ([[",", TokenKind.ident, ":"], [",", TokenKind.string, ":"]], continuedProperty),
    ([[TokenKind.ident], ["this"]], assignment),
    ([[TokenKind.string]], stringDeclaration)]

/-- The first alternative one of whose patterns fits; what is recognised nowhere is summed up
as such. -/
def firstAlternative : List (List (List TokenTest) × Rule Summary) → Rule Summary
  | [] => pure .unrecognised
  | (patterns, rule) :: more => do
      if ← lookAny patterns then rule else firstAlternative more

/-- **The code block at the next token.** -/
def codeBlock : Rule Summary :=
  firstAlternative alternatives

end DocComments.Rule
