import DocComments.Literal

/-!
# Literals as source text

`Literal.render` writes a literal in one normal form: strings in double quotes where they
allow it, items and members separated by a comma and a space, everything else as it was
read.  A string keeps its escapes, so the only choice is the quote: single quotes are
needed exactly where a double quote stands bare, that is, behind an even number of
backslashes.
-/

namespace DocComments.Literal

/-- The text starts with pairs of backslashes, as many as you like, and then a double
quote. -/
def startsPairsAndQuote : List Char → Bool
  | '\\' :: '\\' :: more => startsPairsAndQuote more
  | '"' :: _ => true
  | _ => false

/-- At some place that no backslash precedes, pairs of backslashes and then a double quote
follow.  `behindBackslash` says whether a backslash precedes the first place. -/
def hasBareQuoteFrom (behindBackslash : Bool) : List Char → Bool
  | [] => false
  | c :: more =>
      (!behindBackslash && startsPairsAndQuote (c :: more)) || hasBareQuoteFrom (c = '\\') more

/-- **A double quote stands bare** in the text: an even number of backslashes is before it. -/
def hasBareQuote (text : List Char) : Bool :=
  hasBareQuoteFrom false text

/-- **The text of a string between quotes** that it allows. -/
def quote (text : String) : String :=
  if hasBareQuote text.toList then "'" ++ text ++ "'" else "\"" ++ text ++ "\""

mutual

/-- **The literal as source text.** -/
def render : Literal → String
  | scalar .string text _ => quote text
  | scalar _ text _ => text
  | array items _ => bracketed "[" "]" (renderItems items)
  | object members _ => bracketed "\x7b" "\x7d" (renderMembers members)

/-- The items of an array as source text. -/
def renderItems : List Literal → List String
  | [] => []
  | a :: more => render a :: renderItems more

/-- The members of an object as source text. -/
def renderMembers : List (Literal × Literal) → List String
  | [] => []
  | (k, a) :: more => (render k ++ ": " ++ render a) :: renderMembers more

end

end DocComments.Literal
