import DocComments.Tag
import DocComments.Text.Letter
import DocComments.Text.Numeral
import DocComments.Text.Words

/-!
# Reading the tags of a comment

The text of a comment is first freed of the stars at the starts of its lines
(`stripDecoration`), then cut at its tag markers (`cutAtMarkers`).  A marker is an at sign at
the start of the text or behind a blank, with an ASCII letter behind it; its word is the
longest run of ASCII letters, digits and underscores.  Every other at sign is plain text.
The text between two markers belongs to the first of them and is read as the name of that
tag demands (`Tag.read`).
-/

namespace DocComments

open Text

/-! ### Lines -/

/-- A space or a tab. -/
def isSpaceOrTab (c : Char) : Bool := c = ' ' || c = '\t'

/-- One line without its decoration: spaces and tabs, a star and one space.  A line without
a star loses the blanks at both ends instead. -/
def stripLine (line : List Char) : List Char :=
  match line.dropWhile isSpaceOrTab with
  | '*' :: ' ' :: text => text
  | '*' :: text => text
  | _ => trim line

/-- **The text of a comment without the decoration** of its lines. -/
def stripDecoration (text : List Char) : List Char :=
  unlines ((lines text).map stripLine)

/-! ### Markers -/

/-- The character may stand in the word of a marker. -/
def isWordChar (c : Char) : Bool := isAsciiLetter c || isAsciiDigit c || c = '_'

/-- The word of the marker that starts at an at sign with `more` behind it. -/
def markerWord? (more : List Char) : Option (List Char) :=
  match more with
  | [] => none
  | c :: _ => if isAsciiLetter c then some (more.takeWhile isWordChar) else none

/-- **A text cut at its markers**: what stands before the first one, and for each marker its
word and what stands between it and the next.  `mayStart` says that a marker may start at
the first character. -/
def cutFrom (mayStart : Bool) : List Char → List Char × List (List Char × List Char)
  | [] => ([], [])
  | c :: more =>
      match if mayStart && c = '@' then markerWord? more else none with
      | some word =>
          let r := cutFrom false (more.drop word.length)
          ([], (word, r.1) :: r.2)
      | none =>
          let r := cutFrom (isBlank c) more
          (c :: r.1, r.2)
termination_by text => text.length
decreasing_by
  all_goals simp only [List.length_cons, List.length_drop]; omega

/-- A whole text cut at its markers. -/
def cutAtMarkers (text : List Char) : List Char × List (List Char × List Char) :=
  cutFrom true text

/-! ### Brackets -/

/-- The text before the closing bracket at which the count of open brackets, `depth` at the
start, comes down to zero, and the text behind that bracket; `none` if there is no such
bracket. -/
def closeBrackets? (opening closing : Char) : Int → List Char → Option (List Char × List Char)
  | _, [] => none
  | depth, c :: more =>
      if c = opening then
        (closeBrackets? opening closing (depth + 1) more).map fun r => (c :: r.1, r.2)
      else if c = closing then
        if depth = 1 then some ([], more)
        else (closeBrackets? opening closing (depth - 1) more).map fun r => (c :: r.1, r.2)
      else (closeBrackets? opening closing depth more).map fun r => (c :: r.1, r.2)

/-- **What stands between the first character**, an opening bracket, **and its closing
bracket**, and what stands behind that.  A bracket that is never closed takes all the text. -/
def splitBracketed (opening closing : Char) (text : List Char) : List Char × List Char :=
  match closeBrackets? opening closing 0 text with
  | some (before, behind) => (before.drop 1, behind)
  | none => (text.drop 1, [])

/-- **The type at the start** of a text, in braces, and what stands behind it.  Where there
is none, what is left is the text without its leading blanks. -/
def splitType (text : List Char) : Option (List Char) × List Char :=
  match trimStart text with
  | '\x7b' :: more =>
      let r := splitBracketed '\x7b' '\x7d' ('\x7b' :: more)
      (some (trim r.1), r.2)
  | start => (none, start)

/-- The text before the first equals sign and, if there is one, the text behind it. -/
def splitDefault (text : List Char) : List Char × Option (List Char) :=
  let before := text.takeWhile (· ≠ '=')
  (before,
    match text.drop before.length with
    | [] => none
    | _ :: value => some value)

/-! ### The tags -/

/-- A text, or nothing if it is empty. -/
def nonempty? (text : List Char) : Option (List Char) :=
  if text.isEmpty then none else some text

namespace Tag

/-- A parameter, option or property: a type, a name in brackets if it may be left out, and a
description. -/
def readMember (text : List Char) : TagContent :=
  let typed := splitType text
  let type := typed.1.map String.ofList
  match trimStart typed.2 with
  | '[' :: more =>
      let r := splitBracketed '[' ']' ('[' :: more)
      let named := splitDefault r.1
      .member type ((nonempty? (trim named.1)).map String.ofList) true
        (named.2.map fun value => String.ofList (trim value)) (String.ofList (trim r.2))
  | start =>
      let r := firstWord start
      .member type (r.1.map String.ofList) false none (String.ofList (trim r.2))

/-- What is returned: a type and a description. -/
def readResult (text : List Char) : TagContent :=
  let typed := splitType text
  .result (typed.1.map String.ofList) (String.ofList (trim typed.2))

/-- A type, in braces or as the first word. -/
def readType (text : List Char) : TagContent :=
  let typed := splitType text
  .type ((typed.1.or (firstWord typed.2).1).map String.ofList)

/-- A name and a description. -/
def readNamed (text : List Char) : TagContent :=
  let r := firstWord text
  .named (r.1.map String.ofList) (String.ofList (trim r.2))

/-- A description. -/
def readPlain (text : List Char) : TagContent :=
  .plain (String.ofList (trim text))

/-- The tags that take a type, a name and a description. -/
def memberNames : List String := ["param", "cfg", "property"]

/-- The tags that take a name and a description. -/
def namedNames : List String :=
  ["class", "extends", "mixins", "alternateClassName", "event", "method", "member", "xtype",
    "alias"]

/-- The name that a marker's word stands for. -/
def nameOfWord (word : String) : String :=
  if word = "extend" then "extends" else if word = "returns" then "return" else word

/-- How the text of a tag is read. -/
def contentReader (name : String) : List Char → TagContent :=
  if memberNames.contains name then readMember
  else if name = "return" then readResult
  else if name = "type" then readType
  else if namedNames.contains name then readNamed
  else readPlain

/-- **The tag of a marker**: its word, and the text up to the next marker. -/
def read (word text : List Char) : Tag :=
  let name := nameOfWord (String.ofList word)
  ⟨name, contentReader name text⟩

/-- **The tags of a comment**: the description first, then one for each marker. -/
def readAll (comment : String) : List Tag :=
  let r := cutAtMarkers (stripDecoration comment.toList)
  description (String.ofList (trim r.1)) :: r.2.map fun m => read m.1 m.2

end Tag

end DocComments
