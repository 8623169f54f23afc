import DocComments.Text.Numeral
import DocComments.Text.Quoted

/-!
# Words of a command line

A word of a command line is an operand or names flags.  A flag is a switch, or a parameter
with a value.  All flags have a long name and most have a letter.  Long names can be cut
short as long as only one flag fits; several letters can share one word, and what stands
behind a parameter's letter is its value.  An equals sign behind the first letter of a word
only sets it off.

`Word.ofString` tells what a word is, and fails only if a long name is cut too short.  What
else can be wrong with a word counts only when its turn comes, so it is left to
`Naming.reading`.
-/

namespace DocComments.CommandLine

open Text

/-- A flag that is on or off. -/
inductive Switch where
  | help
  | string
  | compact
  | recover
  | verbose
  deriving DecidableEq, Repr

/-- A flag that has a value. -/
inductive Parameter where
  | out
  | config
  deriving DecidableEq, Repr

/-- **A flag.** -/
inductive Flag where
  | switch (s : Switch)
  | parameter (p : Parameter)
  deriving DecidableEq, Repr

namespace Flag

/-- All flags, in the order in which they are listed. -/
def all : List Flag :=
  [.switch .help, .switch .string, .parameter .out, .parameter .config, .switch .compact,
    .switch .recover, .switch .verbose]

/-- The letter of a flag. -/
def letter? : Flag → Option Char
  | switch .help => some 'h'
  | switch .string => some 's'
  | switch .verbose => some 'v'
  | parameter .out => some 'o'
  | parameter .config => some 'c'
  | switch .compact => none
  | switch .recover => none

/-- The long name of a flag. -/
def name : Flag → String
  | switch .help => "--help"
  | switch .string => "--string"
  | switch .compact => "--compact"
  | switch .recover => "--recover"
  | switch .verbose => "--verbose"
  | parameter .out => "--out"
  | parameter .config => "--config"

/-- How messages name a flag. -/
def display (f : Flag) : String :=
  match f.letter? with
  | some c => s!"-{c}/{f.name}"
  | none => f.name

/-- The flag of a letter. -/
def ofLetter? (c : Char) : Option Flag :=
  all.find? (·.letter? = some c)

/-- The flags whose long names begin in a given way. -/
def startingWith (start : List Char) : List Flag :=
  all.filter fun f => start.isPrefixOf f.name.toList

end Flag

/-- **A command line that cannot be used.** -/
inductive UsageError where
  /-- A long name is cut so short that several flags fit. -/
  | ambiguous (word : String) (candidates : List Flag)
  /-- A switch is given a value. -/
  | unexpectedValue (flag : Flag) (value : String)
  /-- A parameter has no value. -/
  | missingValue (p : Parameter)
  /-- There are no sources. -/
  | noSources
  /-- These words have no meaning. -/
  | unrecognized (words : List String)
  deriving DecidableEq, Repr

/-- The wording of a command line that cannot be used. -/
def UsageError.message : UsageError → String
  | ambiguous word candidates =>
      let names := ", ".intercalate (candidates.map Flag.name)
      s!"ambiguous option: {word} could match {names}"
  | unexpectedValue flag value =>
      s!"argument {flag.display}: ignored explicit argument {quoted value}"
  | missingValue p => s!"argument {(Flag.parameter p).display}: expected one argument"
  | noSources => "the following arguments are required: sources"
  | unrecognized words => "unrecognized arguments: " ++ " ".intercalate words

/-- **How a word names a flag**, and what else stands in it. -/
inductive Naming where
  /-- By its letter, and what is joined to the letter if anything is. -/
  | letter (flag : Flag) (joined : Option (List Char))
  /-- By its long name, and the value if there is one. -/
  | name (flag : Flag) (value : Option String)
  deriving DecidableEq, Repr

/-- **What a word is.** -/
inductive Word where
  | operand (text : String)
  | flag (naming : Naming)
  /-- A word that looks like a flag and is none. -/
  | unknown (text : String)
  deriving DecidableEq, Repr

namespace Word

/-- The characters are those of a number with a sign before it, a newline at the end not
counted: digits, perhaps with a point before the last of them. -/
def isNegativeNumber (word : List Char) : Bool :=
  match word with
  | '-' :: number =>
      let number := if number.getLast? = some '\n' then number.dropLast else number
      match number.dropWhile isDecimal with
      | [] => !number.isEmpty
      | '.' :: fraction => !fraction.isEmpty && fraction.all isDecimal
      | _ => false
  | _ => false

/-- A word that begins like a flag, and is not one: negative numbers and words with a blank
in them are operands all the same. -/
def notFlag (word : String) : Word :=
  if isNegativeNumber word.toList || word.toList.contains ' ' then operand word
  else unknown word

/-- A word that begins with two dashes. -/
def ofLongName (word : String) : Except UsageError Word :=
  let start := word.toList.takeWhile (· ≠ '=')
  let value? : Option String :=
    match word.toList.dropWhile (· ≠ '=') with
    | _ :: value => some (String.ofList value)
    | [] => none
  match Flag.startingWith start with
  | [] => .ok (notFlag word)
  | [f] => .ok (flag (.name f value?))
  | candidates => .error (.ambiguous word candidates)

/-- What is joined to the first letter of a word: what stands behind it, or behind an equals
sign that sets it off, even if that is nothing. -/
def joinedTo : List Char → Option (List Char)
  | [] => none
  | '=' :: value => some value
  | behind => some behind

/-- **What a word is.** -/
def ofString (word : String) : Except UsageError Word :=
  match word.toList with
  | '-' :: '-' :: _ => ofLongName word
  | '-' :: c :: behind =>
      match Flag.ofLetter? c with
      | some f => .ok (flag (.letter f (joinedTo behind)))
      | none => .ok (notFlag word)
  | _ => .ok (operand word)

end Word

/-! ### What a word asks for -/

/-- **What the flags of one word ask for.** -/
structure Reading where
  /-- The switches, in order. -/
  switches : List Switch
  /-- A parameter behind the switches; its value, unless it is the next word. -/
  parameter : Option (Parameter × Option String)
  deriving DecidableEq, Repr

namespace Reading

/-- A flag with nothing joined to it. -/
def ofFlag : Flag → Reading
  | .switch s => ⟨[s], none⟩
  | .parameter p => ⟨[], some (p, none)⟩

/-- A parameter with its value. -/
def ofValue (p : Parameter) (value : String) : Reading := ⟨[], some (p, some value)⟩

/-- A flag named by its letter, with what is joined to the letter: for a parameter its value,
for a switch the letters of more flags. -/
def ofLetters (flag : Flag) : List Char → Except UsageError Reading
  | [] =>
      match flag with
      | .parameter p => .ok (ofValue p "")
      | .switch _ => .error (.unexpectedValue flag "")
  | c :: more =>
      match flag with
      | .parameter p => .ok (ofValue p (String.ofList (c :: more)))
      | .switch s =>
          match Flag.ofLetter? c with
          | none => .error (.unexpectedValue flag (String.ofList (c :: more)))
          | some next => do
              let r ← if more.isEmpty then .ok (ofFlag next) else ofLetters next more
              pure { r with switches := s :: r.switches }

/-- A flag named by its long name. -/
def ofName (flag : Flag) (value : Option String) : Except UsageError Reading :=
  match flag, value with
  | flag, none => .ok (ofFlag flag)
  | .parameter p, some value => .ok (ofValue p value)
  | flag, some value => .error (.unexpectedValue flag value)

end Reading

/-- **What a word that names flags asks for.** -/
def Naming.reading : Naming → Except UsageError Reading
  | letter flag none => .ok (Reading.ofFlag flag)
  | letter flag (some joined) => Reading.ofLetters flag joined
  | name flag value => Reading.ofName flag value

end DocComments.CommandLine
