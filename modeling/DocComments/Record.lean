import DocComments.CodeBlock.Grammar
import DocComments.Tag.Reader

/-!
# Records of doc-comments

A record pairs a doc-comment with the summary of the code behind it.  `Scanner.scan` goes
through the tokens to come and makes a record of each doc-comment; all other tokens are
passed over, one at a time.

A code block may turn out malformed half way.  A scanner that recovers then records the
block as unrecognised and goes on with the token at which the mismatch arose; one that does
not stops there.  Either way the records made so far are kept, so a scan that has stopped
can be taken up again.  A construct that the lexer finds left open stops both.
-/

namespace DocComments

/-- **A doc-comment and the code behind it.** -/
structure Record where
  /-- The tags of the comment. -/
  comment : List Tag
  /-- The line on which the comment starts. -/
  line : Int
  /-- The summary of the code behind the comment. -/
  code : Summary

namespace Record

/-- The record as a JSON object. -/
def toJson (r : Record) : Json :=
  .object
    [("comment", .array (r.comment.map Tag.toJson)),
      ("linenr", .int r.line),
      ("code", r.code.toJson)]

/-- How messages show a record. -/
def display (r : Record) : String :=
  s!"DocRecord(linenr={r.line}, code={r.code.display})"

/-- The records are equal. -/
def same (r s : Record) : Bool :=
  r.comment = s.comment && r.line = s.line && r.code.same s.code

end Record

/-- **What a scan reports** while it goes on. -/
inductive ScanEvent where
  /-- A doc-comment was found. -/
  | found (line : Int)
  /-- The code behind it is malformed, and was recorded as unrecognised. -/
  | skipped (m : Mismatch)
  deriving DecidableEq, Repr

/-- The wording of an event, in which `quote` shows the text of a token. -/
def ScanEvent.messageBy (quote : String → String) : ScanEvent → String
  | found line => s!"doc-comment at line {line}"
  | skipped m => "skipping malformed code after doc-comment: " ++ m.messageBy quote

/-- The wording of an event. -/
def ScanEvent.message (e : ScanEvent) : String :=
  e.messageBy Text.quoted

/-- **A scan under way**: the tokens to come, the records made so far and what was reported. -/
structure Scanner where
  /-- The tokens to come. -/
  source : TokenSource
  /-- The records made so far. -/
  records : List Record
  /-- What was reported so far. -/
  events : List ScanEvent

/-- How comments are read, and what happens at malformed code. -/
structure ScanMode where
  /-- Malformed code is recorded as unrecognised. -/
  recover : Bool
  /-- The tags of a comment. -/
  readTags : String → List Tag

namespace Scanner

/-- The scanner at the start of some tokens. -/
def ofSource (source : TokenSource) : Scanner := ⟨source, [], []⟩

/-- The scanner at the start of a source. -/
def ofString (source : String) : Scanner := ofSource (.ofString source)

/-- A step of a scan. -/
abbrev Step := EStateM Failure Scanner

/-- A rule as a step of a scan. -/
def lift {α : Type} (rule : Rule α) : Step α := fun s =>
  match rule s.source with
  | .ok a source => .ok a { s with source := source }
  | .error e source => .error e { s with source := source }

/-- Reports an event. -/
def report (e : ScanEvent) : Step Unit :=
  modify fun s => { s with events := s.events ++ [e] }

/-- The summary of the code behind a doc-comment. -/
def summarise (mode : ScanMode) : Step Summary := do
  try lift Rule.codeBlock
  catch e =>
    match e, mode.recover with
    | .mismatch m, true => do
        report (.skipped m)
        pure .unrecognised
    | e, _ => throw e

/-- One round of a scan: a doc-comment with the code behind it, or one other token.  Answers
whether there was one. -/
def round (mode : ScanMode) : Step Bool := do
  if ← lift Rule.atEnd then pure false
  else if ← lift (Rule.look [TokenKind.docComment]) then do
    let comment ← lift Rule.next
    report (.found comment.line)
    let code ← summarise mode
    let record : Record := ⟨mode.readTags comment.text, comment.line, code⟩
    modify fun s => { s with records := s.records ++ [record] }
    pure true
  else do
    let _ ← lift Rule.next
    pure true

/-- At most `rounds` rounds. -/
def scanUpTo (mode : ScanMode) : Nat → Step Unit
  | 0 => pure ()
  | rounds + 1 => do
      if ← round mode then scanUpTo mode rounds else pure ()

/-- **Scans to the end.**  Each round takes a token, so there are no more rounds than tokens
to come. -/
def scan (mode : ScanMode) : Step Unit := do
  scanUpTo mode ((← get).source.size + 1)

end Scanner

end DocComments
