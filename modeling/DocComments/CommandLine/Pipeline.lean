import DocComments.CommandLine.Journal
import DocComments.CommandLine.Request
import DocComments.Files.Expansion
import DocComments.Files.Reading
import DocComments.Json.Reader
import DocComments.Json.Writer

/-!
# From sources to results

A run has three stages, each of which goes through all inputs before the next begins: the
inputs are read, they are scanned, and the results are written as one JSON text.  So a run
that fails at any input has written nothing.

Each input is scanned on its own; its results are the records of its doc-comments under its
name.
-/

namespace DocComments.CommandLine

/-- **Why a run fails** on the way. -/
inductive Fault where
  /-- The settings are nested too deep to be read. -/
  | nesting (f : Json.Fault)
  /-- A file cannot be read or written. -/
  | file (f : FileFault)
  /-- An input cannot be scanned, whose text has some stand-ins. -/
  | input (f : Failure) (standIns : Text.StandIns)
  /-- The settings ask for an indentation that no number of blanks can count. -/
  | indentation
  /-- The settings ask for an indentation of more blanks than there is room for. -/
  | noRoom
  deriving DecidableEq, Repr

namespace Fault

/-- The wording of a fault. -/
def message : Fault → String
  | nesting f => f.message
  | file f => f.message
  | input f standIns => f.messageBy standIns.quoted
  | indentation => "cannot fit 'int' into an index-sized integer"
  | noRoom => ""

/-- **The fault is one that a run expects** and reports by a message: a path that cannot be
used, or an input that cannot be scanned. -/
def isReported : Fault → Bool
  | nesting _ => false
  | file (.unusable _) => true
  | file _ => false
  | input .. => true
  | indentation => false
  | noRoom => false

end Fault

/-- A part of a run, which adds to the journal. -/
abbrev Stage := EStateM Fault (List Event)

/-- Notes an event. -/
def note (e : Event) : Stage Unit :=
  modify (· ++ [e])

/-! ### Reading -/

/-- **An input**: its name and its text. -/
structure Input where
  /-- The path it was read from, or a name for a text given as it is. -/
  name : String
  /-- The text. -/
  text : Text.LooseString
  deriving DecidableEq, Repr

/-- A text given as it is. -/
def Input.literal (text : String) : Input := ⟨"<string>", text⟩

/-- The input in a file. -/
def readInput (files : FileView) (settings : Settings) (path : String) :
    Except FileFault Input :=
  (files.readText settings.encoding path).map (Input.mk path)

/-- **The inputs of a run**, or the first file that cannot be read. -/
def readInputs (files : FileView) (settings : Settings) (r : Request) :
    Except FileFault (List Input) :=
  if r.literal then .ok (r.sources.map Input.literal)
  else (files.expand settings.extensions r.sources).mapM (readInput files settings)

/-! ### Scanning -/

/-- The results of one input. -/
def resultsJson (name : String) (records : List Json) : Json :=
  .object [("filename", .string name), ("docs", .array records)]

/-- **Scans one input.**  Halves that stand alone in its text are scanned under stand-ins, which
the scan treats as it would treat the halves, and put back into what comes of it. -/
def scanInput (settings : Settings) (i : Input) : Stage Json := do
  note (.scanning i.name)
  let standIns := i.text.standIns
  match Scanner.scan ⟨settings.recover, Tag.readAll⟩ (.ofString i.text.disguised) with
  | .ok _ s => do
      modify (· ++ s.events.map (.scan · standIns))
      pure (resultsJson i.name (s.records.map (·.toJson.mapTexts standIns.restore)))
  | .error e s => do
      modify (· ++ s.events.map (.scan · standIns))
      throw (.input e standIns)

/-! ### Writing -/

/-- Numbers of blanks are less than this. -/
def indentBound : Nat := Nat.pow 2 63

/-- There is room for fewer blanks in a row than this. -/
def blanksBound : Nat := Nat.pow 2 35

/-- The layout of the results; there are no blanks to less than nothing. -/
def layoutOf : Option Int → Except Fault Json.Layout
  | none => .ok .compact
  | some n =>
      if n < -(indentBound : Int) ∨ (indentBound : Int) ≤ n then .error .indentation
      else if (blanksBound : Int) ≤ n then .error .noRoom
      else .ok (.indented n.toNat)

/-- **What a run puts out.** -/
structure Output where
  /-- What goes to the standard output. -/
  out : String
  /-- What is written to a file, and its path. -/
  written : Option (String × String)
  deriving DecidableEq, Repr

/-- Puts the results of `count` inputs where they are asked for: into a file, or if none is
named to the standard output. -/
def deliver (files : FileView) (path : Option String) (text : String) (count : Nat) :
    Stage Output :=
  match path with
  | none | some "" => pure ⟨text ++ "\n", none⟩
  | some path =>
      match files.writeFault? path with
      | some f => throw (.file f)
      | none => do
          note (.wrote count path)
          pure ⟨"", some (path, text ++ "\n")⟩

/-- **All three stages.** -/
def pipeline (files : FileView) (settings : Settings) (r : Request) : Stage Output := do
  let inputs ←
    match readInputs files settings r with
    | .ok inputs => pure inputs
    | .error f => throw (.file f)
  let results ← inputs.mapM (scanInput settings)
  let layout ←
    match layoutOf settings.indent with
    | .ok layout => pure layout
    | .error f => throw f
  deliver files r.out (Json.write layout (.array results)) results.length

end DocComments.CommandLine
