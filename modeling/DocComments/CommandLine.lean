import DocComments.CommandLine.Pipeline
import DocComments.Settings.Reading

/-!
# The command line

`run` is the whole program as a function: what can be seen of the files and the words of the
command line decide how it ends, what it puts out and what it reports (`Outcome`).

A run ends in one of four ways.  It exits with 0 when all was done or only help was asked
for, with 2 when the command line cannot be used, with 1 and a message when the settings are
wrong or the run meets a fault that it expects; any other fault escapes.
-/

namespace DocComments.CommandLine

open Text

/-- How a run ends. -/
inductive Ending where
  /-- With an exit status. -/
  | exit (status : Nat)
  /-- With a fault that the program does not expect. -/
  | escaped (f : Fault)
  deriving DecidableEq, Repr

/-- **What comes of a run.** -/
structure Outcome where
  /-- How the run ends. -/
  ending : Ending
  /-- What goes to the standard output. -/
  out : String
  /-- What goes to the standard error output. -/
  err : LooseString
  /-- What is written to a file, and its path. -/
  written : Option (String × String)
  deriving DecidableEq, Repr

/-- The short form of the help. -/
def usage : String :=
  "usage: docfront [-h] [-s] [-o OUTFILE] [-c CONFIG] [--compact] [--recover]\n" ++
  "                [-v]\n" ++
  "                sources [sources ...]\n"

/-- The help. -/
def help : String :=
  usage ++
  "\nExtract doc-comments and the code that follows them from JavaScript.\n" ++
  "\npositional arguments:\n" ++
  "  sources               Files, directories, or raw source (with -s)\n" ++
  "\noptions:\n" ++
  "  -h, --help            show this help message and exit\n" ++
  "  -s, --string          Interpret sources as literal strings\n" ++
  "  -o OUTFILE, --out OUTFILE\n" ++
  "                        Output to file\n" ++
  "  -c CONFIG, --config CONFIG\n" ++
  "                        JSON config file\n" ++
  "  --compact             Write JSON without indentation\n" ++
  "  --recover             Summarize malformed code as nop instead of aborting\n" ++
  "  -v, --verbose         Verbose logging\n"

/-- The line of a message. -/
def messageLine (message : String) : String :=
  s!"docfront: {message}\n"

/-- What is reported of settings that are wrong: the message, and a line for each problem. -/
def settingsReport (e : SettingsError) : LooseString :=
  messageLine e.message ++ LooseString.join (e.details.map fun problem => "  - " ++ problem ++ "\n")

/-- The settings that a request asks for, before its own flags count, and the journal of how
they were found. -/
def requestedSettings (files : FileView) (r : Request) :
    Except SettingsError (Settings × List Event) :=
  match r.config with
  | none | some "" => .ok ({}, [])
  | some path => (files.readSettings path).map fun settings => (settings, [.loaded settings path])

/-- The settings with the flags of a request, which can only make the results compact and
the scan recover. -/
def withFlags (r : Request) (settings : Settings) : Settings :=
  { settings with
    indent := if r.compact then none else settings.indent
    recover := r.recover || settings.recover }

/-- **Runs a request.** -/
def runRequest (files : FileView) (r : Request) : Outcome :=
  match requestedSettings files r with
  | .error (.exhausted f) => ⟨.escaped (.nesting f), "", "", none⟩
  | .error e => ⟨.exit 1, "", settingsReport e, none⟩
  | .ok (settings, journal) =>
      match pipeline files (withFlags r settings) r journal with
      | .ok output journal =>
          ⟨.exit 0, output.out, journalText r.verbose journal, output.written⟩
      | .error f journal =>
          if f.isReported then
            ⟨.exit 1, "", journalText r.verbose journal ++ messageLine f.message, none⟩
          else ⟨.escaped f, "", journalText r.verbose journal, none⟩

/-- **Runs a command line.** -/
def run (files : FileView) (arguments : List String) : Outcome :=
  match Request.ofArguments arguments with
  | .ok r => runRequest files r
  | .error .help => ⟨.exit 0, help, "", none⟩
  | .error (.usage e) => ⟨.exit 2, "", usage ++ messageLine ("error: " ++ e.message), none⟩

end DocComments.CommandLine
