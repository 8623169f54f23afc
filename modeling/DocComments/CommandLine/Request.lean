import DocComments.CommandLine.Word

/-!
# Requests

A request is what a command line asks for.  The words are taken in order.  The first run of
operands are the sources; a flag ends the run, and operands behind it are left over.  From a
word of two dashes on, all words are operands, whatever they look like.

Where several things are wrong, a long name cut too short comes first, then what is wrong
with a word when its turn comes, then missing sources, then words left over.  A word that
asks for help ends the reading at its turn.
-/

namespace DocComments.CommandLine

/-- **What a command line asks for.** -/
structure Request where
  /-- The sources: paths, or texts if `literal` is set. -/
  sources : List String := []
  /-- The sources are texts. -/
  literal : Bool := false
  /-- Where the results are written. -/
  out : Option String := none
  /-- The file with the settings. -/
  config : Option String := none
  /-- The results are written on one line. -/
  compact : Bool := false
  /-- Malformed code is recorded as unrecognised. -/
  recover : Bool := false
  /-- Everything is reported that happens on the way. -/
  verbose : Bool := false
  deriving DecidableEq, Repr

/-- Why a command line gives no request. -/
inductive Refusal where
  /-- It asks for help. -/
  | help
  /-- It cannot be used. -/
  | usage (e : UsageError)
  deriving DecidableEq, Repr

namespace Request

/-- Turns a switch on. -/
def turnOn (r : Request) : Switch → Except Refusal Request
  | .help => .error .help
  | .string => .ok { r with literal := true }
  | .compact => .ok { r with compact := true }
  | .recover => .ok { r with recover := true }
  | .verbose => .ok { r with verbose := true }

/-- Gives a parameter its value; the last value counts.  Two dashes take the value away. -/
def assign (r : Request) (value : String) : Parameter → Request
  | .out => { r with out := if value = "--" then none else some value }
  | .config => { r with config := if value = "--" then none else some value }

end Request

/-- How far the run of sources has come. -/
inductive Run where
  /-- No operand was seen. -/
  | awaited
  /-- The run may go on. -/
  | growing (sources : List String)
  /-- The run has ended. -/
  | ended (sources : List String)
  deriving DecidableEq, Repr

/-- A command line read in part. -/
structure Draft where
  /-- What its flags ask for. -/
  request : Request
  /-- The run of sources. -/
  run : Run
  /-- The words left over. -/
  extra : List String
  deriving DecidableEq, Repr

namespace Draft

/-- Nothing read. -/
def start : Draft := ⟨{}, .awaited, []⟩

/-- A flag, of whatever kind, ends the run of sources. -/
def endRun (s : Draft) : Draft :=
  match s.run with
  | .growing sources => { s with run := .ended sources }
  | _ => s

/-- One more operand. -/
def operand (s : Draft) (text : String) : Draft :=
  match s.run with
  | .awaited => { s with run := .growing [text] }
  | .growing sources => { s with run := .growing (sources ++ [text]) }
  | .ended _ => { s with extra := s.extra ++ [text] }

/-- One more word left over. -/
def leaveOver (s : Draft) (text : String) : Draft :=
  { s.endRun with extra := s.extra ++ [text] }

/-- Takes in what one word asks for, the value of its parameter included. -/
def apply (s : Draft) (r : Reading) (value : Option (Parameter × String)) :
    Except Refusal Draft := do
  let request ← r.switches.foldlM Request.turnOn s.request
  let request :=
    match value with
    | some (p, text) => request.assign text p
    | none => request
  pure { s.endRun with request := request }

/-- **Reads words** that stand before any word of two dashes. -/
def readWords (s : Draft) : List Word → Except Refusal Draft
  | [] => .ok s
  | .operand text :: more => readWords (s.operand text) more
  | .unknown text :: more => readWords (s.leaveOver text) more
  | .flag naming :: more =>
      match naming.reading with
      | .error e => .error (.usage e)
      | .ok r =>
          match r.parameter with
          | none => do readWords (← s.apply r none) more
          | some (p, some text) => do readWords (← s.apply r (some (p, text))) more
          | some (p, none) =>
              match more with
              | .operand text :: more => do readWords (← s.apply r (some (p, text))) more
              | _ => .error (.usage (.missingValue p))

/-- The words from the first one of two dashes on: that word itself counts only where they
are no sources. -/
def operands (s : Draft) (words : List String) : Draft :=
  match s.run, words with
  | _, [] => s
  | .growing sources, _ :: more => { s with run := .ended (sources ++ more) }
  | .awaited, [dashes] => { s with extra := s.extra ++ [dashes] }
  | .awaited, _ :: more => { s with run := .ended more }
  | .ended _, words => { s with extra := s.extra ++ words }

/-- The request, once all words are read. -/
def finish (s : Draft) : Except UsageError Request :=
  match s.run with
  | .awaited => .error .noSources
  | .growing sources | .ended sources =>
      if s.extra.isEmpty then .ok { s.request with sources := sources }
      else .error (.unrecognized s.extra)

end Draft

/-- **The request that a command line makes.** -/
def Request.ofArguments (arguments : List String) : Except Refusal Request := do
  let before := arguments.takeWhile (· ≠ "--")
  let words ← (before.mapM Word.ofString).mapError .usage
  let s ← Draft.start.readWords words
  (s.operands (arguments.dropWhile (· ≠ "--"))).finish.mapError .usage

end DocComments.CommandLine
