import DocComments.Record
import DocComments.Settings
import DocComments.Text.StandIn

/-!
# The journal of a run

What happens on the way of a run is noted in a journal.  How much of it is shown depends on
whether everything was asked for; warnings are always shown.
-/

namespace DocComments.CommandLine

/-- How much an event matters. -/
inductive Level where
  | debug
  | info
  | warning
  deriving DecidableEq, Repr

/-- The word for a level. -/
def Level.name : Level → String
  | debug => "DEBUG"
  | info => "INFO"
  | warning => "WARNING"

/-- **What happens on the way of a run.** -/
inductive Event where
  /-- Settings were read from a file. -/
  | loaded (settings : Settings) (path : String)
  /-- The scan of an input begins. -/
  | scanning (input : String)
  /-- The scan of a text with some stand-ins reports something. -/
  | scan (e : ScanEvent) (standIns : Text.StandIns)
  /-- The results were written to a file. -/
  | wrote (count : Nat) (path : String)

namespace Event

/-- How much the event matters. -/
def level : Event → Level
  | loaded .. => .debug
  | scanning _ => .info
  | scan (.found _) _ => .debug
  | scan (.skipped _) _ => .warning
  | wrote .. => .info

/-- The part of the program in which the event happens. -/
def origin : Event → String
  | loaded .. => "docfront.docfront_config"
  | scanning _ => "docfront.docfront_cli"
  | scan .. => "docfront.docfront_parser"
  | wrote .. => "docfront.docfront_cli"

/-- The wording of the event. -/
def message : Event → String
  | loaded settings path => s!"loaded {settings.display} from {path}"
  | scanning input => "scanning " ++ input
  | scan e standIns => e.messageBy standIns.quoted
  | wrote count path => s!"wrote {count} file(s) to {path}"

/-- The line of the event in a journal. -/
def line (e : Event) : String :=
  s!"{e.level.name} {e.origin}: {e.message}\n"

/-- The event is shown. -/
def isShown (verbose : Bool) (e : Event) : Bool :=
  verbose || e.level = .warning

end Event

/-- **The text of a journal**, as far as it is shown. -/
def journalText (verbose : Bool) (events : List Event) : String :=
  String.join ((events.filter (·.isShown verbose)).map Event.line)

end DocComments.CommandLine
