import Xref.SystemError
import Xref.Text.Utf8

/-!
# Processes and the journal

What a run does to the world outside is kept in a journal, in the order in which it happens: the
processes that it starts or tries to start, what it does to them, and its log records.

The programs themselves are a parameter. What a program answers may depend on everything that
happened before, so two runs of one command need not agree.
-/

namespace Xref

inductive Level where
  | debug
  | warning
  deriving DecidableEq, Repr

def Level.name : Level → Text
  | .debug => "DEBUG"
  | .warning => "WARNING"

inductive Event where
  | filter (words : List Text) (input : Text)
  | disassembler (words : List Text)
  | kill
  | wait
  | log (level : Level) (text : Text)
  deriving DecidableEq, Repr

abbrev Journal := List Event

inductive FilterOutcome where
  | failed (cause : SystemCause)
  | interrupted
  | finished (status : Int) (output errors : Bytes)
  deriving DecidableEq, Repr

/-- How the start of a disassembler ends. One that is started without a pipe has no output that can
be read. -/
inductive DisassemblerOutcome where
  | failed (cause : SystemCause)
  | interrupted
  | withoutPipe
  | started (output : Bytes) (status : Int)
  deriving DecidableEq, Repr

/-- The programs of the system, by what they do after some history. -/
structure Tools where
  filter : Journal → List Text → Text → FilterOutcome
  disassembler : Journal → List Text → DisassemblerOutcome

namespace Journal

/-- The log records of a journal. Only a verbose run shows the light ones. -/
def logs (verbose : Bool) (journal : Journal) : List (Level × Text) :=
  journal.filterMap fun
    | .log .debug text => if verbose then some (.debug, text) else none
    | .log .warning text => some (.warning, text)
    | _ => none

end Journal

end Xref
