import Xref.Json.Parser
import Xref.Process.Command
import Xref.Process.Journal
import Xref.Report.Basic

namespace Xref

structure DisassemblerError where
  command : Command
  status : Option Int
  reason : Text
  deriving DecidableEq, Repr

def DisassemblerError.message (error : DisassemblerError) : Text :=
  match error.status with
  | none => "Failed to run " ++ error.command.program ++ ": " ++ error.reason
  | some status => error.command.program ++ " exited with status " ++ Text.ofInt status

inductive Failure where
  | interrupted
  | noProgram
  | embeddedNul
  | undecodable (error : Utf8.Error)
  | system (error : SystemError)
  | disassembler (error : DisassemblerError)
  | malformed (error : Json.Error)
  | invalid (faults : List Json.Fault)
  | report (error : Report.Error)
  deriving DecidableEq, Repr

namespace Failure

/-- The wording of a failure. Of several faults in a configuration it only gives the number. -/
def message : Failure → Text
  | .interrupted => []
  | .noProgram => "list index out of range"
  | .embeddedNul => "embedded null byte"
  | .undecodable error => error.message
  | .system error => error.message
  | .disassembler error => error.message
  | .malformed error => error.message
  | .invalid faults =>
    Text.ofNat faults.length ++
      (if faults.length = 1 then " validation error for " else " validation errors for ") ++
      "SymdepConfig"
  | .report error => error.message

end Failure

end Xref
