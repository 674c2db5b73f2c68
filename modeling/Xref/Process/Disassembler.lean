import Xref.Failure
import Xref.Listing.Bytes

namespace Xref.Disassembler

structure Reading where
  lines : List Text
  failure : Option Failure
  journal : Journal
  deriving DecidableEq, Repr

def cannotRun (command : Command) (reason : Text) : Failure := .disassembler ⟨command, none, reason⟩

def readStarted (command : Command) (limit : Option Nat) (output : Bytes) (status : Int)
    (journal : Journal) : Reading :=
  let lines := Listing.ofBytes output
  match limit.filter (· ≤ lines.length) with
  | some limit => ⟨lines.take limit, none, journal ++ [.kill, .wait]⟩
  | none =>
    let journal := journal ++ [.wait]
    if status ≠ 0 then ⟨lines, some (.disassembler ⟨command, some status, []⟩), journal⟩
    else ⟨lines, none, journal ++ [.log .debug (command.program ++ " finished")]⟩

/-- Runs a command and reads its output, or up to `limit` lines of it. Without a pull nothing
happens. -/
def read (tools : Tools) (command : Command) (limit : Option Nat) (journal : Journal) : Reading :=
  if limit = some 0 then ⟨[], none, journal⟩
  else
    let announced := journal ++ [.log .debug ("Running " ++ shownWords command.words)]
    let journal := announced ++ [.disassembler command.words]
    if command.words.any hasNul then ⟨[], some .embeddedNul, journal⟩
    else
      match tools.disassembler announced command.words with
      | .failed cause =>
        ⟨[], some (cannotRun command (SystemError.message ⟨cause, command.program⟩)), journal⟩
      | .interrupted => ⟨[], some .interrupted, journal⟩
      | .withoutPipe => ⟨[], some (cannotRun command "no output pipe"), journal ++ [.kill, .wait]⟩
      | .started output status => readStarted command limit output status journal

end Xref.Disassembler
