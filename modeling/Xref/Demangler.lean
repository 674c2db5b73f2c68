import Xref.Failure
import Xref.Text.Blank
import Xref.Text.Lines

/-!
# Display names

Symbols are shown under the names that external filters give them. The names go to the first filter
of a chain in one batch, one name per line; those that it leaves as they are go on to the next.
Answers are kept, so a name is sent to a filter once. A filter that cannot be run, that ends with
a status other than zero or that answers with another number of lines is not used again.
-/

namespace Xref

/-- The commands of the filters, the display names found so far, and the positions in the chain of
the filters that are not used any more. -/
structure Demangler where
  chain : List (List Text)
  cache : List (Symbol × Text)
  disabled : List Nat
  deriving DecidableEq, Repr

namespace Demangler

def defaultChain : List (List Text) := [["c++filt"], ["c++filt", "-s", "dlang"]]

/-- A demangler that has seen no name. An empty chain stands for the default one. -/
def ofChain (chain : List (List Text)) : Demangler :=
  ⟨if chain.isEmpty then defaultChain else chain, [], []⟩

inductive Rejection where
  | unavailable (error : SystemError)
  | exited (status : Int) (errors : Text)
  | miscounted (lines names : Nat)
  deriving DecidableEq, Repr

def Rejection.message (words : List Text) : Rejection → Text
  | .unavailable error =>
    "Demangler " ++ shownWords words ++ " unavailable, skipping it: " ++ error.message
  | .exited status errors =>
    "Demangler " ++ shownWords words ++ " exited with status " ++ Text.ofInt status ++
      ", skipping it: " ++ errors
  | .miscounted lines names =>
    "Demangler " ++ shownWords words ++ " returned " ++ Text.ofNat lines ++ " lines for " ++
      Text.ofNat names ++ " symbols, skipping it"

/-- What a filter run means: a display name for each name, the end of the filter, or the end of the
whole operation. -/
inductive Verdict where
  | displays (names : List Text)
  | rejected (rejection : Rejection)
  | raised (failure : Failure)
  deriving DecidableEq, Repr

/-- The display names in the lines of an answer; an empty line leaves its name as it is. -/
def readAnswer (names : List Symbol) (output : Text) : Verdict :=
  let lines := output.displayLines
  if lines.length ≠ names.length then .rejected (.miscounted lines.length names.length)
  else .displays (List.zipWith (fun name line => if line.isEmpty then name else line) names lines)

/-- The meaning of a finished run. Both streams must be decodable, whatever the status is. -/
def judgeFinished (names : List Symbol) (status : Int) (output errors : Bytes) : Verdict :=
  match Utf8.decode output with
  | .error error => .raised (.undecodable error)
  | .ok output =>
    match Utf8.decode errors with
    | .error error => .raised (.undecodable error)
    | .ok errors =>
      if status ≠ 0 then .rejected (.exited status errors.unifyLineEnds.trim)
      else readAnswer names output

def judge (program : Text) (names : List Symbol) : FilterOutcome → Verdict
  | .failed cause => .rejected (.unavailable ⟨cause, program⟩)
  | .interrupted => .raised .interrupted
  | .finished status output errors => judgeFinished names status output errors

def filterInput (names : List Symbol) : Text := names.flatMap (· ++ "\n")

/-- Runs a filter on some names. A command that cannot be a command ends the whole operation. -/
def runFilter (tools : Tools) (words : List Text) (names : List Symbol) (journal : Journal) :
    Verdict × Journal :=
  let input := filterInput names
  let announced := journal ++ [.log .debug
    ("Demangling " ++ Text.ofNat names.length ++ " symbols with " ++ shownWords words)]
  let verdict := match Command.ofWords? words with
    | none => .raised .noProgram
    | some command =>
      if words.any hasNul then .raised .embeddedNul
      else judge command.program names (tools.filter announced words input)
  -- An attempt counts as a run, also when the words are no command.
  (verdict, announced ++ [.filter words input])

def keepRaw (demangler : Demangler) (names : List Symbol) : Demangler :=
  { demangler with cache := demangler.cache ++ names.map fun name => (name, name) }

def keepChanged (demangler : Demangler) (names : List Symbol) (displays : List Text) : Demangler :=
  { demangler with
    cache := demangler.cache ++ (names.zip displays).filter fun (name, display) => display ≠ name }

def unchanged (names : List Symbol) (displays : List Text) : List Symbol :=
  ((names.zip displays).filter fun (name, display) => display = name).map Prod.fst

structure Outcome (α : Type) where
  result : Except Failure α
  demangler : Demangler
  journal : Journal

/-- Sends the pending names through the rest of a chain, whose filters stand with their positions.
What no filter changed is kept as it is. -/
def sendThrough (tools : Tools) :
    List (List Text × Nat) → List Symbol → Demangler → Journal → Outcome Unit
  | [], pending, demangler, journal => ⟨.ok (), demangler.keepRaw pending, journal⟩
  | (words, index) :: rest, pending, demangler, journal =>
    if pending.isEmpty then ⟨.ok (), demangler, journal⟩
    else if index ∈ demangler.disabled then sendThrough tools rest pending demangler journal
    else
      match runFilter tools words pending journal with
      | (.displays displays, journal) =>
        sendThrough tools rest (unchanged pending displays) (demangler.keepChanged pending displays)
          journal
      | (.rejected rejection, journal) =>
        sendThrough tools rest pending { demangler with disabled := demangler.disabled ++ [index] }
          (journal ++ [.log .warning (rejection.message words)])
      | (.raised failure, journal) => ⟨.error failure, demangler, journal⟩

/-- The names that have no display name yet, each once. The empty name needs none. -/
def pending (demangler : Demangler) (names : List Symbol) : List Symbol :=
  (firstSeen names).filter fun name => !name.isEmpty && (demangler.cache.lookup name).isNone

def prime (tools : Tools) (demangler : Demangler) (names : List Symbol) (journal : Journal) :
    Outcome Unit :=
  sendThrough tools demangler.chain.zipIdx (demangler.pending names) demangler journal

def kept (demangler : Demangler) (name : Symbol) : Text := (demangler.cache.lookup name).getD name

def demangle (tools : Tools) (demangler : Demangler) (name : Symbol) (journal : Journal) :
    Outcome Text :=
  if (demangler.cache.lookup name).isSome then ⟨.ok (demangler.kept name), demangler, journal⟩
  else
    let primed := demangler.prime tools [name] journal
    { primed with result := primed.result.map fun _ => primed.demangler.kept name }

def showLine (tools : Tools) (demangler : Demangler) (line : Report.Line) (journal : Journal) :
    Outcome Text :=
  match line.displayed? with
  | none => ⟨.ok (line.write []), demangler, journal⟩
  | some name =>
    let named := demangler.demangle tools name journal
    { named with result := named.result.map fun shown => line.write shown }

def showLines (tools : Tools) : List Report.Line → Demangler → Journal → Outcome (List Text)
  | [], demangler, journal => ⟨.ok [], demangler, journal⟩
  | line :: rest, demangler, journal =>
    let shown := demangler.showLine tools line journal
    match shown.result with
    | .error failure => ⟨.error failure, shown.demangler, shown.journal⟩
    | .ok text =>
      let others := showLines tools rest shown.demangler shown.journal
      { others with result := others.result.map (text :: ·) }

end Demangler

end Xref
