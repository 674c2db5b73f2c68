import Xref.Process.Disassembler
import Xref.Proofs.Cursor
import Xref.Proofs.Demangler.Pass

/-!
# The life of a disassembler process

Lines are pulled from the process one by one, and its reader may stop between any two pulls. Here each
pull is a step of its own: the first one starts the process, and one behind the last line awaits its end
and looks at its status. Closing a reader kills a process whose end was not seen, and awaits its end.
Reading with a limit is that many pulls and then closing; reading without one is pulling to the end.
-/

namespace Xref.Disassembler

def announced (command : Command) (journal : Journal) : Journal :=
  journal ++ [.log .debug ("Running " ++ shownWords command.words)]

def startOutcome (tools : Tools) (command : Command) (journal : Journal) : DisassemblerOutcome :=
  tools.disassembler (announced command journal) command.words

inductive Phase where
  | fresh
  | reading (left : List Text) (status : Int)
  | done
  deriving DecidableEq, Repr

structure Reader where
  phase : Phase
  failure : Option Failure
  journal : Journal
  deriving DecidableEq, Repr

namespace Reader

def unopened (journal : Journal) : Reader := ⟨.fresh, none, journal⟩

def finish (command : Command) (status : Int) (journal : Journal) : Reader :=
  let waited := journal ++ [.wait]
  if status ≠ 0 then ⟨.done, some (.disassembler ⟨command, some status, []⟩), waited⟩
  else ⟨.done, none, waited ++ [.log .debug (command.program ++ " finished")]⟩

def advance (command : Command) (status : Int) (journal : Journal) :
    List Text → Option Text × Reader
  | [] => (none, finish command status journal)
  | line :: left => (some line, ⟨.reading left status, none, journal⟩)

def start (tools : Tools) (command : Command) (journal : Journal) : Option Text × Reader :=
  let tried := announced command journal ++ [.disassembler command.words]
  if command.words.any hasNul then (none, ⟨.done, some .embeddedNul, tried⟩)
  else
    match startOutcome tools command journal with
    | .failed cause =>
      (none, ⟨.done, some (cannotRun command (SystemError.message ⟨cause, command.program⟩)), tried⟩)
    | .interrupted => (none, ⟨.done, some .interrupted, tried⟩)
    | .withoutPipe =>
      (none, ⟨.done, some (cannotRun command "no output pipe"), tried ++ [.kill, .wait]⟩)
    | .started output status => advance command status tried (Listing.ofBytes output)

def next (tools : Tools) (command : Command) (reader : Reader) : Option Text × Reader :=
  match reader.phase with
  | .fresh => start tools command reader.journal
  | .reading left status => advance command status reader.journal left
  | .done => (none, reader)

def close (reader : Reader) : Reader :=
  match reader.phase with
  | .reading _ _ => ⟨.done, reader.failure, reader.journal ++ [.kill, .wait]⟩
  | _ => { reader with phase := .done }

def reading (lines : List Text) (reader : Reader) : Reading := ⟨lines, reader.failure, reader.journal⟩

end Reader

section
variable {tools : Tools} {command : Command} {journal : Journal} {status : Int}

/-! ## Pulls from a running process -/

theorem pull_of_short {left : List Text} {count : Nat} (short : count ≤ left.length) :
    pull (Reader.next tools command) count ⟨.reading left status, none, journal⟩ =
      (left.take count, false, ⟨.reading (left.drop count) status, none, journal⟩) := by
  induction count generalizing left with
  | zero => rfl
  | succ count ih =>
      obtain ⟨line, left, rfl⟩ := List.exists_cons_of_length_pos (Nat.zero_lt_of_lt short)
      have step : Reader.next tools command ⟨.reading (line :: left) status, none, journal⟩ =
          (some line, ⟨.reading left status, none, journal⟩) := rfl
      rw [pull_of_some step, ih (Nat.le_of_succ_le_succ short)]
      rfl

theorem pull_of_exhausting {left : List Text} {count : Nat} (exhausting : left.length < count) :
    pull (Reader.next tools command) count ⟨.reading left status, none, journal⟩ =
      (left, true, .finish command status journal) := by
  induction left generalizing count with
  | nil =>
      obtain ⟨count, rfl⟩ := Nat.exists_eq_add_one.mpr exhausting
      have step : Reader.next tools command ⟨.reading [] status, none, journal⟩ =
          (none, .finish command status journal) := rfl
      rw [pull_of_none step]
  | cons line left ih =>
      obtain ⟨count, rfl⟩ := Nat.exists_eq_add_one.mpr (Nat.zero_lt_of_lt exhausting)
      have step : Reader.next tools command ⟨.reading (line :: left) status, none, journal⟩ =
          (some line, ⟨.reading left status, none, journal⟩) := rfl
      rw [pull_of_some step, ih (Nat.lt_of_succ_lt_succ exhausting)]

theorem close_finish (command : Command) (status : Int) (journal : Journal) :
    (Reader.finish command status journal).close = .finish command status journal := by
  unfold Reader.finish
  split_ifs <;> rfl

/-! ## Pulls from the start on -/

/-- Either the first pull meets the end of all, or it pulls from a running process, and reading with any
limit goes the same way. -/
theorem start_cases (tools : Tools) (command : Command) (journal : Journal) :
    (∃ stopped, Reader.next tools command (.unopened journal) = (none, stopped) ∧
      stopped.close = stopped ∧
      ∀ limit, limit ≠ some 0 → read tools command limit journal = stopped.reading []) ∨
    ∃ output status after,
      Reader.next tools command (.unopened journal) = Reader.next tools command
        ⟨.reading (Listing.ofBytes output) status, none, after⟩ ∧
      ∀ limit, limit ≠ some 0 →
        read tools command limit journal = readStarted command limit output status after := by
  have first : Reader.next tools command (.unopened journal) = Reader.start tools command journal := rfl
  unfold Reader.start startOutcome announced at first
  cases nul : command.words.any hasNul with
  | true =>
      simp only [nul, if_true] at first
      exact .inl ⟨_, first, rfl, fun limit asked => by simp only [read, asked, nul, if_false, if_true]; rfl⟩
  | false =>
      simp only [nul, Bool.false_eq_true, if_false] at first
      simp only [read, nul, Bool.false_eq_true, if_false]
      split at first
      · rename_i failed
        exact .inl ⟨_, first, rfl, fun limit asked => by simp only [asked, failed, if_false]; rfl⟩
      · rename_i interrupted
        exact .inl ⟨_, first, rfl, fun limit asked => by simp only [asked, interrupted, if_false]; rfl⟩
      · rename_i withoutPipe
        exact .inl ⟨_, first, rfl, fun limit asked => by simp only [asked, withoutPipe, if_false]; rfl⟩
      · rename_i output status started
        exact .inr ⟨output, status, _, first, fun limit asked => by simp only [asked, started, if_false]⟩

theorem readStarted_eq_pull (tools : Tools) (command : Command) (output : Bytes) (status : Int)
    (journal : Journal) (count : Nat) :
    let pulled := pull (Reader.next tools command) count
      ⟨.reading (Listing.ofBytes output) status, none, journal⟩
    readStarted command (some count) output status journal = pulled.2.2.close.reading pulled.1 := by
  intro pulled
  by_cases short : count ≤ (Listing.ofBytes output).length
  · simp only [pulled, pull_of_short short, readStarted, Option.filter_some, short, decide_true, if_true]
    rfl
  · have exhausting := Nat.lt_of_not_le short
    simp only [pulled, pull_of_exhausting exhausting, close_finish, readStarted, Option.filter_some, short,
      decide_false, Bool.false_eq_true, if_false]
    unfold Reader.finish
    split_ifs <;> rfl

theorem read_eq_pull (tools : Tools) (command : Command) (journal : Journal) (count : Nat) :
    let pulled := pull (Reader.next tools command) count (.unopened journal)
    read tools command (some count) journal = pulled.2.2.close.reading pulled.1 := by
  intro pulled
  cases count with
  | zero => rfl
  | succ count =>
      have asked : some (count + 1) ≠ some 0 := by simp
      rcases start_cases tools command journal with
        ⟨stopped, first, closed, read⟩ | ⟨output, status, after, first, read⟩
      · simp only [pulled, pull_of_none first, closed, read _ asked]
      · simp only [pulled, pull_of_next_eq first, read _ asked]
        exact readStarted_eq_pull tools command output status after (count + 1)

theorem read_none_of_ended {count : Nat}
    (ended : (pull (Reader.next tools command) count (.unopened journal)).2.1 = true) :
    read tools command none journal = read tools command (some count) journal := by
  cases count with
  | zero => cases ended
  | succ count =>
      have asked : some (count + 1) ≠ some 0 := by simp
      have unlimited : none ≠ some 0 := by simp
      rcases start_cases tools command journal with
        ⟨stopped, -, -, read⟩ | ⟨output, status, after, first, read⟩
      · rw [read _ asked, read _ unlimited]
      · have exhausting : ¬ count + 1 ≤ (Listing.ofBytes output).length := by
          intro short
          rw [pull_of_next_eq first, pull_of_short short] at ended
          cases ended
        rw [read _ asked, read _ unlimited]
        simp only [readStarted, Option.filter_none, Option.filter_some, exhausting, decide_false,
          Bool.false_eq_true, if_false]

theorem exists_ended (tools : Tools) (command : Command) (journal : Journal) :
    ∃ enough, (pull (Reader.next tools command) enough (.unopened journal)).2.1 = true := by
  rcases start_cases tools command journal with ⟨stopped, first, -⟩ | ⟨output, status, after, first, -⟩
  · exact ⟨1, by rw [pull_of_none first]⟩
  · refine ⟨(Listing.ofBytes output).length + 1, ?_⟩
    rw [pull_of_next_eq first, pull_of_exhausting (Nat.lt_succ_self _)]

/-! ## Every started process is awaited -/

structure Life where
  lines : List Text
  failure : Option Failure
  events : Journal

def Life.ofStart (command : Command) (count : Nat) : DisassemblerOutcome → Life
  | .failed cause =>
    ⟨[], some (cannotRun command (SystemError.message ⟨cause, command.program⟩)), []⟩
  | .interrupted => ⟨[], some .interrupted, []⟩
  | .withoutPipe => ⟨[], some (cannotRun command "no output pipe"), [.kill, .wait]⟩
  | .started output status =>
    if count ≤ (Listing.ofBytes output).length then
      ⟨(Listing.ofBytes output).take count, none, [.kill, .wait]⟩
    else
      ⟨Listing.ofBytes output,
        if status = 0 then none else some (.disassembler ⟨command, some status, []⟩), [.wait]⟩

theorem processes_tried (command : Command) (journal : Journal) :
    Journal.processes (announced command journal ++ [.disassembler command.words]) =
      journal.processes ++ [.disassembler command.words] := by
  simp only [announced, Journal.processes_append, Journal.processes_log, List.append_nil]
  rfl

theorem processes_ended (command : Command) (journal : Journal) :
    Journal.processes (announced command journal ++ [.disassembler command.words] ++ [.kill, .wait]) =
      journal.processes ++ [.disassembler command.words, .kill, .wait] := by
  rw [Journal.processes_append, processes_tried, List.append_assoc]
  rfl

theorem finish_eq (command : Command) (status : Int) (journal : Journal) :
    (Reader.finish command status journal).failure =
        (if status = 0 then none else some (.disassembler ⟨command, some status, []⟩)) ∧
      (Reader.finish command status journal).journal.processes = journal.processes ++ [.wait] := by
  by_cases succeeded : status = 0
  · simp [Reader.finish, succeeded, Journal.processes]
  · simp [Reader.finish, succeeded, Journal.processes]

theorem life_of_pulls (tools : Tools) (journal : Journal) {count : Nat} (asked : 0 < count)
    (plain : command.words.any hasNul = false) :
    let life := Life.ofStart command count (startOutcome tools command journal)
    let pulled := pull (Reader.next tools command) count (.unopened journal)
    let closed := pulled.2.2.close
    pulled.1 = life.lines ∧ closed.failure = life.failure ∧
      closed.journal.processes = journal.processes ++ .disassembler command.words :: life.events := by
  intro life pulled closed
  obtain ⟨count, rfl⟩ := Nat.exists_eq_add_one.mpr asked
  have tried := processes_tried command journal
  have ended := processes_ended command journal
  have first : Reader.next tools command (.unopened journal) = Reader.start tools command journal := rfl
  simp only [Reader.start, plain, Bool.false_eq_true, if_false] at first
  simp only [closed, pulled, life]
  cases outcome : startOutcome tools command journal with
  | failed cause =>
      simp only [outcome] at first
      rw [pull_of_none first]
      exact ⟨rfl, rfl, tried⟩
  | interrupted =>
      simp only [outcome] at first
      rw [pull_of_none first]
      exact ⟨rfl, rfl, tried⟩
  | withoutPipe =>
      simp only [outcome] at first
      rw [pull_of_none first]
      exact ⟨rfl, rfl, ended⟩
  | started output status =>
      simp only [outcome] at first
      have running : Reader.next tools command (.unopened journal) = Reader.next tools command
        ⟨.reading (Listing.ofBytes output) status, none, _⟩ := first
      rw [pull_of_next_eq running, Life.ofStart]
      by_cases short : count + 1 ≤ (Listing.ofBytes output).length
      · rw [pull_of_short short, if_pos short]
        exact ⟨rfl, rfl, ended⟩
      · obtain ⟨failure, waited⟩ := finish_eq command status
          (announced command journal ++ [.disassembler command.words])
        rw [pull_of_exhausting (Nat.lt_of_not_le short), if_neg short, close_finish, failure, waited,
          tried, List.append_assoc]
        exact ⟨rfl, rfl, rfl⟩

end

/-- The first pull starts a process, be it one without a pipe. -/
def Starts (tools : Tools) (command : Command) (journal : Journal) : Prop :=
  command.words.any hasNul = false ∧ (startOutcome tools command journal = .withoutPipe ∨
    ∃ output status, startOutcome tools command journal = .started output status)

def Exhausts (tools : Tools) (command : Command) (journal : Journal) (count : Nat) : Prop :=
  ∃ output status, startOutcome tools command journal = .started output status ∧
    (Listing.ofBytes output).length < count

theorem events_of_pulls (tools : Tools) (command : Command) (journal : Journal) (count : Nat) :
    let closed := (pull (Reader.next tools command) count (.unopened journal)).2.2.close
    ∃ events, closed.journal.processes = journal.processes ++ events ∧ events.Nodup ∧
      (Event.wait ∈ events ↔ 0 < count ∧ Starts tools command journal) ∧
      (Event.kill ∈ events ↔ 0 < count ∧ Starts tools command journal ∧
        ¬ Exhausts tools command journal count) := by
  intro closed
  rcases Nat.eq_zero_or_pos count with rfl | asked
  · exact ⟨[], (List.append_nil _).symm, by simp⟩
  · cases nul : command.words.any hasNul with
    | true =>
        obtain ⟨count, rfl⟩ := Nat.exists_eq_add_one.mpr asked
        have first : Reader.next tools command (.unopened journal) = Reader.start tools command journal :=
          rfl
        simp only [Reader.start, nul, if_true] at first
        refine ⟨[.disassembler command.words], ?_, by simp [Starts, nul]⟩
        simp only [closed, pull_of_none first]
        exact processes_tried command journal
    | false =>
        obtain ⟨-, -, happened⟩ := life_of_pulls tools journal asked nul
        refine ⟨_, happened, ?_⟩
        cases outcome : startOutcome tools command journal with
        | failed cause => simp [Life.ofStart, Starts, outcome]
        | interrupted => simp [Life.ofStart, Starts, outcome]
        | withoutPipe => simp [Life.ofStart, Starts, Exhausts, outcome, nul, asked]
        | started output status =>
            by_cases short : count ≤ (Listing.ofBytes output).length
            · simp [Life.ofStart, Starts, Exhausts, outcome, nul, asked, short]
            · simp [Life.ofStart, Starts, Exhausts, outcome, nul, asked, short, Nat.lt_of_not_le short]

/-- Any number of pulls and then closing is reading with that limit, and reading without one once the end
was met, which some number of pulls meets. No pull starts nothing. A process that is closed between its
lines, or at once after the last of them, is killed and awaited and nothing fails; one that is read past
its last line is only awaited, and fails if its status is not zero. So a process is awaited exactly once
if it was started, and killed if its output was not exhausted. -/
theorem started_process_awaited_once (tools : Tools) (command : Command) (journal : Journal) :
    (∀ count,
      let pulled := pull (Reader.next tools command) count (.unopened journal)
      let closed := pulled.2.2.close
      read tools command (some count) journal = closed.reading pulled.1 ∧
      (pulled.2.1 = true → read tools command none journal = closed.reading pulled.1) ∧
      (count = 0 → closed.reading pulled.1 = ⟨[], none, journal⟩) ∧
      (0 < count → command.words.any hasNul = false →
        (∀ output status, startOutcome tools command journal = .started output status →
          (count ≤ (Listing.ofBytes output).length →
            pulled.1 = (Listing.ofBytes output).take count ∧ closed.failure = none ∧
            closed.journal.processes =
              journal.processes ++ [.disassembler command.words, .kill, .wait]) ∧
          ((Listing.ofBytes output).length < count →
            pulled.1 = Listing.ofBytes output ∧
            closed.failure =
              (if status = 0 then none else some (.disassembler ⟨command, some status, []⟩)) ∧
            closed.journal.processes = journal.processes ++ [.disassembler command.words, .wait])) ∧
        (∀ cause, startOutcome tools command journal = .failed cause →
          pulled.1 = [] ∧ closed.failure = some
            (.disassembler ⟨command, none, SystemError.message ⟨cause, command.program⟩⟩) ∧
          closed.journal.processes = journal.processes ++ [.disassembler command.words]) ∧
        (startOutcome tools command journal = .withoutPipe →
          pulled.1 = [] ∧
          closed.failure = some (.disassembler ⟨command, none, "no output pipe"⟩) ∧
          closed.journal.processes =
            journal.processes ++ [.disassembler command.words, .kill, .wait])) ∧
      ∃ events, closed.journal.processes = journal.processes ++ events ∧ events.Nodup ∧
        (Event.wait ∈ events ↔ 0 < count ∧ Starts tools command journal) ∧
        (Event.kill ∈ events ↔ 0 < count ∧ Starts tools command journal ∧
          ¬ Exhausts tools command journal count)) ∧
    ∃ enough, ∀ count, enough ≤ count →
      (pull (Reader.next tools command) count (.unopened journal)).2.1 = true := by
  constructor
  · intro count pulled closed
    have limited := read_eq_pull tools command journal count
    refine ⟨limited, fun ended => (read_none_of_ended ended).trans limited, ?_, ?_,
      events_of_pulls tools command journal count⟩
    · rintro rfl
      rfl
    · intro asked plain
      obtain ⟨lines, failure, events⟩ := life_of_pulls tools journal asked plain
      simp only [closed, pulled, lines, failure, events]
      refine ⟨?_, ?_, ?_⟩
      · intro output status started
        rw [started, Life.ofStart]
        constructor
        · intro short
          rw [if_pos short]
          exact ⟨rfl, rfl, rfl⟩
        · intro exhausting
          rw [if_neg (Nat.not_le_of_lt exhausting)]
          exact ⟨rfl, rfl, rfl⟩
      · intro cause failed
        rw [failed]
        exact ⟨rfl, rfl, rfl⟩
      · intro withoutPipe
        rw [withoutPipe]
        exact ⟨rfl, rfl, rfl⟩
  · obtain ⟨enough, ended⟩ := exists_ended tools command journal
    exact ⟨enough, fun count le => by rw [pull_of_le le _ ended, ended]⟩

theorem started_process_awaited_once_failing :
    let tools : Tools := {
      filter _ _ _ := .failed .noEntry
      disassembler _ _ := .started (Utf8.encode "a\nb\n".toList) 3 }
    let command : Command := ⟨"objdump".toList, ["-d".toList, "prog".toList]⟩
    let early := read tools command (some 2) []
    let whole := read tools command (some 3) []
    (early.lines = ["a".toList, "b".toList] ∧ early.failure = none ∧
      early.journal.processes = [.disassembler command.words, .kill, .wait]) ∧
    (whole.lines = ["a".toList, "b".toList] ∧
      whole.failure = some (.disassembler ⟨command, some 3, []⟩) ∧
      whole.journal.processes = [.disassembler command.words, .wait]) ∧
    read tools command none [] = whole := by
  intro tools command early whole
  have listed : Listing.ofBytes (Utf8.encode "a\nb\n".toList) = ["a".toList, "b".toList] := by
    decide +kernel
  obtain ⟨limited, -, -, two, -⟩ := (started_process_awaited_once tools command []).1 2
  obtain ⟨closed, ended, -, three, -⟩ := (started_process_awaited_once tools command []).1 3
  obtain ⟨short, -⟩ := (two (by decide) (by decide)).1 _ _ rfl
  obtain ⟨-, exhausted⟩ := (three (by decide) (by decide)).1 _ _ rfl
  rw [listed] at short exhausted
  simp only [early, whole, limited, closed]
  exact ⟨short (by decide), exhausted (by decide), ended (by decide +kernel)⟩

end Xref.Disassembler
