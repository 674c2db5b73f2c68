import Xref.Proofs.Demangler.LineFilters
import Xref.Proofs.Except

/-!
# The executions of a demangler's filters

The journal names the command that was run, not its place in the chain, and two places may have the
same command. Here every execution is recorded with its place, the names that it was sent, the
demangler at that moment and the way it ended. The record adds nothing to what the operations do:
the demangler and the journal that they leave behind can be read off it.

However an operation is composed, it comes to priming batches of names one after the other. So what
holds of one priming and carries over to the next holds of every sequence of operations.
-/

namespace Xref.Demangler

/-! ## One execution -/

/-- How an attempt to run a filter ends. Words that are no command are refused without a run. -/
inductive Ending where
  | refused (failure : Failure)
  | ran (outcome : FilterOutcome)
  deriving DecidableEq, Repr

/-- The filter at position `index` is run on some names; `found` is the demangler that runs it. -/
structure Execution where
  index : Nat
  words : List Text
  names : List Symbol
  found : Demangler
  ending : Ending
  deriving DecidableEq, Repr

def announcement (words : List Text) (names : List Symbol) : Event :=
  .log .debug ("Demangling " ++ Text.ofNat names.length ++ " symbols with " ++ shownWords words)

def execute (tools : Tools) (words : List Text) (index : Nat) (names : List Symbol)
    (demangler : Demangler) (journal : Journal) : Execution where
  index := index
  words := words
  names := names
  found := demangler
  ending :=
    if words = [] then .refused .noProgram
    else if words.any hasNul then .refused .embeddedNul
    else .ran (tools.filter (journal ++ [announcement words names]) words (filterInput names))

namespace Execution

def verdict (run : Execution) : Verdict :=
  match run.ending with
  | .refused failure => .raised failure
  | .ran outcome => judge (run.words.headD []) run.names outcome

def rejection? (run : Execution) : Option Rejection :=
  match run.verdict with
  | .rejected rejection => some rejection
  | _ => none

def failure? (run : Execution) : Option Failure :=
  match run.verdict with
  | .raised failure => some failure
  | _ => none

def events (run : Execution) : Journal :=
  [announcement run.words run.names, .filter run.words (filterInput run.names)] ++
    (run.rejection?.map fun rejection => .log .warning (rejection.message run.words)).toList

def leaves (run : Execution) : Demangler :=
  match run.verdict with
  | .displays displays => run.found.keepChanged run.names displays
  | .rejected _ => { run.found with disabled := run.found.disabled ++ [run.index] }
  | .raised _ => run.found

def remaining (run : Execution) : List Symbol :=
  match run.verdict with
  | .displays displays => unchanged run.names displays
  | _ => run.names

end Execution

section
variable {tools : Tools} {words : List Text} {index : Nat} {names : List Symbol}
  {demangler : Demangler} {journal : Journal}

@[simp] theorem execute_index :
    (execute tools words index names demangler journal).index = index := rfl

@[simp] theorem execute_words :
    (execute tools words index names demangler journal).words = words := rfl

@[simp] theorem execute_names :
    (execute tools words index names demangler journal).names = names := rfl

@[simp] theorem execute_found :
    (execute tools words index names demangler journal).found = demangler := rfl

theorem fields_of_execute {run : Execution}
    (executed : run = execute tools words index names demangler journal) :
    run.words = words ∧ run.index = index ∧ run.names = names ∧ run.found = demangler := by
  simp [executed]

theorem runFilter_eq_execute (demangler : Demangler) (index : Nat) :
    runFilter tools words names journal =
      ((execute tools words index names demangler journal).verdict,
        journal ++ [announcement words names, .filter words (filterInput names)]) := by
  cases words with
  | nil => simp [runFilter, execute, Execution.verdict, Command.ofWords?, announcement]
  | cons program arguments =>
      by_cases bad : (program :: arguments).any hasNul = true
      · simp [runFilter, execute, Execution.verdict, Command.ofWords?, announcement, bad]
      · simp [runFilter, execute, Execution.verdict, Command.ofWords?, announcement, bad]

theorem sendThrough_execute (rest : List (List Text × Nat)) (waiting : names ≠ [])
    (enabled : index ∉ demangler.disabled) :
    let run := execute tools words index names demangler journal
    sendThrough tools ((words, index) :: rest) names demangler journal =
      match run.failure? with
      | some failure => ⟨.error failure, run.leaves, journal ++ run.events⟩
      | none => sendThrough tools rest run.remaining run.leaves (journal ++ run.events) := by
  rcases sendThrough_cases tools words index rest demangler journal waiting with ⟨skipped, -⟩ |
    ⟨-, after, ⟨displays, ran, step⟩ | ⟨rejection, ran, step⟩ | ⟨failure, ran, step⟩⟩
  · exact absurd skipped enabled
  all_goals
    rw [runFilter_eq_execute demangler index, Prod.mk.injEq] at ran
    obtain ⟨verdict, rfl⟩ := ran
    simp [step, Execution.failure?, Execution.leaves, Execution.remaining, Execution.events,
      Execution.rejection?, verdict]

end

/-! ## The executions of an operation -/

def passRuns (tools : Tools) :
    List (List Text × Nat) → List Symbol → Demangler → Journal → List Execution
  | [], _, _, _ => []
  | (words, index) :: rest, names, demangler, journal =>
    if names.isEmpty then []
    else if index ∈ demangler.disabled then passRuns tools rest names demangler journal
    else
      let run := execute tools words index names demangler journal
      match run.failure? with
      | some _ => [run]
      | none => run :: passRuns tools rest run.remaining run.leaves (journal ++ run.events)

def primeRuns (tools : Tools) (demangler : Demangler) (names : List Symbol) (journal : Journal) :
    List Execution :=
  passRuns tools demangler.chain.zipIdx (demangler.pending names) demangler journal

def demangleRuns (tools : Tools) (demangler : Demangler) (name : Symbol) (journal : Journal) :
    List Execution :=
  if (demangler.cache.lookup name).isSome then [] else primeRuns tools demangler [name] journal

def lineRuns (tools : Tools) (demangler : Demangler) (line : Report.Line) (journal : Journal) :
    List Execution :=
  match line.displayed? with
  | none => []
  | some name => demangleRuns tools demangler name journal

def reportRuns (tools : Tools) : List Report.Line → Demangler → Journal → List Execution
  | [], _, _ => []
  | line :: rest, demangler, journal =>
    let shown := demangler.showLine tools line journal
    lineRuns tools demangler line journal ++
      match shown.result with
      | .error _ => []
      | .ok _ => reportRuns tools rest shown.demangler shown.journal

namespace Operation

def runs (tools : Tools) (demangler : Demangler) (journal : Journal) : Operation → List Execution
  | .prime names => primeRuns tools demangler names journal
  | .demangle name => demangleRuns tools demangler name journal
  | .render g options =>
    match Report.render g options with
    | .error _ => []
    | .ok report => reportRuns tools report demangler journal

def allRuns (tools : Tools) : List Operation → Demangler → Journal → List Execution
  | [], _, _ => []
  | operation :: rest, demangler, journal =>
    let done := operation.perform tools demangler journal
    operation.runs tools demangler journal ++ allRuns tools rest done.demangler done.journal

def leftBy (tools : Tools) : List Operation → Demangler → Journal → Demangler × Journal
  | [], demangler, journal => (demangler, journal)
  | operation :: rest, demangler, journal =>
    let done := operation.perform tools demangler journal
    leftBy tools rest done.demangler done.journal

theorem leftBy_append (tools : Tools) (earlier later : List Operation) (demangler : Demangler)
    (journal : Journal) : leftBy tools (earlier ++ later) demangler journal =
      leftBy tools later (leftBy tools earlier demangler journal).1
        (leftBy tools earlier demangler journal).2 := by
  induction earlier generalizing demangler journal with
  | nil => rfl
  | cons operation earlier ih => exact ih _ _

end Operation

/-! ## One pass -/

/-- How names go through the rest of a chain, with the executions and the outcome: none are left, no
filter is left, a filter is skipped, it fails, or it is run and the names that remain go on. -/
inductive Passes (tools : Tools) : List (List Text × Nat) → List Symbol → Demangler → Journal →
    List Execution → Outcome Unit → Prop where
  | settled (stages : List (List Text × Nat)) (demangler : Demangler) (journal : Journal) :
      Passes tools stages [] demangler journal [] ⟨.ok (), demangler, journal⟩
  | through (names : List Symbol) (demangler : Demangler) (journal : Journal) :
      Passes tools [] names demangler journal [] ⟨.ok (), demangler.keepRaw names, journal⟩
  | skipped {words : List Text} {index : Nat} {rest : List (List Text × Nat)} {names : List Symbol}
      {demangler : Demangler} {journal : Journal} {runs : List Execution} {outcome : Outcome Unit}
      (given : index ∈ demangler.disabled)
      (later : Passes tools rest names demangler journal runs outcome) :
      Passes tools ((words, index) :: rest) names demangler journal runs outcome
  | failed {words : List Text} {index : Nat} (rest : List (List Text × Nat)) {names : List Symbol}
      {demangler : Demangler} {journal : Journal} {run : Execution} {failure : Failure}
      (enabled : index ∉ demangler.disabled)
      (executed : run = execute tools words index names demangler journal)
      (raised : run.failure? = some failure) :
      Passes tools ((words, index) :: rest) names demangler journal [run]
        ⟨.error failure, run.leaves, journal ++ run.events⟩
  | further {words : List Text} {index : Nat} {rest : List (List Text × Nat)} {names : List Symbol}
      {demangler : Demangler} {journal : Journal} {run : Execution} {runs : List Execution}
      {outcome : Outcome Unit} (enabled : index ∉ demangler.disabled)
      (executed : run = execute tools words index names demangler journal)
      (later : Passes tools rest run.remaining run.leaves (journal ++ run.events) runs outcome) :
      Passes tools ((words, index) :: rest) names demangler journal (run :: runs) outcome

section
variable {tools : Tools} {names : List Symbol} {demangler : Demangler} {journal : Journal}

theorem passes_sendThrough (stages : List (List Text × Nat)) :
    Passes tools stages names demangler journal (passRuns tools stages names demangler journal)
      (sendThrough tools stages names demangler journal) := by
  induction stages generalizing names demangler journal with
  | nil => exact .through names demangler journal
  | cons stage rest ih =>
      obtain ⟨words, index⟩ := stage
      rcases eq_or_ne names [] with rfl | waiting
      · rw [sendThrough_empty]
        exact .settled _ demangler journal
      · have present : names.isEmpty = false := by simpa using waiting
        by_cases given : index ∈ demangler.disabled
        · simp only [passRuns, sendThrough, present, given, Bool.false_eq_true, if_false, if_true]
          exact .skipped given ih
        · rw [sendThrough_execute rest waiting given]
          simp only [passRuns, present, given, Bool.false_eq_true, if_false]
          cases raised : (execute tools words index names demangler journal).failure? with
          | some failure => exact .failed rest given rfl raised
          | none => exact .further given rfl ih

theorem passes_prime (tools : Tools) (demangler : Demangler) (names : List Symbol)
    (journal : Journal) : Passes tools demangler.chain.zipIdx (demangler.pending names) demangler
      journal (primeRuns tools demangler names journal) (demangler.prime tools names journal) :=
  passes_sendThrough demangler.chain.zipIdx

theorem journal_of_passes {stages : List (List Text × Nat)} {runs : List Execution}
    {outcome : Outcome Unit} (passes : Passes tools stages names demangler journal runs outcome) :
    outcome.journal = journal ++ runs.flatMap Execution.events := by
  induction passes with
  | settled => simp
  | through => simp
  | skipped _ _ ih => exact ih
  | failed => simp
  | further _ _ _ ih => rw [ih, List.flatMap_cons, List.append_assoc]

end

/-! ## Many passes -/

/-- Batches of names are primed one after the other. When it is `smooth`, none of them fails. -/
inductive Primings (tools : Tools) (smooth : Prop) :
    Demangler → Journal → List Execution → Demangler → Journal → Prop where
  | none (demangler : Demangler) (journal : Journal) :
      Primings tools smooth demangler journal [] demangler journal
  | prime {demangler last : Demangler} {journal later : Journal} {runs : List Execution}
      (names : List Symbol)
      (fine : smooth → (demangler.prime tools names journal).result = .ok ())
      (rest : Primings tools smooth (demangler.prime tools names journal).demangler
        (demangler.prime tools names journal).journal runs last later) :
      Primings tools smooth demangler journal (primeRuns tools demangler names journal ++ runs) last
        later

section
variable {tools : Tools} {smooth : Prop} {names : List Symbol} {name : Symbol}
  {demangler middle last : Demangler} {journal between later : Journal}
  {runs more : List Execution}

theorem Primings.append (first : Primings tools smooth demangler journal runs middle between)
    (second : Primings tools smooth middle between more last later) :
    Primings tools smooth demangler journal (runs ++ more) last later := by
  induction first with
  | none => exact second
  | prime names fine _ ih =>
      rw [List.append_assoc]
      exact .prime names fine (ih second)

theorem journal_of_primings (primings : Primings tools smooth demangler journal runs last later) :
    later = journal ++ runs.flatMap Execution.events := by
  induction primings with
  | none => simp
  | prime names _ _ ih =>
      rw [ih, journal_of_passes (passes_prime tools _ names _), List.flatMap_append,
        List.append_assoc]

theorem primings_prime (fine : smooth → (demangler.prime tools names journal).result = .ok ()) :
    Primings tools smooth demangler journal (primeRuns tools demangler names journal)
      (demangler.prime tools names journal).demangler
      (demangler.prime tools names journal).journal := by
  rw [← List.append_nil (primeRuns tools demangler names journal)]
  exact .prime names fine (.none _ _)

theorem primings_demangle
    (fine : smooth → ∃ shown, (demangler.demangle tools name journal).result = .ok shown) :
    Primings tools smooth demangler journal (demangleRuns tools demangler name journal)
      (demangler.demangle tools name journal).demangler
      (demangler.demangle tools name journal).journal := by
  unfold demangleRuns
  unfold demangle at fine ⊢
  split_ifs at fine ⊢ with known
  · exact .none demangler journal
  · apply primings_prime
    intro smooth
    obtain ⟨shown, given⟩ := fine smooth
    obtain ⟨_, primed, -⟩ := map_eq_ok.mp given
    exact primed

theorem primings_showLine {line : Report.Line}
    (fine : smooth → ∃ text, (demangler.showLine tools line journal).result = .ok text) :
    Primings tools smooth demangler journal (lineRuns tools demangler line journal)
      (demangler.showLine tools line journal).demangler
      (demangler.showLine tools line journal).journal := by
  unfold lineRuns
  unfold showLine at fine ⊢
  cases shown : line.displayed? with
  | none => exact .none demangler journal
  | some name =>
      apply primings_demangle
      intro smooth
      simp only [shown] at fine
      obtain ⟨text, given⟩ := fine smooth
      obtain ⟨display, named, -⟩ := map_eq_ok.mp given
      exact ⟨display, named⟩

theorem primings_showLines {report : List Report.Line}
    (fine : smooth → ∃ texts, (showLines tools report demangler journal).result = .ok texts) :
    Primings tools smooth demangler journal (reportRuns tools report demangler journal)
      (showLines tools report demangler journal).demangler
      (showLines tools report demangler journal).journal := by
  induction report generalizing demangler journal with
  | nil => exact .none demangler journal
  | cons line rest ih =>
      simp only [reportRuns, showLines] at fine ⊢
      cases result : (demangler.showLine tools line journal).result with
      | error failure =>
          simp only [result, reduceCtorEq, exists_const, List.append_nil] at fine ⊢
          exact primings_showLine fun smooth => (fine smooth).elim
      | ok text =>
          simp only [result] at fine ⊢
          apply (primings_showLine fun _ => ⟨text, result⟩).append
          apply ih
          intro smooth
          obtain ⟨texts, given⟩ := fine smooth
          obtain ⟨others, shown, -⟩ := map_eq_ok.mp given
          exact ⟨others, shown⟩

theorem primings_perform {operation : Operation}
    (fine : smooth → ∃ texts, (operation.perform tools demangler journal).result = .ok texts) :
    Primings tools smooth demangler journal (operation.runs tools demangler journal)
      (operation.perform tools demangler journal).demangler
      (operation.perform tools demangler journal).journal := by
  cases operation with
  | prime names =>
      apply primings_prime
      intro smooth
      obtain ⟨texts, given⟩ := fine smooth
      obtain ⟨_, primed, -⟩ := map_eq_ok.mp given
      exact primed
  | demangle name =>
      apply primings_demangle
      intro smooth
      obtain ⟨texts, given⟩ := fine smooth
      obtain ⟨shown, named, -⟩ := map_eq_ok.mp given
      exact ⟨shown, named⟩
  | render g options =>
      simp only [Operation.runs, Operation.perform] at fine ⊢
      cases rendered : Report.render g options with
      | error error => exact .none demangler journal
      | ok report =>
          simp only [rendered] at fine
          exact primings_showLines fine

theorem primings_performAll {operations : List Operation}
    (fine : smooth → ∀ result ∈ Operation.performAll tools operations demangler journal,
      ∃ texts, result = .ok texts) :
    Primings tools smooth demangler journal (Operation.allRuns tools operations demangler journal)
      (Operation.leftBy tools operations demangler journal).1
      (Operation.leftBy tools operations demangler journal).2 := by
  induction operations generalizing demangler journal with
  | nil => exact .none demangler journal
  | cons operation rest ih =>
      simp only [Operation.performAll, List.forall_mem_cons] at fine
      exact (primings_perform fun smooth => (fine smooth).1).append
        (ih fun smooth => (fine smooth).2)

end

theorem primings_operations (tools : Tools) (operations : List Operation) (demangler : Demangler)
    (journal : Journal) :
    Primings tools False demangler journal (Operation.allRuns tools operations demangler journal)
      (Operation.leftBy tools operations demangler journal).1
      (Operation.leftBy tools operations demangler journal).2 :=
  primings_performAll False.elim

end Xref.Demangler
