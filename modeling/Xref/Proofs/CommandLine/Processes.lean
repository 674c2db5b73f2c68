import Xref.Proofs.CommandLine.Output
import Xref.Proofs.Demangler.Pass
import Xref.Proofs.Graph.Views

namespace Xref.CommandLine
open Demangler

theorem processes_printing (stdout : Stdout) (texts : List Text) (journal : Journal) :
    (Analysis.printing stdout texts journal).journal.processes = journal.processes := by
  unfold Analysis.printing
  split
  · rfl
  · split_ifs <;> simp

theorem processes_ofNames (stdout : Stdout) (options : Report.Options) (g : Graph)
    (named : Except Failure (Option Demangler) × Journal) :
    (Analysis.ofNames stdout options g named).journal.processes = named.2.processes := by
  rcases named with ⟨failure | names, journal⟩
  · rfl
  · simp only [Analysis.ofNames]
    split
    · rfl
    · exact processes_printing stdout _ journal

section
variable {world : World} {config : Config}

theorem processes_report (naming : config.demangle = true) (options : Report.Options)
    (lines : List Text) (before : Journal) :
    (report world config options lines before).journal.processes =
      ((ofChain config.filters).prime world.tools (Graph.ofListing lines).symbols
        (before ++ [.log .debug ("Built " ++ (Graph.ofListing lines).summary)])).journal.processes := by
  rw [report_eq, processes_ofNames]
  simp only [nameSymbols, naming, if_true]

theorem analyse_unfiltered_or_report {invocation : Invocation}
    (configured : configure world invocation = .ok config) :
    (∀ words input, Event.filter words input ∉ (analyse world invocation).journal) ∨
    ∃ lines before, Report.checkSupported invocation.options.format = .ok () ∧
      readLines world invocation config = (.ok lines, before) ∧
      (∀ words input, Event.filter words input ∉ before) ∧
      analyse world invocation = report world config invocation.options lines before := by
  cases supported : Report.checkSupported invocation.options.format with
  | error error =>
      exact .inl (by simp only [analyse, configured, supported, Analysis.failed]; simp)
  | ok _ =>
      rcases read : readLines world invocation config with ⟨failure | lines, before⟩
      · refine .inl ?_
        simp only [analyse, configured, supported, read, Analysis.failed]
        exact unfiltered_of_readLines read
      · exact .inr ⟨lines, before, rfl, rfl, unfiltered_of_readLines read,
          by simp only [analyse, configured, supported, read]⟩

end

/-- With naming on, the processes of a report are those of priming a new demangler with the symbols of
the graph: one pass along the chain, which begins with all symbols but the empty one. What an analysis
does apart from its report runs no filter. -/
theorem filters_run_in_one_pass {config : Config} (naming : config.demangle = true) (world : World) :
    (∀ options lines before,
      let g := Graph.ofListing lines
      let demangler := ofChain config.filters
      let primed := demangler.prime world.tools g.symbols
        (before ++ [.log .debug ("Built " ++ g.summary)])
      (g.symbols.Nodup ∧ ∀ s, s ∈ g.symbols ↔ s ∈ g.keys ∨ ∃ key, s ∈ g.dependenciesOf key) ∧
      (∃ batches, OnePass demangler.chain (g.symbols.filter fun s => !s.isEmpty) batches ∧
        primed.journal.processes = before.processes ++ filterRuns demangler.chain batches) ∧
      (report world config options lines before).journal.processes = primed.journal.processes) ∧
    ∀ invocation, configure world invocation = .ok config →
      (∀ words input, Event.filter words input ∉ (analyse world invocation).journal) ∨
      ∃ lines before, Report.checkSupported invocation.options.format = .ok () ∧
        readLines world invocation config = (.ok lines, before) ∧
        (∀ words input, Event.filter words input ∉ before) ∧
        analyse world invocation = report world config invocation.options lines before := by
  refine ⟨?_, fun invocation configured => analyse_unfiltered_or_report configured⟩
  intro options lines before g demangler primed
  have distinct := g.nodup_symbols
  have keys : g.keys.Nodup := (Graph.records_ofListing lines).nodup_keys
  obtain ⟨batches, pass, runs⟩ := prime_onePass world.tools config.filters distinct
    (before ++ [.log .debug ("Built " ++ g.summary)])
  refine ⟨⟨distinct, fun _ => Graph.mem_symbols keys⟩, ⟨batches, pass, ?_⟩,
    processes_report naming options lines before⟩
  rw [Journal.processes_append, Journal.processes_log, List.append_nil] at runs
  exact runs

def oneFilter : Tools where
  filter _ words _ :=
    if words = ["c++filt".toList] then .finished 0 (Utf8.encode ("early\nA\nb\n" : String)) []
    else .failed .noEntry
  disassembler _ _ := .failed .noEntry

/-- References before the first definition belong to the empty name, which no filter gets. -/
theorem filters_run_in_one_pass_nameless :
    let world : World := { highlighted with tools := oneFilter }
    let lines : List Text := ["<early>", "0 <a>:", "call <b>"]
    (Graph.ofListing lines).symbols = ["", "early", "a", "b"] ∧
    ∃ batches, OnePass defaultChain ["early", "a", "b"] batches ∧
      filterRuns defaultChain batches =
        [.filter ["c++filt"] "early\na\nb\n", .filter ["c++filt", "-s", "dlang"] "early\nb\n"] ∧
      (report world {} {} lines []).journal.processes = filterRuns defaultChain batches := by
  intro world lines
  have symbols : (Graph.ofListing lines).symbols = ["", "early", "a", "b"] := by decide
  have naming : ({} : Config).demangle = true := rfl
  obtain ⟨reports, -⟩ := filters_run_in_one_pass naming world
  obtain ⟨-, ⟨batches, pass, runs⟩, printed⟩ := reports {} lines []
  rw [symbols] at pass
  refine ⟨symbols, batches, pass, ?_, printed.trans runs⟩
  rw [← List.nil_append (filterRuns _ _)]
  exact runs.symm.trans (by decide +kernel)

end Xref.CommandLine
