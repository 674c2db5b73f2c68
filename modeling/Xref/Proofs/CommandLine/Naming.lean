import Xref.Proofs.CommandLine.Output
import Xref.Proofs.Demangler.Answers
import Xref.Proofs.FirstSeen
import Xref.Proofs.Graph.Listing
import Xref.Proofs.Listing.File
import Xref.Proofs.Report.PrintedLine

namespace Xref.CommandLine
open Demangler

def Invocation.inRawNames (invocation : Invocation) : Invocation := { invocation with rawNames := true }

def Request.inRawNames : Request → Request
  | .help => .help
  | .analysis invocation => .analysis invocation.inRawNames

/-! ## The command line -/

section
variable (tree : FileTree) (directory : Place) (sorted : Sorted)

theorem value?_assign_rawNames {setting : Setting} (other : setting ≠ .rawNames) :
    (sorted.assign [(.rawNames, [])]).value? setting = sorted.value? setting := by
  have absent : [(Setting.rawNames, ([] : Text))].lookup setting = none :=
    List.lookup_eq_none_iff.mpr (by simpa using other)
  simp [Sorted.value?, Sorted.assign, List.lookup_append, absent]

theorem has_assign_rawNames {setting : Setting} (other : setting ≠ .rawNames) :
    (sorted.assign [(.rawNames, [])]).has setting = sorted.has setting := by
  rw [Sorted.has, value?_assign_rawNames sorted other, Sorted.has]

theorem has_rawNames : (sorted.assign [(.rawNames, [])]).has .rawNames = true := by
  simp [Sorted.has, Sorted.value?, Sorted.assign, List.lookup_append]

theorem checkValue_assign_rawNames :
    checkValue tree directory (sorted.assign [(.rawNames, [])]) = checkValue tree directory sorted := by
  funext setting
  rcases eq_or_ne setting .rawNames with rfl | other
  · rfl
  · simp only [checkValue, value?_assign_rawNames sorted other]

theorem selectOptions_assign_rawNames :
    selectOptions (sorted.assign [(.rawNames, [])]) = selectOptions sorted := by
  simp only [selectOptions, value?_assign_rawNames sorted, ne_eq, reduceCtorEq, not_false_eq_true]

theorem interpret_assign_rawNames : interpret tree directory (sorted.assign [(.rawNames, [])]) =
    (interpret tree directory sorted).map Request.inRawNames := by
  have checked : (firstSeen ((sorted.assign [(.rawNames, [])]).assigned.map Prod.fst)).findSome?
        (checkValue tree directory (sorted.assign [(.rawNames, [])])) =
      (firstSeen (sorted.assigned.map Prod.fst)).findSome? (checkValue tree directory sorted) := by
    rw [findSome?_firstSeen, findSome?_firstSeen, checkValue_assign_rawNames]
    rfl
  have others : (sorted.assign [(.rawNames, [])]).others = sorted.others := rfl
  simp only [interpret, checked, others, selectOptions_assign_rawNames, has_rawNames,
    has_assign_rawNames sorted, value?_assign_rawNames sorted, ne_eq, reduceCtorEq, not_false_eq_true]
  split_ifs with help
  · rfl
  · split
    · rfl
    · split
      · rfl
      · split_ifs
        · rfl
        · rfl
        · cases selectOptions sorted <;> rfl

end

theorem read_rawNames (tree : FileTree) (directory : Place) (arguments : List Text) :
    read tree directory ("--no-demangle" :: arguments) =
      (read tree directory arguments).map Request.inRawNames := by
  have setting : readSetting "--no-demangle" = .ok ⟨[(.rawNames, [])], none⟩ :=
    eq_ok_of_toOption (by decide +kernel)
  have sorted : sortArguments ("--no-demangle" :: arguments) =
      (sortArguments arguments).map (Sorted.assign [(.rawNames, [])]) := by
    rw [sortArguments, setting]
    rfl
  rw [read, sorted]
  cases done : sortArguments arguments with
  | error error => simp [read, done, Except.map]
  | ok sorted => simp only [read, done, Except.map, interpret_assign_rawNames tree directory sorted]

/-! ## The report without its names -/

def UsableFilters (world : World) (invocation : Invocation) : Prop :=
  ∀ config, configure world invocation = .ok config →
    ∀ words ∈ (ofChain config.filters).chain, Usable world.tools words

section
variable {world : World} {invocation : Invocation} {config : Config}

theorem configure_inRawNames (world : World) (invocation : Invocation) :
    configure world invocation.inRawNames =
      (configure world invocation).map ({ · with demangle := false }) := by
  simp only [configure, Invocation.inRawNames, Bool.not_true, Bool.and_false]
  split
  · cases Config.load world.tree world.directory _ <;> rfl
  · cases Config.find world.tree world.directory _ <;> rfl

theorem reportOf_inRawNames (world : World) (invocation : Invocation) :
    reportOf world invocation.inRawNames = reportOf world invocation := by
  unfold reportOf
  rw [configure_inRawNames]
  cases configure world invocation <;> rfl

theorem usableFilters_inRawNames (usable : UsableFilters world invocation) :
    UsableFilters world invocation.inRawNames := by
  intro config configured
  rw [configure_inRawNames] at configured
  obtain ⟨config, loaded, rfl⟩ := map_eq_ok.mp configured
  exact usable config loaded

theorem nameSymbols_of_usable
    (usable : ∀ words ∈ (ofChain config.filters).chain, Usable world.tools words) (g : Graph)
    (journal : Journal) : ∃ names after, nameSymbols world config g journal = (.ok names, after) := by
  simp only [nameSymbols]
  split_ifs
  · rw [prime_of_usable usable]
    exact ⟨_, _, rfl⟩
  · exact ⟨_, _, rfl⟩

theorem analyse_of_usable (usable : UsableFilters world invocation) :
    (∃ failure journal, reportOf world invocation = .error failure ∧
      analyse world invocation = .failed journal failure) ∨
    ∃ rendering : Rendering world invocation, reportOf world invocation = .ok rendering.report := by
  rcases analyse_outcomes world invocation with
    failed | ⟨config, g, before, failure, after, configured, unnamed, -⟩ | rendered
  · exact .inl failed
  · obtain ⟨names, journal, named⟩ := nameSymbols_of_usable (usable config configured) g before
    cases unnamed.symm.trans named
  · exact .inr rendered

theorem Rendering.names_of_rawNames (rendering : Rendering world invocation)
    (raw : invocation.rawNames = true) : rendering.names = none := by
  have configured := rendering.configured
  simp only [configure, raw, Bool.not_true, Bool.and_false] at configured
  obtain ⟨loaded, -, unnamed⟩ := map_eq_ok.mp configured
  have named := rendering.named
  rw [← unnamed] at named
  simp only [nameSymbols, Bool.false_eq_true, if_false, Prod.mk.injEq, Except.ok.injEq] at named
  exact named.1.symm

/-! ## Line feeds -/

theorem newline_not_mem_disassembled (tools : Tools) (command : Command) (journal : Journal) :
    ∀ line ∈ (Disassembler.read tools command none journal).lines, '\n' ∉ line := by
  simp only [Disassembler.read, reduceCtorEq, if_false]
  split_ifs
  · exact fun _ listed => absurd listed List.not_mem_nil
  · split
    · exact fun _ listed => absurd listed List.not_mem_nil
    · exact fun _ listed => absurd listed List.not_mem_nil
    · exact fun _ listed => absurd listed List.not_mem_nil
    · rename_i output status _
      simp only [Disassembler.readStarted, Option.filter_none]
      split_ifs <;> exact Listing.newline_not_mem_ofBytes output

theorem newline_not_mem_of_readLines {lines : List Text} {journal : Journal}
    (done : readLines world invocation config = (.ok lines, journal)) :
    ∀ line ∈ lines, '\n' ∉ line := by
  simp only [readLines] at done
  split_ifs at done
  · exact Listing.newline_not_mem_of_read (Prod.mk.inj done).1
  · split at done
    · cases done
    · cases done
      exact newline_not_mem_disassembled world.tools _ []

theorem newline_not_mem_of_nameSymbols {g : Graph} {names : Option Demangler} {before after : Journal}
    (named : nameSymbols world config g before = (.ok names, after))
    (clean : ∀ s ∈ g.symbols, '\n' ∉ s) : ∀ s ∈ g.symbols, '\n' ∉ display names s := by
  simp only [nameSymbols] at named
  split_ifs at named
  · rw [Prod.mk.injEq, map_eq_ok] at named
    obtain ⟨⟨_, -, rfl⟩, -⟩ := named
    exact newline_not_mem_kept config.filters clean
  · cases named
    exact clean

theorem Rendering.newline_not_mem (rendering : Rendering world invocation) :
    ∀ line ∈ rendering.report, '\n' ∉ line.text (display rendering.names) := by
  have raw : ∀ s ∈ (Graph.ofListing rendering.lines).symbols, '\n' ∉ s := by
    intro s listed
    rcases Graph.symbol_subset_line listed with rfl | ⟨line, among, within⟩
    · exact List.not_mem_nil
    · exact fun stands => newline_not_mem_of_readLines rendering.read line among (within stands)
  have shown := newline_not_mem_of_nameSymbols rendering.named raw
  have mentioned := Report.mentioned_mem_symbols rendering.rendered
  intro line listed
  exact Report.newline_not_mem_text (fun s named => raw s (mentioned line listed s named))
    fun s named => shown s (mentioned line listed s named)

end

/-! ## What is printed -/

section
variable {world : World} {invocation : Invocation}

theorem Rendering.written_eq (rendering : Rendering world invocation) (verbose : Bool) :
    (Result.ofAnalysis verbose (analyse world invocation)).written =
      (world.stdout.taken rendering.report).map
        fun line => (line.text (display rendering.names)).withoutSequences := by
  rw [(result_of_rendering rendering verbose).2, rendering.texts_eq, List.map_map, Stdout.taken_map]
  rfl

theorem Rendering.prints (rendering : Rendering world invocation) (verbose : Bool) :
    List.Forall₂ (Report.Prints (display rendering.names)) (world.stdout.taken rendering.report)
      (Result.ofAnalysis verbose (analyse world invocation)).written := by
  rw [rendering.written_eq verbose, List.forall₂_map_right_iff, List.forall₂_same]
  exact fun line _ => Report.prints_text (display rendering.names) line

theorem Rendering.newline_not_mem_written (rendering : Rendering world invocation) (verbose : Bool) :
    ∀ text ∈ (Result.ofAnalysis verbose (analyse world invocation)).written, '\n' ∉ text := by
  rw [rendering.written_eq verbose, List.forall_mem_map]
  intro line listed stands
  exact rendering.newline_not_mem line (world.stdout.taken_subset rendering.report listed)
    (Text.subset_of_withoutSequences _ stands)

def exitStatus {α : Type} : Except Failure α → Nat
  | .ok _ => 0
  | .error .interrupted => 1
  | .error _ => 2

theorem result_of_failed (verbose : Bool) (journal : Journal) (failure : Failure) :
    (Result.ofAnalysis verbose (.failed journal failure)).status =
        exitStatus (.error failure : Except Failure (List Report.Line)) ∧
      (Result.ofAnalysis verbose (.failed journal failure)).written = [] := by
  refine ⟨?_, written_ofAnalysis verbose _⟩
  cases failure <;> rfl

theorem report_decides (usable : UsableFilters world invocation) (verbose : Bool) :
    let result := Result.ofAnalysis verbose (analyse world invocation)
    result.status = exitStatus (reportOf world invocation) ∧ (∀ text ∈ result.written, '\n' ∉ text) ∧
      ∃ display, (invocation.rawNames = true → display = id) ∧
        List.Forall₂ (Report.Prints display)
          (world.stdout.taken ((reportOf world invocation).toOption.getD [])) result.written := by
  intro result
  rcases analyse_of_usable usable with ⟨failure, journal, reported, failed⟩ | ⟨rendering, reported⟩
  · obtain ⟨status, written⟩ := result_of_failed verbose journal failure
    rw [← failed] at status written
    rw [reported, status, written, Except.toOption, Option.getD_none, Stdout.taken_nil]
    exact ⟨rfl, fun _ listed => absurd listed List.not_mem_nil, id, fun _ => rfl, .nil⟩
  · rw [reported]
    refine ⟨(result_of_rendering rendering verbose).1, rendering.newline_not_mem_written verbose,
      display rendering.names, ?_, rendering.prints verbose⟩
    intro raw
    rw [rendering.names_of_rawNames raw]
    rfl

end

/-- With filters that can be used, a run and the same run in raw names end with the same status and
print the same lines of one report, which the names have no part in. -/
theorem naming_changes_display_only {world : World} {arguments : List Text} {invocation : Invocation}
    (meaning : read world.tree world.directory arguments = .ok (.analysis invocation))
    (usable : UsableFilters world invocation) :
    ∃ named raw, run world arguments = .ok named ∧
      run world ("--no-demangle" :: arguments) = .ok raw ∧
      named.status = raw.status ∧ named.written.length = raw.written.length ∧
      (∀ text ∈ named.written ++ raw.written, '\n' ∉ text) ∧
      let shown := world.stdout.taken ((reportOf world invocation).toOption.getD [])
      ∃ display, List.Forall₂ (Report.Prints display) shown named.written ∧
        List.Forall₂ (Report.Prints id) shown raw.written := by
  have rawMeaning : read world.tree world.directory ("--no-demangle" :: arguments) =
      .ok (.analysis invocation.inRawNames) := by
    rw [read_rawNames, meaning]
    rfl
  obtain ⟨status, single, display, -, prints⟩ := report_decides usable invocation.verbose
  obtain ⟨rawStatus, rawSingle, rawDisplay, raw, rawPrints⟩ :=
    report_decides (usableFilters_inRawNames usable) invocation.verbose
  rw [reportOf_inRawNames] at rawStatus rawPrints
  rw [raw rfl] at rawPrints
  refine ⟨.ofAnalysis invocation.verbose (analyse world invocation),
    .ofAnalysis invocation.verbose (analyse world invocation.inRawNames),
    by simp only [run, meaning], by simp only [run, rawMeaning, Invocation.inRawNames], ?_⟩
  exact ⟨status.trans rawStatus.symm, prints.length_eq.symm.trans rawPrints.length_eq,
    List.forall_mem_append.mpr ⟨single, rawSingle⟩, display, prints, rawPrints⟩

/-! ## A display name that breaks off -/

/-- The first filter answers with a name that ends in the beginning of a control sequence. -/
def brokenOff : World where
  tree := ⟨[]⟩
  directory := []
  stdin := ⟨"0 <a>:\ncall <b>\n", none⟩
  tools := {
    filter _ words _ := .finished 0
      (Utf8.encode (if words = ["c++filt".toList] then "x\x1b[\nb\n" else "b\n" : String)) []
    disassembler _ _ := .failed .noEntry }
  stdout := ⟨none, true⟩

def drawing : Invocation :=
  { plainInvocation "-" with options := { format := .dot }, fromListing := true }

theorem usable_brokenOff : UsableFilters brokenOff drawing := by
  have configured : configure brokenOff drawing = .ok {} := eq_ok_of_toOption (by decide +kernel)
  intro config loaded words listed
  cases configured.symm.trans loaded
  have command : ∀ words ∈ defaultChain, words ≠ [] ∧ words.any hasNul = false := by decide
  refine ⟨command words listed, fun _ _ => .inr ⟨0, _, [], ?_, ⟨[], rfl⟩, rfl⟩⟩
  exact ⟨_, Utf8.decode_encode _⟩

theorem naming_changes_display_only_brokenOff :
    let arguments : List Text := ["-f", "dot", "--listing", "-"]
    let shown : List Report.Line := [.opening, .node "a", .arrow "a" "b", .closing]
    ∃ named raw, run brokenOff arguments = .ok named ∧
      run brokenOff ("--no-demangle" :: arguments) = .ok raw ∧ named.status = raw.status ∧
      ∃ display, List.Forall₂ (Report.Prints display) shown named.written ∧
        List.Forall₂ (Report.Prints id) shown raw.written := by
  intro arguments shown
  have meaning : read brokenOff.tree brokenOff.directory arguments = .ok (.analysis drawing) :=
    eq_ok_of_toOption (by decide +kernel)
  have lines : brokenOff.stdout.taken ((reportOf brokenOff drawing).toOption.getD []) = shown := by
    decide +kernel
  obtain ⟨named, raw, ran, rawRan, status, -, -, display, prints, rawPrints⟩ :=
    naming_changes_display_only meaning usable_brokenOff
  rw [lines] at prints rawPrints
  exact ⟨named, raw, ran, rawRan, status, display, prints, rawPrints⟩

theorem write_ne_unclosed (shown : Text) (line : Report.Line) :
    line.write shown ≠ "\"a\" [label=\"x;".toList := by
  intro same
  have ends : ∀ ending, ending <:+ line.write shown → ending <:+ "\"a\" [label=\"x;".toList :=
    fun ending suffix => same ▸ suffix
  cases line with
  | header s => exact absurd (ends ":".toList (List.suffix_append _ _)) (by decide)
  | dependency target => exact absurd (List.head_eq_of_cons_eq same) (by decide)
  | separator => cases same
  | opening => exact absurd (ends "digraph G \x7b".toList List.suffix_rfl) (by decide)
  | node s => exact absurd (ends "\"];".toList (List.suffix_append _ _)) (by decide)
  | arrow s target => exact absurd (ends "\";".toList (List.suffix_append _ _)) (by decide)
  | closing => exact absurd (ends "\x7d".toList List.suffix_rfl) (by decide)

/-- Standard output has a text that is no line of a report, whatever name it shows. -/
theorem brokenOff_label_unclosed :
    UsableFilters brokenOff drawing ∧
    ∃ named raw, run brokenOff ["-f", "dot", "--listing", "-"] = .ok named ∧
      run brokenOff ["--no-demangle", "-f", "dot", "--listing", "-"] = .ok raw ∧
      ¬ ∃ report : List Report.Line,
        List.Forall₂ (fun line text => ∃ shown, text = line.write shown) report named.written ∧
        List.Forall₂ (fun line text => ∃ shown, text = line.write shown) report raw.written := by
  have answered (arguments : List Text) {texts : List Text}
      (printed : (run brokenOff arguments).toOption.map Result.written = some texts) :
      ∃ result, run brokenOff arguments = .ok result ∧ result.written = texts := by
    cases ran : run brokenOff arguments with
    | error failure =>
        rw [ran] at printed
        cases printed
    | ok result =>
        rw [ran] at printed
        exact ⟨result, rfl, Option.some.inj printed⟩
  have drawn : (run brokenOff ["-f", "dot", "--listing", "-"]).toOption.map Result.written =
      some ["digraph G \x7b".toList, "\"a\" [label=\"x;".toList, "\"a\" -> \"b\";".toList,
        "\x7d".toList] := by decide +kernel
  have drawnRaw : (run brokenOff ["--no-demangle", "-f", "dot", "--listing", "-"]).toOption.map
      Result.written = some ["digraph G \x7b".toList, "\"a\" [label=\"a\"];".toList,
        "\"a\" -> \"b\";".toList, "\x7d".toList] := by decide +kernel
  obtain ⟨named, ran, written⟩ := answered _ drawn
  obtain ⟨raw, rawRan, -⟩ := answered _ drawnRaw
  refine ⟨usable_brokenOff, named, raw, ran, rawRan, ?_⟩
  rintro ⟨report, lines, -⟩
  rw [written] at lines
  obtain - | ⟨-, inner⟩ := lines
  obtain - | ⟨⟨shown, node⟩, -⟩ := inner
  exact write_ne_unclosed shown _ node.symm

end Xref.CommandLine
