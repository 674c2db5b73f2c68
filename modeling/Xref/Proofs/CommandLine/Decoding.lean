import Xref.Proofs.CommandLine.Naming
import Xref.Proofs.Report.Decoding

namespace Xref.CommandLine

def Result.output (result : Result) : Text := result.written.flatMap (· ++ "\n".toList)

/-- The decoder reads what the chosen symbols are shown as from the output of every successful run that
prints a list of dependencies, where `printed` says what is left of a display name. -/
def DecodesRuns (decode : Text → List Report.Shown) (printed : Text → Text) : Prop :=
  ∀ (world : World) (arguments : List Text) (invocation : Invocation) (result : Result),
    world.stdout.capacity = none →
    read world.tree world.directory arguments = .ok (.analysis invocation) →
    invocation.options.format = .deps → run world arguments = .ok result → result.status = 0 →
    ∃ (rendering : Rendering world invocation) (symbols : List Symbol),
      Report.select (Graph.ofListing rendering.lines) invocation.options = .ok symbols ∧
      decode result.output = symbols.map
        (Report.shownOf (Graph.ofListing rendering.lines) fun s => printed (display rendering.names s))

section
variable {world : World} {invocation : Invocation}

theorem run_of_analysis {arguments : List Text} {result : Result}
    (meaning : read world.tree world.directory arguments = .ok (.analysis invocation))
    (ran : run world arguments = .ok result) :
    result = .ofAnalysis invocation.verbose (analyse world invocation) := by
  simp only [run, meaning, Except.ok.injEq] at ran
  exact ran.symm

theorem Rendering.decode_written (rendering : Rendering world invocation) (verbose : Bool)
    (accepting : world.stdout.capacity = none) (listed : invocation.options.format = .deps) :
    ∃ symbols, Report.select (Graph.ofListing rendering.lines) invocation.options = .ok symbols ∧
      Report.decode (Result.ofAnalysis verbose (analyse world invocation)).output = symbols.map
        (Report.shownOf (Graph.ofListing rendering.lines)
          fun s => (display rendering.names s).withoutSequences) := by
  obtain ⟨-, symbols, chosen, report⟩ := Report.render_eq_ok rendering.rendered
  have single := rendering.newline_not_mem_written verbose
  have written := rendering.written_eq verbose
  have whole : world.stdout.taken rendering.report = rendering.report := by
    simp only [Stdout.taken, accepting]
  rw [whole, report, listed, Report.printed_lines] at written
  rw [written] at single
  refine ⟨symbols, chosen, ?_⟩
  rw [Result.output, written]
  exact Report.decode_texts single

end

theorem output_decodes : DecodesRuns Report.decode Text.withoutSequences := by
  intro world arguments invocation result accepting meaning listed ran succeeded
  obtain rfl := run_of_analysis meaning ran
  obtain ⟨rendering⟩ := (succeeds_iff_rendering _).mp succeeded
  exact ⟨rendering, rendering.decode_written _ accepting listed⟩

/-! ## Names with the marks of the format -/

/-- The nameless symbol depends on a colon, for which the first filter has a name that begins with a
tab; a symbol that begins with a tab depends on one that ends in a colon. -/
def marked : World where
  tree := ⟨[]⟩
  directory := []
  stdin := ⟨"<:>\n0 <\ta>:\ncall <b:>\n", none⟩
  tools := {
    filter _ words _ :=
      if words = ["c++filt".toList] then .finished 0 (Utf8.encode ("\t:\n\ta\nb:\n" : String)) []
      else .failed .noEntry
    disassembler _ _ := .failed .noEntry }
  stdout := ⟨none, true⟩

theorem output_decodes_marked :
    ∃ (invocation : Invocation) (result : Result) (rendering : Rendering marked invocation)
      (symbols : List Symbol), run marked ["--listing", "-"] = .ok result ∧ result.status = 0 ∧
      result.output = ":\n\t\t:\n\n\ta:\n\tb:\n\n".toList ∧
      Report.select (Graph.ofListing rendering.lines) invocation.options = .ok symbols ∧
      Report.decode result.output = symbols.map (Report.shownOf (Graph.ofListing rendering.lines)
        fun s => (display rendering.names s).withoutSequences) := by
  have meaning : read marked.tree marked.directory ["--listing", "-"] =
      .ok (.analysis { plainInvocation "-" with fromListing := true }) :=
    eq_ok_of_toOption (by decide +kernel)
  have answered : (run marked ["--listing", "-"]).toOption.map (fun result => (result.status, result.output)) =
      some (0, ":\n\t\t:\n\n\ta:\n\tb:\n\n".toList) := by decide +kernel
  cases ran : run marked ["--listing", "-"] with
  | error failure =>
      rw [ran] at answered
      cases answered
  | ok result =>
      rw [ran] at answered
      obtain ⟨succeeded, output⟩ := Prod.mk.inj (Option.some.inj answered)
      obtain ⟨rendering, symbols, chosen, decoded⟩ :=
        output_decodes marked _ _ result rfl meaning rfl ran succeeded
      exact ⟨_, result, rendering, symbols, rfl, succeeded, output, chosen, decoded⟩

/-! ## Names that are printed alike -/

def unhighlighted : World :=
  { highlighted with stdin := ⟨"0 <a>:\ncall <b>\n", none⟩ }

def unhighlightedRendering :
    Rendering unhighlighted { plainInvocation "-" with fromListing := true, rawNames := true } where
  config := { demangle := false }
  lines := ["0 <a>:", "call <b>"]
  names := none
  report := [.header "a", .dependency "b", .separator]
  texts := ["a:", "\tb", ""]
  afterReading := []
  afterNaming := [.log .debug "Built SymbolGraph(1 symbols, 1 edges)"]
  configured := eq_ok_of_toOption (by decide +kernel)
  read := Prod.ext (eq_ok_of_toOption (by decide +kernel)) rfl
  named := Prod.ext rfl (by decide +kernel)
  rendered := eq_ok_of_toOption (by decide +kernel)
  shown := rfl

theorem no_decoder_of_display_names : ¬ ∃ decode, DecodesRuns decode id := by
  rintro ⟨decode, decodes⟩
  have meaning : read highlighted.tree highlighted.directory ["--listing", "--no-demangle", "-"] =
      .ok (.analysis { plainInvocation "-" with fromListing := true, rawNames := true }) :=
    eq_ok_of_toOption (by decide +kernel)
  have printed : run highlighted ["--listing", "--no-demangle", "-"] =
      .ok ⟨0, ["a:", "\tb", ""], [], false, highlightedRendering.afterNaming, []⟩ :=
    eq_ok_of_toOption (by decide +kernel)
  have alike : run unhighlighted ["--listing", "--no-demangle", "-"] =
      .ok ⟨0, ["a:", "\tb", ""], [], false, highlightedRendering.afterNaming, []⟩ :=
    eq_ok_of_toOption (by decide +kernel)
  obtain ⟨rendering, symbols, chosen, decoded⟩ := decodes highlighted _ _ _ rfl meaning rfl printed rfl
  obtain ⟨other, others, chosen', decoded'⟩ := decodes unhighlighted _ _ _ rfl meaning rfl alike rfl
  obtain rfl := rendering.unique highlightedRendering
  obtain rfl := other.unique unhighlightedRendering
  have keys : Report.select (Graph.ofListing highlightedRendering.lines) {} = .ok ["a".toList] :=
    eq_ok_of_toOption (by decide +kernel)
  have keys' : Report.select (Graph.ofListing unhighlightedRendering.lines) {} = .ok ["a".toList] :=
    eq_ok_of_toOption (by decide +kernel)
  cases keys.symm.trans chosen
  cases keys'.symm.trans chosen'
  exact absurd (decoded.symm.trans decoded') (by decide +kernel)

end Xref.CommandLine
