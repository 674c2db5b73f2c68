import Xref.Proofs.CommandLine.Sources
import Xref.Proofs.Files.Lookup

namespace Xref

namespace Path
variable {spelled : Text}

/-- A dash among parts that stay in place, from the working directory. -/
def SpellsDash (spelled : Text) : Prop :=
  ∃ before after, spelled = Text.join ['/'] (before ++ ['-'] :: after) ∧ before.head? ≠ some [] ∧
    ∀ part ∈ before ++ after, part = [] ∨ part = ['.']

theorem head?_join_dash {before after : List Text}
    (stay : ∀ part ∈ before ++ after, part = [] ∨ part = ['.']) :
    (Text.join ['/'] (before ++ ['-'] :: after)).head? = some '/' ↔ before.head? = some [] := by
  rcases before with _ | ⟨first, before⟩
  · rw [List.nil_append, Text.join_eq_append]
    simp
  · rcases stay first (by simp) with rfl | rfl
    · rw [List.cons_append, Text.join_eq_append, List.nil_append]
      cases before <;> simp
    · rw [List.cons_append, Text.join_eq_append]
      simp

theorem parts_eq_dash : (ofText spelled).parts = [['-']] ↔ ∃ before after,
    spelled = Text.join ['/'] (before ++ ['-'] :: after) ∧
      ∀ part ∈ before ++ after, part = [] ∨ part = ['.'] := by
  change (Text.splitOn '/' spelled).filter moves = _ ↔ _
  constructor
  · intro parts
    obtain ⟨before, after, cut, early, -, late⟩ := List.filter_eq_cons_iff.mp parts
    refine ⟨before, after, by rw [← cut, Text.join_splitOn], fun part among => ?_⟩
    apply moves_eq_false.mp
    rcases List.mem_append.mp among with among | among
    · exact Bool.eq_false_iff.mpr (early part among)
    · exact Bool.eq_false_iff.mpr (List.filter_eq_nil_iff.mp late part among)
  · rintro ⟨before, after, whole, stay⟩
    have stays : ∀ part ∈ before ++ after, ¬ moves part = true :=
      fun part among => Bool.eq_false_iff.mp (moves_eq_false.mpr (stay part among))
    obtain ⟨early, late⟩ := List.forall_mem_append.mp stays
    have split : Text.splitOn '/' spelled = before ++ ['-'] :: after := by
      rw [whole, Text.splitOn_join _ (by simp)]
      intro part among
      rw [List.perm_middle.mem_iff] at among
      rcases List.mem_cons.mp among with rfl | among
      · decide
      · exact not_mem_of_staying (Bool.eq_false_iff.mpr (stays part among)) (by decide)
    exact List.filter_eq_cons_iff.mpr
      ⟨before, after, split, early, rfl, List.filter_eq_nil_iff.mpr late⟩

theorem text_eq_dash_iff : (ofText spelled).text = ['-'] ↔
    spelled.head? ≠ some '/' ∧ (ofText spelled).parts = [['-']] := by
  constructor
  · intro dash
    constructor
    · rw [ne_eq, ← head?_text_ofText, dash]
      decide
    · obtain ⟨staying, stay, split⟩ := splitOn_text (rooted_ofText spelled) slash_not_mem_parts
      rw [dash] at split
      rcases staying with _ | ⟨part, staying⟩
      · exact split.symm
      · obtain rfl : ['-'] = part := (List.cons.inj split).1
        cases stay _ List.mem_cons_self
  · rintro ⟨relative, parts⟩
    have root : (ofText spelled).root = [] := by
      rw [ne_eq, ← isAbsolute_ofText] at relative
      simpa [isAbsolute] using relative
    rw [text, root, parts]
    rfl

theorem text_eq_dash : (ofText spelled).text = ['-'] ↔ SpellsDash spelled := by
  rw [text_eq_dash_iff, parts_eq_dash]
  constructor
  · rintro ⟨relative, before, after, rfl, stay⟩
    exact ⟨before, after, rfl, mt (head?_join_dash stay).mpr relative, stay⟩
  · rintro ⟨before, after, rfl, relative, stay⟩
    exact ⟨mt (head?_join_dash stay).mp relative, before, after, rfl, stay⟩

end Path

namespace CommandLine

/-! ## The same command line on a dash -/

theorem sortArguments_dash {arguments : List Text} {sorted : Sorted} {a : Text}
    (done : sortArguments arguments = .ok sorted) (only : sorted.others = [a]) :
    ∃ before after, arguments = before ++ a :: after ∧
      sortArguments (before ++ ['-'] :: after) = .ok { sorted with others := [['-']] } := by
  -- Only the argument that is kept is replaced; what assigns a setting goes before it or after it.
  fun_induction sortArguments arguments generalizing sorted with
  | case1 =>
      cases done
      cases only
  | case2 rest =>
      cases done
      obtain rfl : rest = [a] := only
      exact ⟨[['-', '-']], [], rfl, rfl⟩
  | case3 argument rest _ _ error refused => cases done
  | case4 argument rest notEnd long assigned read ih =>
      obtain ⟨others, later, rfl⟩ := map_eq_ok.mp done
      obtain ⟨before, after, rfl, dashed⟩ := ih later only
      refine ⟨argument :: before, after, rfl, ?_⟩
      rw [List.cons_append, sortArguments, if_neg notEnd, if_pos long, read]
      simp only [dashed]
      rfl
  | case5 argument _ _ assigned setting name read => cases done
  | case6 argument notEnd long assigned setting name read value rest ih =>
      obtain ⟨others, later, rfl⟩ := map_eq_ok.mp done
      obtain ⟨before, after, rfl, dashed⟩ := ih later only
      refine ⟨argument :: value :: before, after, rfl, ?_⟩
      rw [List.cons_append, List.cons_append, sortArguments, if_neg notEnd, if_pos long, read]
      simp only [dashed]
      rfl
  | case7 argument rest notEnd short ih =>
      obtain ⟨others, later, rfl⟩ := map_eq_ok.mp done
      obtain ⟨rfl, none⟩ := List.cons.inj only
      refine ⟨[], rest, rfl, ?_⟩
      have kept : sortArguments (['-'] :: rest) = (sortArguments rest).map (Sorted.keep ['-']) := rfl
      rw [List.nil_append, kept, later]
      exact congrArg (fun others => Except.ok (Sorted.mk _ (['-'] :: others))) none

section
variable {tree : FileTree} {directory : Place} {sorted : Sorted} {a b : Text} {invocation : Invocation}

theorem interpret_analysis (asked : interpret tree directory sorted = .ok (.analysis invocation))
    (only : sorted.others = [a]) :
    invocation.objectFile = Path.ofText a ∧ invocation.fromListing = sorted.has .listing := by
  simp only [interpret, only, List.isEmpty_nil, Bool.not_true, Bool.false_eq_true, if_false] at asked
  by_cases help : sorted.has .help = true
  · rw [if_pos help] at asked
    cases asked
  · rw [if_neg help] at asked
    split at asked
    · cases asked
    · by_cases nul : hasNul a = true
      · rw [if_pos nul] at asked
        cases asked
      · rw [if_neg nul] at asked
        obtain ⟨options, -, same⟩ := map_eq_ok.mp asked
        cases same
        exact ⟨rfl, rfl⟩

theorem interpret_onListing (listing : sorted.has .listing = true) (only : sorted.others = [a])
    (plain : hasNul a = false) (plainOther : hasNul b = false) :
    interpret tree directory { sorted with others := [b] } =
      (interpret tree directory sorted).map (Request.onListing (Path.ofText b)) := by
  obtain ⟨assigned, others⟩ := sorted
  obtain rfl : others = [a] := only
  -- The settings are judged by what is assigned, which is the same.
  have selected : selectOptions ⟨assigned, [b]⟩ = selectOptions ⟨assigned, [a]⟩ := rfl
  have checked : checkValue tree directory ⟨assigned, [b]⟩ =
      checkValue tree directory ⟨assigned, [a]⟩ := rfl
  have has (setting : Setting) :
      Sorted.has ⟨assigned, [b]⟩ setting = Sorted.has ⟨assigned, [a]⟩ setting := rfl
  have value (setting : Setting) :
      Sorted.value? ⟨assigned, [b]⟩ setting = Sorted.value? ⟨assigned, [a]⟩ setting := rfl
  simp only [interpret, plain, plainOther, selected, checked, has, value, listing, Bool.false_eq_true,
    if_false, List.isEmpty_nil, Bool.not_true]
  split_ifs
  · rfl
  · split
    · rfl
    · cases selectOptions ⟨assigned, [a]⟩ <;> rfl

def NamesListing (arguments : List Text) (a : Text) : Prop :=
  ∃ sorted, sortArguments arguments = .ok sorted ∧ sorted.has .listing = true ∧ sorted.others = [a]

variable {arguments : List Text}

theorem NamesListing.of_analysis (names : NamesListing arguments a)
    (asked : read tree directory arguments = .ok (.analysis invocation)) :
    invocation.objectFile = Path.ofText a ∧ invocation.fromListing = true := by
  obtain ⟨sorted, done, listing, only⟩ := names
  rw [read, done] at asked
  rw [← listing]
  exact interpret_analysis asked only

theorem NamesListing.read_onListing (names : NamesListing arguments a) (tree : FileTree)
    (directory : Place) : read tree directory arguments =
      (read tree directory arguments).map (Request.onListing (Path.ofText a)) := by
  rcases asked : read tree directory arguments with refusal | _ | invocation
  · rfl
  · rfl
  · obtain ⟨file, listed⟩ := names.of_analysis asked
    simp only [Except.map, Request.onListing, Invocation.onListing, ← file, ← listed]

theorem NamesListing.exists_dashed (names : NamesListing arguments a) :
    ∃ before after, arguments = before ++ a :: after ∧ ∀ tree directory, hasNul a = false →
      read tree directory (before ++ ['-'] :: after) =
        (read tree directory arguments).map (Request.onListing (Path.ofText ['-'])) := by
  obtain ⟨sorted, done, listing, only⟩ := names
  obtain ⟨before, after, split, dashed⟩ := sortArguments_dash done only
  refine ⟨before, after, split, fun tree directory plain => ?_⟩
  rw [read, dashed, read, done]
  exact interpret_onListing listing only plain rfl

end

/-! ## What a run makes of its input -/

section
variable {world : World} {invocation : Invocation} {path : Path} {stdin : Stdin}
  {arguments others : List Text} {a : Text}

theorem report_withStdin (world : World) (stdin : Stdin) (config : Config) (options : Report.Options)
    (lines : List Text) (journal : Journal) :
    report { world with stdin := stdin } config options lines journal =
      report world config options lines journal := by
  rw [report_eq, report_eq]
  rfl

theorem analyse_of_read_eq (listing : invocation.fromListing = true)
    (same : Listing.read world.tree world.directory stdin path =
      Listing.read world.tree world.directory world.stdin invocation.objectFile) :
    analyse { world with stdin := stdin } (invocation.onListing path) = analyse world invocation := by
  have configured : configure { world with stdin := stdin } (invocation.onListing path) =
      configure world invocation := rfl
  have read (config : Config) :
      readLines { world with stdin := stdin } (invocation.onListing path) config =
        readLines world invocation config := by
    simp only [readLines, Invocation.onListing, listing, if_true, same]
  have options : (invocation.onListing path).options = invocation.options := rfl
  simp only [analyse, configured, read, options, report_withStdin]

theorem NamesListing.run_eq (names : NamesListing arguments a)
    (meaning : read world.tree world.directory others =
      (read world.tree world.directory arguments).map (Request.onListing path))
    (same : Listing.read world.tree world.directory stdin path =
      Listing.read world.tree world.directory world.stdin (Path.ofText a)) :
    run { world with stdin := stdin } others = run world arguments := by
  simp only [run, meaning]
  rcases asked : read world.tree world.directory arguments with refusal | _ | invocation
  · cases refusal <;> rfl
  · rfl
  · obtain ⟨file, listed⟩ := names.of_analysis asked
    exact congrArg (fun analysis => Except.ok (Result.ofAnalysis invocation.verbose analysis))
      (analyse_of_read_eq listed (file ▸ same))

theorem NamesListing.run_of_missing {config : Config} {failure : Failure}
    (names : NamesListing arguments a)
    (asked : read world.tree world.directory arguments = .ok (.analysis invocation))
    (configured : configure world invocation = .ok config)
    (supported : Report.checkSupported invocation.options.format = .ok ())
    (missing : Listing.read world.tree world.directory world.stdin (Path.ofText a) = .error failure) :
    run world arguments = .ok (.ofAnalysis invocation.verbose (.failed [] failure)) := by
  obtain ⟨file, listed⟩ := names.of_analysis asked
  simp only [run, asked, analyse, configured, supported, readLines, listed, if_true, file, missing]

end

/-- A listing that is named by anything but a dash among parts that stay in place is read from its file.
Standard input makes no difference then: the run is the one on a dash where standard input gives the text
of the file, or it fails as the file does. The file is the one that the argument leads to, if it leads to
any. A dash among parts that stay in place is standard input, whatever files there are. -/
theorem listing_read_from_file_unless_dash {arguments : List Text} {a : Text}
    (names : NamesListing arguments a) (world : World) :
    let denoted := world.tree.read world.directory (Path.ofText a)
    ∃ before after, arguments = before ++ a :: after ∧
      (∀ content, world.tree.lookUp world.directory a = .ok (.file content) →
        denoted = .ok content) ∧
      (¬ Path.SpellsDash a →
        (∀ stdin, run { world with stdin := stdin } arguments = run world arguments) ∧
        (∀ content, denoted = .ok content →
          let decoded := (Utf8.decodeLossy content).unifyLineEnds
          run world arguments =
            run { world with stdin := ⟨decoded, none⟩ } (before ++ ['-'] :: after)) ∧
        (∀ failure invocation config, denoted = .error failure →
          read world.tree world.directory arguments = .ok (.analysis invocation) →
          configure world invocation = .ok config →
          Report.checkSupported invocation.options.format = .ok () →
          run world arguments = .ok (.ofAnalysis invocation.verbose (.failed [] failure)))) ∧
      (Path.SpellsDash a → run world arguments = run world (before ++ ['-'] :: after)) := by
  intro denoted
  obtain ⟨before, after, split, dashed⟩ := names.exists_dashed
  refine ⟨before, after, split, ?_, ?_, ?_⟩
  · intro content known
    simp only [denoted, FileTree.read, FileTree.lookUp_text_ofText known]
  · intro other
    have named : (Path.ofText a).text ≠ ['-'] := mt Path.text_eq_dash.mp other
    refine ⟨?_, ?_, ?_⟩
    · intro stdin
      apply names.run_eq (names.read_onListing world.tree world.directory)
      rw [Listing.read_file named, Listing.read_file named]
    · intro content found decoded
      have plain : hasNul a = false := by
        rw [← Path.hasNul_text_ofText]
        exact (FileTree.lookUp_eq_ok.mp (FileTree.lookUp_of_read found)).1
      refine (names.run_eq (dashed world.tree world.directory plain) ?_).symm
      rw [Listing.read_dash rfl, Listing.read_file named]
      exact (congrArg (Except.map Listing.ofBytes) found).symm
    · intro failure invocation config missing asked configured supported
      apply names.run_of_missing asked configured supported
      rw [Listing.read_file named]
      exact congrArg (Except.map Listing.ofBytes) missing
  · intro dash
    have text := Path.text_eq_dash.mpr dash
    have plain : hasNul a = false := by
      rw [← Path.hasNul_text_ofText, text]
      rfl
    refine (names.run_eq (dashed world.tree world.directory plain) ?_).symm
    rw [Listing.read_dash text, Listing.read_dash rfl]

def dashStored : World where
  tree := ⟨[(["-"], .file (Utf8.encode ("0 <a>:\ncall <b>\n" : String)))]⟩
  directory := []
  stdin := ⟨"0 <x>:\ncall <y>\n", none⟩
  tools := {
    filter _ _ input := .finished 0 (Utf8.encode input) []
    disassembler _ _ := .started [] 0 }
  stdout := ⟨none, true⟩

theorem listing_read_from_file_unless_dash_absolute :
    let arguments : List Text := ["--listing", "--no-demangle", "/-"]
    NamesListing arguments "/-" ∧ ¬ Path.SpellsDash "/-" ∧
      (run dashStored arguments).toOption.map Result.written = some (["a:", "\tb", ""] : List Text) ∧
      ∀ stdin, run { dashStored with stdin := stdin } arguments = run dashStored arguments := by
  intro arguments
  have names : NamesListing arguments "/-" := ⟨_, rfl, by decide, rfl⟩
  have other : ¬ Path.SpellsDash "/-" := by
    rw [← Path.text_eq_dash]
    decide
  obtain ⟨_, _, _, _, file, _⟩ := listing_read_from_file_unless_dash names dashStored
  exact ⟨names, other, by decide +kernel, (file other).1⟩

/-- After a dot and a slash the dash leads to the file of that name, and standard input is read. -/
theorem dash_after_dot_read_from_stdin :
    let arguments : List Text := ["--listing", "--no-demangle", "./-"]
    NamesListing arguments "./-" ∧
      (dashStored.tree.lookUp dashStored.directory "./-").toOption =
        some (.file (Utf8.encode ("0 <a>:\ncall <b>\n" : String))) ∧
      (run dashStored arguments).toOption.map Result.written = some (["x:", "\ty", ""] : List Text) ∧
      run { dashStored with stdin := ⟨[], none⟩ } arguments ≠ run dashStored arguments := by
  intro arguments
  refine ⟨⟨_, rfl, by decide, rfl⟩, by decide +kernel, by decide +kernel, fun same => ?_⟩
  exact absurd (congrArg (fun result => result.toOption.map Result.written) same) (by decide +kernel)

end CommandLine

end Xref
