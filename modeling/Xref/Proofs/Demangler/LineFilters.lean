import Mathlib.Data.List.Forall2
import Xref.Proofs.Demangler.Cache
import Xref.Proofs.Text.Lines
import Xref.Proofs.Text.Utf8

namespace Xref.Demangler

inductive Behaviour where
  | perLine (answer : Text → Text)
  | failing

def Behaviour.replacement? (name : Symbol) : Behaviour → Option Text
  | .perLine answer =>
    if answer name = [] ∨ answer name = name then none else some (answer name)
  | .failing => none

def Behaviour.shown (answer : Text → Text) (name : Symbol) : Text :=
  if answer name = [] then name else answer name

/-- The display name of a name: the first replacement along the chain, else the name itself. -/
def firstReplacement (behaviours : List Behaviour) (name : Symbol) : Text :=
  if name = [] then [] else (behaviours.findSome? (Behaviour.replacement? name)).getD name

def IsText (bytes : Bytes) : Prop := ∃ text, Utf8.decode bytes = .ok text

def IsCommand (words : List Text) : Prop := words ≠ [] ∧ words.any hasNul = false

def Behaves (tools : Tools) (words : List Text) : Behaviour → Prop
  | .perLine answer => ∀ journal input, ∃ errors, IsText errors ∧
      tools.filter journal words input = .finished 0
        (Utf8.encode ((Text.lines input).flatMap fun line => answer line ++ "\n")) errors
  | .failing => ∀ journal input,
      (∃ cause, tools.filter journal words input = .failed cause) ∨
      ∃ status output errors, status ≠ 0 ∧ IsText output ∧ IsText errors ∧
        tools.filter journal words input = .finished status output errors

def ChainBehaves (tools : Tools) (chain : List (List Text)) (behaviours : List Behaviour) : Prop :=
  List.Forall₂ (fun words behaviour => IsCommand words ∧ Behaves tools words behaviour) chain
    behaviours

def OnOneLine (behaviours : List Behaviour) (name : Symbol) : Prop :=
  name.IsSingleLine ∧ ∀ answer, .perLine answer ∈ behaviours → (answer name).IsSingleLine

section
variable {tools : Tools} {words : List Text} {names : List Symbol} {name : Symbol}
  {journal : Journal} {answer : Text → Text} {behaviours : List Behaviour}

/-! ## One filter -/

theorem runFilter_of_command (command : IsCommand words) :
    ∃ program history after, runFilter tools words names journal =
      (judge program names (tools.filter history words (filterInput names)), after) := by
  obtain ⟨program, arguments, rfl⟩ := List.exists_cons_of_ne_nil command.1
  simp only [runFilter, Command.ofWords?, command.2, Bool.false_eq_true, if_false]
  exact ⟨_, _, _, rfl⟩

theorem runFilter_of_perLine (journal : Journal) (command : IsCommand words)
    (behaves : Behaves tools words (.perLine answer))
    (single : ∀ name ∈ names, name.IsSingleLine ∧ (answer name).IsSingleLine) :
    ∃ after, runFilter tools words names journal =
      (.displays (names.map (Behaviour.shown answer)), after) := by
  have asked : (filterInput names).lines = names :=
    Text.lines_flatMap fun name listed => (single name listed).1.newline_not_mem
  have printed : Text.displayLines (names.flatMap fun name => answer name ++ "\n".toList) =
      names.map answer := by
    rw [← List.flatMap_map answer (fun line => line ++ "\n".toList)]
    apply Text.displayLines_flatMap
    intro line printed
    obtain ⟨name, listed, rfl⟩ := List.mem_map.mp printed
    exact (single name listed).2
  obtain ⟨program, history, after, run⟩ := runFilter_of_command command
  obtain ⟨errors, ⟨message, decoded⟩, ran⟩ := behaves history (filterInput names)
  rw [asked] at ran
  refine ⟨after, ?_⟩
  rw [run, ran]
  simp only [judge, judgeFinished, Utf8.decode_encode, decoded, readAnswer, printed]
  simp [List.zipWith_map_right, List.zipWith_self, Behaviour.shown]

theorem runFilter_of_failing (names : List Symbol) (journal : Journal) (command : IsCommand words)
    (behaves : Behaves tools words .failing) :
    ∃ rejection after, runFilter tools words names journal = (.rejected rejection, after) := by
  obtain ⟨program, history, after, run⟩ := runFilter_of_command command
  rcases behaves history (filterInput names) with
    ⟨cause, ran⟩ | ⟨status, output, errors, failed, ⟨printed, readable⟩, ⟨message, decoded⟩, ran⟩
  · exact ⟨.unavailable ⟨cause, program⟩, after, by rw [run, ran]; rfl⟩
  · refine ⟨.exited status message.unifyLineEnds.trim, after, ?_⟩
    rw [run, ran]
    simp only [judge, judgeFinished, readable, decoded, if_pos failed]

/-! ## A chain of filters -/

/-- What holds of a demangler after any history. -/
structure Faithful (tools : Tools) (behaviours : List Behaviour) (demangler : Demangler) : Prop where
  chain : ChainBehaves tools demangler.chain behaviours
  cached : ∀ entry ∈ demangler.cache, entry.2 = firstReplacement behaviours entry.1
  disabled : ∀ index ∈ demangler.disabled, behaviours[index]? = some .failing

theorem faithful_ofChain {commands : List (List Text)}
    (behaves : ChainBehaves tools (ofChain commands).chain behaviours) :
    Faithful tools behaviours (ofChain commands) :=
  ⟨behaves, by simp [ofChain], by simp [ofChain]⟩

theorem replacement?_perLine : Behaviour.replacement? name (.perLine answer) =
    if Behaviour.shown answer name = name then none else some (Behaviour.shown answer name) := by
  unfold Behaviour.replacement? Behaviour.shown
  by_cases empty : answer name = [] <;> simp [empty]

theorem mem_unchanged_map {display : Symbol → Text} (listed : name ∈ unchanged names (names.map display)) :
    name ∈ names ∧ display name = name := by
  simp only [unchanged, ← List.map_prod_left_eq_zip] at listed
  simpa using listed

variable {demangler : Demangler}

theorem Faithful.keepRaw (faithful : Faithful tools behaviours demangler)
    (left : ∀ name ∈ names, firstReplacement behaviours name = name) :
    Faithful tools behaviours (demangler.keepRaw names) := by
  refine ⟨faithful.chain, ?_, faithful.disabled⟩
  intro entry kept
  rcases List.mem_append.mp kept with old | new
  · exact faithful.cached entry old
  · obtain ⟨name, listed, rfl⟩ := List.mem_map.mp new
    exact (left name listed).symm

theorem Faithful.keepChanged {display : Symbol → Text} (faithful : Faithful tools behaviours demangler)
    (replaced : ∀ name ∈ names, display name ≠ name → firstReplacement behaviours name = display name) :
    Faithful tools behaviours (demangler.keepChanged names (names.map display)) := by
  refine ⟨faithful.chain, ?_, faithful.disabled⟩
  intro entry kept
  rcases List.mem_append.mp kept with old | new
  · exact faithful.cached entry old
  · rw [← List.map_prod_left_eq_zip, List.mem_filter, List.mem_map] at new
    obtain ⟨⟨name, listed, rfl⟩, changed⟩ := new
    exact (replaced name listed (by simpa using changed)).symm

theorem Faithful.disable {index : Nat} (faithful : Faithful tools behaviours demangler)
    (failing : behaviours[index]? = some .failing) :
    Faithful tools behaviours { demangler with disabled := demangler.disabled ++ [index] } := by
  refine ⟨faithful.chain, faithful.cached, ?_⟩
  intro other listed
  rcases List.mem_append.mp listed with old | new
  · exact faithful.disabled other old
  · rwa [List.mem_singleton.mp new]

theorem Faithful.sendThrough {stages : List (List Text × Nat)} {later : List Behaviour}
    (staged : List.Forall₂ (fun stage behaviour => (IsCommand stage.1 ∧
      Behaves tools stage.1 behaviour) ∧ behaviours[stage.2]? = some behaviour) stages later)
    (faithful : Faithful tools behaviours demangler) (lined : ∀ name ∈ names, OnOneLine behaviours name)
    (undecided : ∀ name ∈ names, firstReplacement behaviours name =
      (later.findSome? (Behaviour.replacement? name)).getD name) :
    (sendThrough tools stages names demangler journal).result = .ok () ∧
      Faithful tools behaviours (sendThrough tools stages names demangler journal).demangler := by
  induction staged generalizing names demangler journal with
  | nil => exact ⟨rfl, faithful.keepRaw undecided⟩
  | @cons stage behaviour rest later behaves staged ih =>
      obtain ⟨⟨command, behaves⟩, located⟩ := behaves
      rcases eq_or_ne names [] with rfl | waiting
      · rw [sendThrough_empty]
        exact ⟨rfl, faithful⟩
      · cases behaviour with
        | failing =>
            -- Given up before or only now, the filter leaves the names as they are.
            obtain ⟨rejection, after, run⟩ := runFilter_of_failing names journal command behaves
            rcases sendThrough_cases tools stage.1 stage.2 rest demangler journal waiting with
              ⟨-, step⟩ | ⟨-, _, ⟨_, ran, -⟩ | ⟨_, ran, step⟩ | ⟨_, ran, -⟩⟩
            · rw [step]
              exact ih faithful lined undecided
            · simp [run] at ran
            · rw [step]
              exact ih (faithful.disable located) lined undecided
            · simp [run] at ran
        | perLine answer =>
            have single : ∀ name ∈ names, name.IsSingleLine ∧ (answer name).IsSingleLine :=
              fun name listed => ⟨(lined name listed).1,
                (lined name listed).2 answer (List.mem_of_getElem? located)⟩
            obtain ⟨after, run⟩ := runFilter_of_perLine journal command behaves single
            rcases sendThrough_cases tools stage.1 stage.2 rest demangler journal waiting with
              ⟨skipped, -⟩ | ⟨-, _, ⟨displays, ran, step⟩ | ⟨_, ran, -⟩ | ⟨_, ran, -⟩⟩
            · have failing := faithful.disabled stage.2 skipped
              simp [located] at failing
            · obtain ⟨rfl, rfl⟩ : displays = names.map (Behaviour.shown answer) ∧ _ = after := by
                simpa [run, eq_comm] using ran
              rw [step]
              apply ih
              · apply faithful.keepChanged
                intro name listed changed
                rw [undecided name listed, List.findSome?_cons, replacement?_perLine, if_neg changed]
                rfl
              · exact fun name left => lined name (mem_unchanged_map left).1
              · intro name left
                obtain ⟨listed, same⟩ := mem_unchanged_map left
                rw [undecided name listed, List.findSome?_cons, replacement?_perLine, if_pos same]
            · simp [run] at ran
            · simp [run] at ran

/-! ## Operations on a demangler -/

theorem forall₂_zipIdx {α β : Type} {related : α → β → Prop} {items : List α} {others : List β}
    (paired : List.Forall₂ related items others) :
    List.Forall₂ (fun item other => related item.1 other ∧ others[item.2]? = some other)
      items.zipIdx others := by
  rw [List.forall₂_iff_get] at paired ⊢
  obtain ⟨length, paired⟩ := paired
  refine ⟨by simpa using length, ?_⟩
  intro i inside within
  simp only [List.length_zipIdx] at inside
  simpa using paired i inside within

theorem firstReplacement_of_ne_nil (present : name ≠ []) : firstReplacement behaviours name =
    (behaviours.findSome? (Behaviour.replacement? name)).getD name := by
  rw [firstReplacement, if_neg present]

theorem Faithful.prime (faithful : Faithful tools behaviours demangler) (journal : Journal)
    (lined : ∀ name ∈ names, OnOneLine behaviours name) :
    (demangler.prime tools names journal).result = .ok () ∧
      Faithful tools behaviours (demangler.prime tools names journal).demangler := by
  have asked (name : Symbol) (pending : name ∈ demangler.pending names) : name ∈ names ∧ name ≠ [] := by
    obtain ⟨listed, present, -⟩ := mem_pending.mp pending
    exact ⟨listed, present⟩
  exact faithful.sendThrough (forall₂_zipIdx faithful.chain)
    (fun name pending => lined name (asked name pending).1)
    (fun name pending => firstReplacement_of_ne_nil (asked name pending).2)

theorem Faithful.kept (faithful : Faithful tools behaviours demangler)
    (known : demangler.Knows name) : demangler.kept name = firstReplacement behaviours name := by
  unfold Demangler.kept
  cases found : demangler.cache.lookup name with
  | some display =>
      obtain ⟨before, after, entries, -⟩ := List.lookup_eq_some_iff.mp found
      exact faithful.cached (name, display) (by simp [entries])
  | none =>
      obtain rfl := known.resolve_right (by simp [found])
      rfl

theorem Faithful.demangle (faithful : Faithful tools behaviours demangler) (journal : Journal)
    (lined : OnOneLine behaviours name) :
    (demangler.demangle tools name journal).result = .ok (firstReplacement behaviours name) ∧
      Faithful tools behaviours (demangler.demangle tools name journal).demangler := by
  by_cases known : demangler.Knows name
  · rw [demangle_of_knows known]
    exact ⟨by rw [faithful.kept known], faithful⟩
  · have missing : ¬ (demangler.cache.lookup name).isSome = true := fun cached => known (.inr cached)
    obtain ⟨finished, primed⟩ := faithful.prime journal (List.forall_mem_singleton.mpr lined)
    have knows := knows_of_prime finished name List.mem_cons_self
    rw [Demangler.demangle, if_neg missing]
    simp only [finished, Except.map, primed.kept knows, true_and]
    exact primed

theorem Faithful.showLine {line : Report.Line} (faithful : Faithful tools behaviours demangler)
    (journal : Journal) (lined : ∀ name, line.displayed? = some name → OnOneLine behaviours name) :
    (demangler.showLine tools line journal).result =
        .ok (line.text (firstReplacement behaviours)) ∧
      Faithful tools behaviours (demangler.showLine tools line journal).demangler := by
  unfold Demangler.showLine Report.Line.text
  cases shown : line.displayed? with
  | none => exact ⟨rfl, faithful⟩
  | some name =>
      obtain ⟨result, after⟩ := faithful.demangle journal (lined name shown)
      refine ⟨?_, after⟩
      simp only [result]
      rfl

theorem Faithful.showLines {report : List Report.Line} (faithful : Faithful tools behaviours demangler)
    (journal : Journal)
    (lined : ∀ line ∈ report, ∀ name, line.displayed? = some name → OnOneLine behaviours name) :
    (Demangler.showLines tools report demangler journal).result =
        .ok (report.map (Report.Line.text (firstReplacement behaviours))) ∧
      Faithful tools behaviours (Demangler.showLines tools report demangler journal).demangler := by
  induction report generalizing demangler journal with
  | nil => exact ⟨rfl, faithful⟩
  | cons line report ih =>
      obtain ⟨one, many⟩ := List.forall_mem_cons.mp lined
      obtain ⟨first, after⟩ := faithful.showLine journal one
      obtain ⟨others, last⟩ := ih after (demangler.showLine tools line journal).journal many
      simp only [Demangler.showLines, first, others]
      exact ⟨rfl, last⟩

end

inductive Operation where
  | prime (names : List Symbol)
  | demangle (name : Symbol)
  | render (g : Graph) (options : Report.Options)

namespace Operation

def names : Operation → List Symbol
  | .prime names => names
  | .demangle name => [name]
  | .render g options =>
    match Report.render g options with
    | .error _ => []
    | .ok report => report.filterMap Report.Line.displayed?

def perform (tools : Tools) (demangler : Demangler) (journal : Journal) :
    Operation → Outcome (List Text)
  | .prime names =>
    let primed := demangler.prime tools names journal
    { primed with result := primed.result.map fun _ => [] }
  | .demangle name =>
    let named := demangler.demangle tools name journal
    { named with result := named.result.map fun shown => [shown] }
  | .render g options =>
    match Report.render g options with
    | .error error => ⟨.error (.report error), demangler, journal⟩
    | .ok report => Demangler.showLines tools report demangler journal

def answer (display : Symbol → Text) : Operation → Except Failure (List Text)
  | .prime _ => .ok []
  | .demangle name => .ok [display name]
  | .render g options =>
    match Report.render g options with
    | .error error => .error (.report error)
    | .ok report => .ok (report.map (Report.Line.text display))

def performAll (tools : Tools) : List Operation → Demangler → Journal →
    List (Except Failure (List Text))
  | [], _, _ => []
  | operation :: rest, demangler, journal =>
    let done := operation.perform tools demangler journal
    done.result :: performAll tools rest done.demangler done.journal

end Operation

section
variable {tools : Tools} {behaviours : List Behaviour} {demangler : Demangler}

theorem Faithful.perform (faithful : Faithful tools behaviours demangler) (journal : Journal)
    {operation : Operation} (lined : ∀ name ∈ operation.names, OnOneLine behaviours name) :
    (operation.perform tools demangler journal).result =
        operation.answer (firstReplacement behaviours) ∧
      Faithful tools behaviours (operation.perform tools demangler journal).demangler := by
  cases operation with
  | prime names =>
      have primed : ∀ name ∈ names, OnOneLine behaviours name := lined
      obtain ⟨result, after⟩ := faithful.prime journal primed
      exact ⟨by simp only [Operation.perform, result]; rfl, after⟩
  | demangle name =>
      obtain ⟨result, after⟩ := faithful.demangle journal (lined name (List.mem_singleton_self name))
      exact ⟨by simp only [Operation.perform, result]; rfl, after⟩
  | render g options =>
      simp only [Operation.names, Operation.perform, Operation.answer] at lined ⊢
      cases rendered : Report.render g options with
      | error error => exact ⟨rfl, faithful⟩
      | ok report =>
          rw [rendered] at lined
          exact faithful.showLines journal fun line listed name shown =>
            lined name (List.mem_filterMap.mpr ⟨line, listed, shown⟩)

theorem Faithful.performAll (faithful : Faithful tools behaviours demangler) (journal : Journal)
    {operations : List Operation}
    (lined : ∀ operation ∈ operations, ∀ name ∈ operation.names, OnOneLine behaviours name) :
    Operation.performAll tools operations demangler journal =
      operations.map (Operation.answer (firstReplacement behaviours)) := by
  induction operations generalizing demangler journal with
  | nil => rfl
  | cons operation rest ih =>
      obtain ⟨first, others⟩ := List.forall_mem_cons.mp lined
      obtain ⟨result, after⟩ := faithful.perform journal first
      rw [Operation.performAll, result, List.map_cons, ih after _ others]

end

/-- On a demangler whose filters answer line by line or always fail, every operation, after any
others, gives what the first replacements along the chain give. -/
theorem operations_show_first_replacements {tools : Tools} {commands : List (List Text)}
    {behaviours : List Behaviour}
    (behaves : ChainBehaves tools (ofChain commands).chain behaviours) (operations : List Operation)
    (lined : ∀ operation ∈ operations, ∀ name ∈ operation.names, OnOneLine behaviours name)
    (journal : Journal) :
    Operation.performAll tools operations (ofChain commands) journal =
      operations.map (Operation.answer (firstReplacement behaviours)) :=
  (faithful_ofChain behaves).performAll journal lined

/-- A filter that is missing, and one that replaces `_Za` and answers `_Zb` by an empty line. -/
theorem operations_show_first_replacements_twice :
    let answer (line : Text) : Text :=
      if line = "_Za".toList then "a()" else if line = "_Zb".toList then "" else line
    let tools : Tools := {
      filter _ words input :=
        if words = ["none".toList] then .failed .noEntry
        else .finished 0 (Utf8.encode ((Text.lines input).flatMap fun line => answer line ++ "\n")) []
      disassembler _ _ := .failed .noEntry }
    let operations : List Operation :=
      [.demangle "_Zb", .prime ["_Za", "_Zb", "", "_Za"], .demangle "_Za", .demangle ""]
    Operation.performAll tools operations (ofChain [["none"], ["c++filt"]]) [] =
      [.ok ["_Zb".toList], .ok [], .ok ["a()".toList], .ok [[]]] := by
  intro answer tools operations
  have chain : ChainBehaves tools (ofChain [["none"], ["c++filt"]]).chain
      [.failing, .perLine answer] :=
    .cons ⟨⟨by decide, by decide⟩, fun _ _ => .inl ⟨.noEntry, rfl⟩⟩
      (.cons ⟨⟨by decide, by decide⟩, fun _ _ => ⟨[], ⟨[], rfl⟩, rfl⟩⟩ .nil)
  have lined : ∀ operation ∈ operations, ∀ name ∈ operation.names,
      OnOneLine [.failing, .perLine answer] name := by
    have named : ∀ operation ∈ operations, ∀ name ∈ operation.names,
        name ∈ ["_Za".toList, "_Zb".toList, []] := by
      simp [operations, Operation.names]
    have single : ∀ name ∈ ["_Za".toList, "_Zb".toList, []],
        Text.IsSingleLine name ∧ (answer name).IsSingleLine := by
      simp [answer, Text.IsSingleLine, Text.isLineBoundary]
    intro operation listed name asked
    obtain ⟨shown, answered⟩ := single name (named operation listed name asked)
    refine ⟨shown, ?_⟩
    intro other among
    obtain rfl : other = answer := by simpa using among
    exact answered
  rw [operations_show_first_replacements chain operations lined]
  rfl

end Xref.Demangler
