import Mathlib.Data.List.Chain
import Xref.Proofs.Demangler.Cache

namespace Xref

def Journal.processes (journal : Journal) : Journal :=
  journal.filter fun
    | .log _ _ => false
    | _ => true

@[simp] theorem Journal.processes_append (journal more : Journal) :
    Journal.processes (journal ++ more) = journal.processes ++ Journal.processes more :=
  List.filter_append journal more

@[simp] theorem Journal.processes_log (level : Level) (text : Text) :
    Journal.processes [.log level text] = [] := rfl

namespace Demangler

def filterRuns (chain : List (List Text)) (batches : List (List Symbol)) : Journal :=
  List.zipWith (fun words batch => .filter words (filterInput batch)) chain batches

/-- The batches go to the filters of a chain from its first one on. It gets all names, and each later
one gets some of the names that the one before it got, in their order. -/
structure OnePass (chain : List (List Text)) (names : List Symbol) (batches : List (List Symbol)) :
    Prop where
  bounded : batches.length ≤ chain.length
  begun : names ≠ [] → chain ≠ [] → batches ≠ []
  first : ∀ batch ∈ batches.head?, batch = names
  narrowing : batches.IsChain fun earlier later => later.Sublist earlier

section
variable {tools : Tools} {words : List Text} {chain : List (List Text)} {names left : List Symbol}
  {batches : List (List Symbol)} {displays : List Text} {demangler : Demangler}
  {journal after : Journal}

theorem onePass_of_nothing (chain : List (List Text)) (unneeded : names = [] ∨ chain = []) :
    OnePass chain names [] where
  bounded := Nat.zero_le _
  begun present filters := by simp_all
  first := by simp
  narrowing := .nil

theorem onePass_of_end (words : List Text) (chain : List (List Text)) (names : List Symbol) :
    OnePass (words :: chain) names [names] where
  bounded := by simp
  begun := by simp
  first := by simp
  narrowing := .singleton _

theorem OnePass.cons (pass : OnePass chain left batches) (kept : left.Sublist names) :
    OnePass (words :: chain) names (names :: batches) where
  bounded := by simpa using pass.bounded
  begun := by simp
  first := by simp
  narrowing := by
    rw [List.isChain_cons]
    refine ⟨fun batch next => ?_, pass.narrowing⟩
    rwa [pass.first batch next]

theorem sublist_unchanged (answered : displays.length = names.length) :
    (unchanged names displays).Sublist names := by
  have firsts : (names.zip displays).map Prod.fst = names := List.map_fst_zip answered.ge
  calc
    (unchanged names displays).Sublist ((names.zip displays).map Prod.fst) :=
      List.filter_sublist.map Prod.fst
    _ = names := firsts

theorem processes_runFilter {verdict : Verdict}
    (ran : runFilter tools words names journal = (verdict, after)) :
    after.processes = journal.processes ++ [.filter words (filterInput names)] := by
  simp only [runFilter, Prod.mk.injEq] at ran
  obtain ⟨-, rfl⟩ := ran
  simp [Journal.processes]

theorem filterRuns_cons (words : List Text) (chain : List (List Text)) (batch : List Symbol)
    (batches : List (List Symbol)) :
    filterRuns (words :: chain) (batch :: batches) =
      .filter words (filterInput batch) :: filterRuns chain batches := rfl

/-- The filters before position `position` may be given up, those from there on are not. -/
theorem sendThrough_onePass (chain : List (List Text)) {position : Nat}
    (usable : ∀ index ∈ demangler.disabled, index < position) :
    ∃ batches, OnePass chain names batches ∧
      (sendThrough tools (chain.zipIdx position) names demangler journal).journal.processes =
        journal.processes ++ filterRuns chain batches := by
  induction chain generalizing names demangler journal position with
  | nil => exact ⟨[], onePass_of_nothing [] (.inr rfl), by simp [sendThrough, filterRuns]⟩
  | cons words chain ih =>
      rcases eq_or_ne names [] with rfl | waiting
      · refine ⟨[], onePass_of_nothing _ (.inl rfl), ?_⟩
        rw [sendThrough_empty]
        simp [filterRuns]
      · rw [List.zipIdx_cons]
        have later : ∀ index ∈ demangler.disabled, index < position + 1 :=
          fun index listed => Nat.lt_succ_of_lt (usable index listed)
        rcases sendThrough_cases tools words position (chain.zipIdx (position + 1)) demangler journal
          waiting with ⟨skipped, -⟩ |
            ⟨-, after, ⟨displays, ran, step⟩ | ⟨rejection, ran, step⟩ | ⟨failure, ran, step⟩⟩
        · exact absurd (usable position skipped) (Nat.lt_irrefl position)
        · obtain ⟨batches, pass, runs⟩ :=
            @ih (unchanged names displays) (demangler.keepChanged names displays) after _ later
          refine ⟨names :: batches, pass.cons (sublist_unchanged (length_of_runFilter ran)), ?_⟩
          rw [step, runs, processes_runFilter ran, filterRuns_cons, List.append_assoc,
            List.singleton_append]
        · have given : ∀ index ∈ demangler.disabled ++ [position], index < position + 1 :=
            List.forall_mem_append.mpr ⟨later, by simp⟩
          obtain ⟨batches, pass, runs⟩ :=
            @ih names { demangler with disabled := demangler.disabled ++ [position] }
              (after ++ [.log .warning (rejection.message words)]) _ given
          refine ⟨names :: batches, pass.cons (List.Sublist.refl names), ?_⟩
          rw [step, runs, Journal.processes_append, Journal.processes_log, List.append_nil,
            processes_runFilter ran, filterRuns_cons, List.append_assoc, List.singleton_append]
        · refine ⟨[names], onePass_of_end words chain names, ?_⟩
          rw [step, processes_runFilter ran, filterRuns_cons, filterRuns, List.zipWith_nil_right]

theorem pending_ofChain (commands : List (List Text)) (distinct : names.Nodup) :
    (ofChain commands).pending names = names.filter fun name => !name.isEmpty := by
  rw [pending, firstSeen_of_nodup distinct]
  simp [ofChain]

theorem prime_onePass (tools : Tools) (commands : List (List Text)) (distinct : names.Nodup)
    (journal : Journal) :
    ∃ batches, OnePass (ofChain commands).chain (names.filter fun name => !name.isEmpty) batches ∧
      ((ofChain commands).prime tools names journal).journal.processes =
        journal.processes ++ filterRuns (ofChain commands).chain batches := by
  have usable : ∀ index ∈ (ofChain commands).disabled, index < 0 := by simp [ofChain]
  rw [prime, pending_ofChain commands distinct]
  exact sendThrough_onePass (ofChain commands).chain usable

end

end Demangler

end Xref
