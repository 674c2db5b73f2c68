import Xref.Proofs.Demangler.LineFilters
import Xref.Proofs.Demangler.Pass

namespace Xref.Demangler

/-- Whatever happened before, the system refuses to run the filter, or it ends and both of its streams
are texts. -/
def Usable (tools : Tools) (words : List Text) : Prop :=
  IsCommand words ∧ ∀ history input,
    (∃ cause, tools.filter history words input = .failed cause) ∨
    ∃ status output errors, IsText output ∧ IsText errors ∧
      tools.filter history words input = .finished status output errors

section
variable {tools : Tools} {words : List Text} {names : List Symbol} {displays : List Text}
  {demangler : Demangler} {journal after : Journal}

theorem runFilter_ne_raised (usable : Usable tools words) {failure : Failure} :
    runFilter tools words names journal ≠ (.raised failure, after) := by
  obtain ⟨program, history, done, run⟩ := runFilter_of_command usable.1
  rw [run, ne_eq, Prod.mk.injEq, not_and]
  intro raised
  rcases usable.2 history (filterInput names) with
    ⟨cause, ran⟩ | ⟨status, output, errors, ⟨printed, readable⟩, ⟨message, decoded⟩, ran⟩
  · rw [ran] at raised
    cases raised
  · simp only [ran, judge, judgeFinished, readable, decoded, readAnswer] at raised
    split_ifs at raised

theorem sendThrough_of_usable {stages : List (List Text × Nat)}
    (usable : ∀ stage ∈ stages, Usable tools stage.1) :
    (sendThrough tools stages names demangler journal).result = .ok () := by
  induction stages generalizing names demangler journal with
  | nil => rfl
  | cons stage rest ih =>
      obtain ⟨first, others⟩ := List.forall_mem_cons.mp usable
      rcases eq_or_ne names [] with rfl | waiting
      · rw [sendThrough_empty]
      · rcases sendThrough_cases tools stage.1 stage.2 rest demangler journal waiting with
          ⟨-, step⟩ | ⟨-, after, ⟨displays, -, step⟩ | ⟨rejection, -, step⟩ | ⟨failure, ran, -⟩⟩
        · rw [step, ih others]
        · rw [step, ih others]
        · rw [step, ih others]
        · exact absurd ran (runFilter_ne_raised first)

theorem prime_of_usable (usable : ∀ words ∈ demangler.chain, Usable tools words) :
    (demangler.prime tools names journal).result = .ok () := by
  apply sendThrough_of_usable
  intro stage listed
  exact usable stage.1 (List.fst_mem_of_mem_zipIdx listed)

/-! ## Line feeds -/

theorem newline_not_mem_of_readAnswer {output : Text}
    (read : readAnswer names output = .displays displays) (clean : ∀ name ∈ names, '\n' ∉ name) :
    ∀ display ∈ displays, '\n' ∉ display := by
  simp only [readAnswer] at read
  split_ifs at read
  cases read
  intro display listed
  obtain ⟨i, inside, rfl⟩ := List.getElem_of_mem listed
  rw [List.getElem_zipWith]
  split_ifs
  · exact clean _ (List.getElem_mem _)
  · intro stands
    exact absurd (Text.isBreak_of_mem_linesAt (List.getElem_mem _) _ stands) (by decide)

def SingleLined (demangler : Demangler) : Prop := ∀ entry ∈ demangler.cache, '\n' ∉ entry.2

theorem SingleLined.keepRaw (single : demangler.SingleLined) (clean : ∀ name ∈ names, '\n' ∉ name) :
    (demangler.keepRaw names).SingleLined := by
  refine List.forall_mem_append.mpr ⟨single, ?_⟩
  intro entry new
  obtain ⟨name, listed, rfl⟩ := List.mem_map.mp new
  exact clean name listed

theorem SingleLined.keepChanged (single : demangler.SingleLined)
    (clean : ∀ display ∈ displays, '\n' ∉ display) :
    (demangler.keepChanged names displays).SingleLined := by
  refine List.forall_mem_append.mpr ⟨single, ?_⟩
  intro entry new
  exact clean entry.2 (List.of_mem_zip (List.mem_filter.mp new).1).2

theorem SingleLined.sendThrough (stages : List (List Text × Nat)) (single : demangler.SingleLined)
    (clean : ∀ name ∈ names, '\n' ∉ name) :
    (sendThrough tools stages names demangler journal).demangler.SingleLined := by
  induction stages generalizing names demangler journal with
  | nil => exact single.keepRaw clean
  | cons stage rest ih =>
      rcases eq_or_ne names [] with rfl | waiting
      · rwa [sendThrough_empty]
      · rcases sendThrough_cases tools stage.1 stage.2 rest demangler journal waiting with
          ⟨-, step⟩ | ⟨-, after, ⟨displays, ran, step⟩ | ⟨rejection, -, step⟩ | ⟨failure, -, step⟩⟩
        · rw [step]
          exact ih single clean
        · rw [step]
          obtain ⟨output, read⟩ := readAnswer_of_runFilter ran
          have left := sublist_unchanged (length_of_runFilter ran)
          exact ih (single.keepChanged (newline_not_mem_of_readAnswer read clean))
            fun name listed => clean name (left.subset listed)
        · rw [step]
          exact ih single clean
        · rw [step]
          exact single

theorem SingleLined.kept (single : demangler.SingleLined) {name : Symbol} (clean : '\n' ∉ name) :
    '\n' ∉ demangler.kept name := by
  rcases demangler.kept_eq_or_mem name with raw | cached
  · rwa [raw]
  · exact single _ cached

theorem newline_not_mem_kept (commands : List (List Text)) (clean : ∀ name ∈ names, '\n' ∉ name) :
    ∀ name ∈ names, '\n' ∉ ((ofChain commands).prime tools names journal).demangler.kept name := by
  have new : (ofChain commands).SingleLined := by simp [SingleLined, ofChain]
  have asked : ∀ name ∈ (ofChain commands).pending names, '\n' ∉ name :=
    fun name pending => clean name (mem_pending.mp pending).1
  intro name listed
  exact (new.sendThrough _ asked).kept (clean name listed)

end

end Xref.Demangler
