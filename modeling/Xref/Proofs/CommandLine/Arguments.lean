import Mathlib.Data.List.Infix
import Xref.CommandLine.Invocation
import Xref.Proofs.Except

namespace Xref.CommandLine

theorem suffix_of_readLong {argument : Text} {reading : Reading}
    (done : readLong argument = .ok reading) :
    ∀ assignment ∈ reading.assigned, assignment.2 <:+ argument := by
  simp only [readLong] at done
  split at done
  · cases done
  · split at done
    · cases done
      simp
    · rename_i attached
      cases done
      simp only [List.mem_singleton, forall_eq]
      calc
        _ <:+ argument.dropWhile (· ≠ '=') := attached ▸ List.suffix_cons _ _
        _ <:+ argument := List.dropWhile_suffix _
    · cases done
      simp
    · cases done

theorem suffix_of_readLetters {letters : Text} {reading : Reading}
    (done : readLetters letters = .ok reading) :
    ∀ assignment ∈ reading.assigned, assignment.2 <:+ letters := by
  induction letters generalizing reading with
  | nil =>
      cases done
      simp
  | cons c rest ih =>
      simp only [readLetters] at done
      split at done
      · cases done
      · split_ifs at done
        · cases done
          simp
        · cases done
          simp
        · obtain ⟨others, read, rfl⟩ := map_eq_ok.mp done
          refine List.forall_mem_cons.mpr ⟨List.nil_suffix, ?_⟩
          exact fun assignment given => (ih read assignment given).trans (List.suffix_cons c rest)

theorem suffix_of_readSetting {argument : Text} {reading : Reading}
    (done : readSetting argument = .ok reading) :
    ∀ assignment ∈ reading.assigned, assignment.2 <:+ argument := by
  unfold readSetting at done
  split at done
  · exact suffix_of_readLong done
  · exact fun assignment given =>
      (suffix_of_readLetters done assignment given).trans (List.drop_suffix 1 argument)

structure Sorts (arguments : List Text) (sorted : Sorted) : Prop where
  values : ∀ assignment ∈ sorted.assigned, ∃ argument ∈ arguments, assignment.2 <:+ argument
  others : sorted.others ⊆ arguments

theorem Sorts.assign {arguments more : List Text} {sorted : Sorted} {assigned : List Assignment}
    (sorts : Sorts arguments sorted) (kept : arguments ⊆ more)
    (values : ∀ assignment ∈ assigned, ∃ argument ∈ more, assignment.2 <:+ argument) :
    Sorts more (sorted.assign assigned) := by
  refine ⟨List.forall_mem_append.mpr ⟨values, ?_⟩, List.Subset.trans sorts.others kept⟩
  intro assignment given
  obtain ⟨argument, listed, suffix⟩ := sorts.values assignment given
  exact ⟨argument, kept listed, suffix⟩

theorem Sorts.keep {arguments : List Text} {sorted : Sorted} (sorts : Sorts arguments sorted)
    (argument : Text) : Sorts (argument :: arguments) (sorted.keep argument) := by
  refine ⟨?_, List.cons_subset_cons argument sorts.others⟩
  intro assignment given
  obtain ⟨source, listed, suffix⟩ := sorts.values assignment given
  exact ⟨source, List.mem_cons_of_mem argument listed, suffix⟩

theorem sorts_of_sortArguments {arguments : List Text} {sorted : Sorted}
    (done : sortArguments arguments = .ok sorted) : Sorts arguments sorted := by
  fun_induction sortArguments arguments generalizing sorted with
  | case1 =>
      cases done
      exact ⟨by simp, by simp⟩
  | case2 rest =>
      cases done
      exact ⟨by simp, List.subset_cons_self _ rest⟩
  | case3 argument rest _ _ error refused => cases done
  | case4 argument rest _ _ assigned read ih =>
      obtain ⟨others, later, rfl⟩ := map_eq_ok.mp done
      apply (ih later).assign (List.subset_cons_self argument rest)
      exact fun assignment given =>
        ⟨argument, List.mem_cons_self, suffix_of_readSetting read assignment given⟩
  | case5 argument _ _ assigned setting name read => cases done
  | case6 argument _ _ assigned setting name read value rest ih =>
      obtain ⟨others, later, rfl⟩ := map_eq_ok.mp done
      apply (ih later).assign
      · exact List.subset_cons_of_subset argument (List.subset_cons_self value rest)
      · rw [List.forall_mem_append, List.forall_mem_singleton]
        refine ⟨fun assignment given => ?_, value, by simp, List.suffix_rfl⟩
        exact ⟨argument, List.mem_cons_self, suffix_of_readSetting read assignment given⟩
  | case7 argument rest _ _ ih =>
      obtain ⟨others, later, rfl⟩ := map_eq_ok.mp done
      exact (ih later).keep argument

/-! ## Looking files up -/

theorem hasNul_of_suffix {value argument : Text} (suffix : value <:+ argument)
    (plain : hasNul argument = false) : hasNul value = false := by
  simp only [hasNul, List.contains_eq_mem, decide_eq_false_iff_not] at plain ⊢
  exact fun nul => plain (suffix.subset nul)

theorem lookUp_error {tree : FileTree} {directory : Place} {spelled : Text} {failure : Failure}
    (plain : hasNul spelled = false) (failed : tree.lookUp directory spelled = .error failure) :
    ∃ error, failure = .system error := by
  simp only [FileTree.lookUp, plain, Bool.false_eq_true, if_false] at failed
  split at failed
  · cases failed
    exact ⟨_, rfl⟩
  · split at failed
    · cases failed
    · cases failed
      exact ⟨_, rfl⟩

section
variable {tree : FileTree} {directory : Place} {sorted : Sorted} {refusal : Refusal}

theorem checkValue_usage {setting : Setting}
    (plain : ∀ assignment ∈ sorted.assigned, hasNul assignment.2 = false)
    (refused : checkValue tree directory sorted setting = some refusal) :
    ∃ error, refusal = .usage error := by
  unfold checkValue at refused
  split at refused
  · split_ifs at refused
    cases refused
    exact ⟨_, rfl⟩
  · rename_i value given
    split at refused
    · cases refused
    · cases refused
      exact ⟨_, rfl⟩
    · cases refused
      exact ⟨_, rfl⟩
    · rename_i failure other failed
      obtain ⟨before, after, located, -⟩ := List.lookup_eq_some_iff.mp given
      have assigned : (Setting.config, value) ∈ sorted.assigned := by
        rw [← List.mem_reverse, located]
        simp
      obtain ⟨error, rfl⟩ := lookUp_error (plain _ assigned) failed
      exact absurd rfl (other error)
  · cases refused

theorem interpret_usage (plain : ∀ assignment ∈ sorted.assigned, hasNul assignment.2 = false)
    (named : ∀ other ∈ sorted.others, hasNul other = false)
    (refused : interpret tree directory sorted = .error refusal) :
    ∃ error, refusal = .usage error := by
  simp only [interpret] at refused
  split_ifs at refused
  split at refused
  · rename_i found
    cases refused
    obtain ⟨setting, -, checked⟩ := List.exists_of_findSome?_eq_some found
    exact checkValue_usage plain checked
  · split at refused
    · cases refused
      exact ⟨_, rfl⟩
    · rename_i objectFile extra given
      have plainFile : hasNul objectFile = false := named objectFile (by simp [given])
      simp only [plainFile, Bool.false_eq_true, if_false] at refused
      split_ifs at refused
      · cases refused
        exact ⟨_, rfl⟩
      · cases chosen : selectOptions sorted with
        | error error =>
            rw [chosen] at refused
            cases refused
            exact ⟨error, rfl⟩
        | ok options =>
            rw [chosen] at refused
            cases refused

end

theorem read_usage {tree : FileTree} {directory : Place} {arguments : List Text} {refusal : Refusal}
    (plain : ∀ argument ∈ arguments, hasNul argument = false)
    (refused : read tree directory arguments = .error refusal) :
    ∃ error, refusal = .usage error := by
  unfold read at refused
  split at refused
  · cases refused
    exact ⟨_, rfl⟩
  · rename_i sorted done
    have sorts := sorts_of_sortArguments done
    refine interpret_usage ?_ (fun other given => plain other (sorts.others given)) refused
    intro assignment given
    obtain ⟨argument, listed, suffix⟩ := sorts.values assignment given
    exact hasNul_of_suffix suffix (plain argument listed)

end Xref.CommandLine
