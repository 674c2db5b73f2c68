import Xref.Listing.File
import Xref.Proofs.Except
import Xref.Proofs.Text.Lines

namespace Xref.Listing
variable {tree : FileTree} {directory : Place} {path : Path} {stdin : Stdin} {bytes : Bytes}

theorem source_dash (dash : path.text = ['-']) : source tree directory stdin path =
    (stdin.text.lines, stdin.failure.map .undecodable) := if_pos dash

theorem source_file (named : path.text ≠ ['-']) (stored : tree.read directory path = .ok bytes) :
    source tree directory stdin path = (ofBytes bytes, none) := by
  rw [source, if_neg named, stored]

theorem read_dash (dash : path.text = ['-']) : read tree directory stdin path =
    match stdin.failure with
    | some error => .error (.undecodable error)
    | none => .ok stdin.text.lines := by
  rw [read, source_dash dash]
  cases stdin.failure <;> rfl

theorem read_file (named : path.text ≠ ['-']) :
    read tree directory stdin path = (tree.read directory path).map ofBytes := by
  rw [read, source, if_neg named]
  cases tree.read directory path <;> rfl

theorem pullFile_of_stored (named : path.text ≠ ['-']) (stored : tree.read directory path = .ok bytes)
    (stdin : Stdin) (limit : Option Nat) : pullFile tree directory stdin path limit =
      ((limit.map (ofBytes bytes).take).getD (ofBytes bytes), none) := by
  rw [pullFile, source_file named stored]
  cases limit with
  | none => rfl
  | some limit =>
      by_cases reached : limit ≤ (ofBytes bytes).length
      · simp [Option.filter_some, reached]
      · have all : (ofBytes bytes).take limit = ofBytes bytes :=
          List.take_of_length_le (Nat.le_of_not_le reached)
        simp [Option.filter_some, reached, all]

theorem newline_not_mem_ofBytes (bytes : Bytes) : ∀ line ∈ ofBytes bytes, '\n' ∉ line :=
  Text.newline_not_mem_lines _

theorem newline_not_mem_of_read {lines : List Text} (done : read tree directory stdin path = .ok lines) :
    ∀ line ∈ lines, '\n' ∉ line := by
  by_cases dash : path.text = ['-']
  · rw [read_dash dash] at done
    split at done
    · cases done
    · cases done
      exact Text.newline_not_mem_lines _
  · rw [read_file dash] at done
    obtain ⟨bytes, -, rfl⟩ := map_eq_ok.mp done
    exact newline_not_mem_ofBytes bytes

theorem read_eq_error {failure : Failure} (failed : read tree directory stdin path = .error failure) :
    (∃ error, failure = .undecodable error) ∨ tree.read directory path = .error failure := by
  by_cases dash : path.text = ['-']
  · rw [read_dash dash] at failed
    split at failed
    · cases failed
      exact .inl ⟨_, rfl⟩
    · cases failed
  · rw [read_file dash] at failed
    exact .inr (map_eq_error.mp failed)

end Xref.Listing
