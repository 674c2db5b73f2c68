import Xref.Cursor

namespace Xref
variable {σ α : Type} {next : σ → Option α × σ} {cursor after : σ} {item : α}

theorem pull_of_none (ended : next cursor = (none, after)) (count : Nat) :
    pull next (count + 1) cursor = ([], true, after) := by
  simp [pull, ended]

theorem pull_of_some (given : next cursor = (some item, after)) (count : Nat) :
    pull next (count + 1) cursor =
      (item :: (pull next count after).1, (pull next count after).2) := by
  simp [pull, given]

theorem pull_of_next_eq {other : σ} (same : next cursor = next other) (count : Nat) :
    pull next (count + 1) cursor = pull next (count + 1) other := by
  simp only [pull, same]

theorem length_pull (count : Nat) (cursor : σ) (going : (pull next count cursor).2.1 = false) :
    (pull next count cursor).1.length = count := by
  induction count generalizing cursor with
  | zero => rfl
  | succ count ih =>
      rcases step : next cursor with ⟨_ | item, after⟩
      · simp [pull_of_none step] at going
      · rw [pull_of_some step] at going ⊢
        simp [ih after going]

theorem pull_of_le {few many : Nat} (le : few ≤ many) (cursor : σ)
    (ended : (pull next few cursor).2.1 = true) :
    pull next many cursor = pull next few cursor := by
  induction few generalizing many cursor with
  | zero => simp [pull] at ended
  | succ few ih =>
      obtain ⟨many, rfl⟩ : ∃ rest, many = rest + 1 := ⟨many - 1, by omega⟩
      rcases step : next cursor with ⟨_ | item, after⟩
      · rw [pull_of_none step, pull_of_none step]
      · rw [pull_of_some step] at ended
        rw [pull_of_some step, pull_of_some step, ih (by omega) after ended]

end Xref
