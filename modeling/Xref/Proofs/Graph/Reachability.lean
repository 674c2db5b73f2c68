import Mathlib.Logic.Relation
import Xref.Graph.Basic
import Xref.Proofs.FirstSeen

namespace Xref.Graph

def DependsOn (g : Graph) (s target : Symbol) : Prop := target ∈ g.dependenciesOf s

def Reaches (g : Graph) : Symbol → Symbol → Prop := Relation.ReflTransGen g.DependsOn

def Extends (larger smaller : Graph) : Prop :=
  ∀ s, smaller.dependenciesOf s ⊆ larger.dependenciesOf s

theorem Extends.refl (g : Graph) : g.Extends g := fun _ _ listed => listed

theorem mem_symbols_of_mem_row {g : Graph} {s target : Symbol} {row : List Symbol}
    (located : (s, row) ∈ g.rows) (listed : target ∈ row) : target ∈ g.symbols := by
  rw [symbols, mem_firstSeen, List.mem_flatMap]
  exact ⟨(s, row), located, List.mem_cons_of_mem s listed⟩

theorem mem_symbols_of_mem_keys {g : Graph} {s : Symbol} (key : s ∈ g.keys) : s ∈ g.symbols := by
  obtain ⟨row, located, rfl⟩ := List.mem_map.mp key
  rw [symbols, mem_firstSeen, List.mem_flatMap]
  exact ⟨row, located, List.mem_cons_self⟩

theorem DependsOn.mem_symbols {g : Graph} {s target : Symbol} (depends : g.DependsOn s target) :
    target ∈ g.symbols := by
  unfold DependsOn dependenciesOf at depends
  cases found : g.dependenciesOf? s with
  | none => simp [found] at depends
  | some row =>
      obtain ⟨before, after, rows, -⟩ := List.lookup_eq_some_iff.mp found
      have located : (s, row) ∈ g.rows := by simp [rows]
      exact mem_symbols_of_mem_row located (by simpa [found] using depends)

theorem Reaches.mem_symbols {g : Graph} {start s : Symbol} (reached : g.Reaches start s) :
    s = start ∨ s ∈ g.symbols := by
  cases reached with
  | refl => exact .inl rfl
  | tail _ depends => exact .inr depends.mem_symbols

theorem Reaches.mem_of_closed {g : Graph} {start s : Symbol} {closed : List Symbol}
    (reached : g.Reaches start s) (begun : start ∈ closed)
    (step : ∀ s ∈ closed, g.dependenciesOf s ⊆ closed) : s ∈ closed := by
  induction reached with
  | refl => exact begun
  | tail _ depends ih => exact step _ ih depends

end Xref.Graph
