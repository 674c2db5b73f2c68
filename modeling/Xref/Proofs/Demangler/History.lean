import Xref.Proofs.Demangler.Cache

namespace Xref

def Journal.filters (journal : Journal) : Journal :=
  journal.filter fun
    | .filter _ _ => true
    | _ => false

@[simp] theorem Journal.filters_append (journal more : Journal) :
    Journal.filters (journal ++ more) = journal.filters ++ Journal.filters more :=
  List.filter_append journal more

@[simp] theorem Journal.filters_log (level : Level) (text : Text) :
    Journal.filters [.log level text] = [] := rfl

theorem Journal.filters_eq_nil {journal : Journal}
    (unfiltered : ∀ words input, Event.filter words input ∉ journal) : journal.filters = [] := by
  rw [Journal.filters, List.filter_eq_nil_iff]
  intro event listed
  cases event with
  | filter words input => exact absurd listed (unfiltered words input)
  | _ => simp

/-- What a filter does depends on the runs of filters before it, and on nothing else that happened. -/
def Tools.FiltersApart (tools : Tools) : Prop :=
  ∀ first second : Journal, first.filters = second.filters → tools.filter first = tools.filter second

namespace Demangler

def Outcome.onlyFilters {α : Type} (outcome : Outcome α) : Outcome α :=
  { outcome with journal := outcome.journal.filters }

section
variable {tools : Tools} {first second : Journal}

theorem runFilter_alike (apart : tools.FiltersApart) (same : first.filters = second.filters)
    (words : List Text) (names : List Symbol) :
    (runFilter tools words names first).1 = (runFilter tools words names second).1 ∧
      (runFilter tools words names first).2.filters = (runFilter tools words names second).2.filters := by
  have announced (text : Text) :
      tools.filter (first ++ [.log .debug text]) = tools.filter (second ++ [.log .debug text]) := by
    apply apart
    simp [same]
  simp only [runFilter, announced, Journal.filters_append, same, and_self]

theorem sendThrough_alike (apart : tools.FiltersApart) (stages : List (List Text × Nat))
    (names : List Symbol) (demangler : Demangler) (same : first.filters = second.filters) :
    (sendThrough tools stages names demangler first).onlyFilters =
      (sendThrough tools stages names demangler second).onlyFilters := by
  -- The names that wait and the demangler stay equal from stage to stage, the journals only alike.
  induction stages generalizing names demangler first second with
  | nil => simp only [sendThrough, Outcome.onlyFilters, same]
  | cons stage rest ih =>
      obtain ⟨verdict, later⟩ := runFilter_alike apart same stage.1 names
      rcases ran : runFilter tools stage.1 names first with ⟨judged, after⟩
      rcases ran' : runFilter tools stage.1 names second with ⟨judged', after'⟩
      rw [ran, ran'] at verdict later
      obtain rfl : judged = judged' := verdict
      simp only [sendThrough, ran, ran']
      split_ifs
      · simp only [Outcome.onlyFilters, same]
      · exact ih names demangler same
      · cases judged with
        | displays displays => exact ih _ _ later
        | rejected rejection =>
            apply ih
            rw [Journal.filters_append, Journal.filters_append, later]
        | raised failure => exact congrArg (Outcome.mk _ demangler) later

theorem prime_alike (apart : tools.FiltersApart) (demangler : Demangler) (names : List Symbol)
    (same : first.filters = second.filters) :
    (demangler.prime tools names first).onlyFilters =
      (demangler.prime tools names second).onlyFilters :=
  sendThrough_alike apart demangler.chain.zipIdx _ demangler same

end

end Demangler

end Xref
