import Mathlib.Tactic.Common
import Xref.Demangler
import Xref.Proofs.FirstSeen

namespace Xref.Demangler
variable {tools : Tools} {words : List Text} {names : List Symbol} {name : Symbol} {display : Text}
  {displays : List Text} {demangler : Demangler} {journal after : Journal}

theorem length_of_readAnswer {output : Text} (read : readAnswer names output = .displays displays) :
    displays.length = names.length := by
  simp only [readAnswer] at read
  split_ifs at read with miscounted
  cases read
  simp [not_not.mp miscounted]

theorem readAnswer_of_judge {program : Text} {outcome : FilterOutcome}
    (judged : judge program names outcome = .displays displays) :
    ∃ output, readAnswer names output = .displays displays := by
  cases outcome with
  | failed cause => cases judged
  | interrupted => cases judged
  | finished status output errors =>
      simp only [judge, judgeFinished] at judged
      split at judged
      · cases judged
      · split at judged
        · cases judged
        · split_ifs at judged
          exact ⟨_, judged⟩

theorem readAnswer_of_runFilter
    (ran : runFilter tools words names journal = (.displays displays, after)) :
    ∃ output, readAnswer names output = .displays displays := by
  simp only [runFilter, Prod.mk.injEq] at ran
  obtain ⟨verdict, -⟩ := ran
  split at verdict
  · cases verdict
  · split_ifs at verdict
    exact readAnswer_of_judge verdict

theorem length_of_runFilter (ran : runFilter tools words names journal = (.displays displays, after)) :
    displays.length = names.length := by
  obtain ⟨output, read⟩ := readAnswer_of_runFilter ran
  exact length_of_readAnswer read

/-! ## One filter of a chain -/

theorem sendThrough_empty (stages : List (List Text × Nat)) :
    sendThrough tools stages [] demangler journal = ⟨.ok (), demangler, journal⟩ := by
  cases stages <;> simp [sendThrough, keepRaw]

theorem sendThrough_cases (tools : Tools) (words : List Text) (index : Nat)
    (rest : List (List Text × Nat)) (demangler : Demangler) (journal : Journal)
    (waiting : names ≠ []) :
    (index ∈ demangler.disabled ∧ sendThrough tools ((words, index) :: rest) names demangler journal =
      sendThrough tools rest names demangler journal) ∨
    (index ∉ demangler.disabled ∧ ∃ after,
      (∃ displays, runFilter tools words names journal = (.displays displays, after) ∧
        sendThrough tools ((words, index) :: rest) names demangler journal =
          sendThrough tools rest (unchanged names displays) (demangler.keepChanged names displays)
            after) ∨
      (∃ rejection, runFilter tools words names journal = (.rejected rejection, after) ∧
        sendThrough tools ((words, index) :: rest) names demangler journal =
          sendThrough tools rest names { demangler with disabled := demangler.disabled ++ [index] }
            (after ++ [.log .warning (rejection.message words)])) ∨
      (∃ failure, runFilter tools words names journal = (.raised failure, after) ∧
        sendThrough tools ((words, index) :: rest) names demangler journal =
          ⟨.error failure, demangler, after⟩)) := by
  have present : names.isEmpty = false := by simpa using waiting
  by_cases skipped : index ∈ demangler.disabled
  · exact .inl ⟨skipped, by simp [sendThrough, present, skipped]⟩
  · refine .inr ⟨skipped, ?_⟩
    rcases ran : runFilter tools words names journal with ⟨displays | rejection | failure, after⟩
    · exact ⟨after, .inl ⟨displays, rfl, by simp [sendThrough, present, skipped, ran]⟩⟩
    · exact ⟨after, .inr (.inl ⟨rejection, rfl, by simp [sendThrough, present, skipped, ran]⟩)⟩
    · exact ⟨after, .inr (.inr ⟨failure, rfl, by simp [sendThrough, present, skipped, ran]⟩)⟩

/-! ## Growth of the cache -/

theorem mem_unchanged_or_lookup_keepChanged (demangler : Demangler)
    (answered : displays.length = names.length) (pending : name ∈ names) :
    name ∈ unchanged names displays ∨
      ((demangler.keepChanged names displays).cache.lookup name).isSome = true := by
  obtain ⟨i, inside, rfl⟩ := List.getElem_of_mem pending
  have paired : (names[i], displays[i]) ∈ names.zip displays := by
    rw [← List.getElem_zip]
    · exact List.getElem_mem _
    · simp
      omega
  by_cases same : displays[i] = names[i]
  · refine .inl (List.mem_map.mpr ⟨_, List.mem_filter.mpr ⟨paired, ?_⟩, rfl⟩)
    simpa using same
  · refine .inr (List.lookup_isSome_iff.mpr
      ⟨(names[i], displays[i]), List.mem_append_right _ ?_, beq_self_eq_true names[i]⟩)
    exact List.mem_filter.mpr ⟨paired, by simpa using same⟩

theorem lookup_append_of_some {entries more : List (Symbol × Text)}
    (known : entries.lookup name = some display) : (entries ++ more).lookup name = some display := by
  rw [List.lookup_append, known, Option.some_or]

theorem lookup_sendThrough (stages : List (List Text × Nat))
    (known : demangler.cache.lookup name = some display) :
    (sendThrough tools stages names demangler journal).demangler.cache.lookup name =
      some display := by
  induction stages generalizing names demangler journal with
  | nil => exact lookup_append_of_some known
  | cons stage rest ih =>
      rcases eq_or_ne names [] with rfl | waiting
      · rwa [sendThrough_empty]
      · rcases sendThrough_cases tools stage.1 stage.2 rest demangler journal waiting with
          ⟨-, step⟩ | ⟨-, after, ⟨displays, -, step⟩ | ⟨rejection, -, step⟩ | ⟨failure, -, step⟩⟩
        · rw [step]
          exact ih known
        · rw [step]
          exact ih (lookup_append_of_some known)
        · rw [step]
          exact ih known
        · rw [step]
          exact known

theorem sendThrough_covers (stages : List (List Text × Nat))
    (finished : (sendThrough tools stages names demangler journal).result = .ok ())
    (pending : name ∈ names) :
    ((sendThrough tools stages names demangler journal).demangler.cache.lookup name).isSome =
      true := by
  induction stages generalizing names demangler journal with
  | nil =>
      refine List.lookup_isSome_iff.mpr ⟨(name, name), List.mem_append_right _ ?_, beq_self_eq_true name⟩
      exact List.mem_map_of_mem pending
  | cons stage rest ih =>
      have waiting := List.ne_nil_of_mem pending
      rcases sendThrough_cases tools stage.1 stage.2 rest demangler journal waiting with
        ⟨-, step⟩ | ⟨-, after, ⟨displays, ran, step⟩ | ⟨rejection, -, step⟩ | ⟨failure, -, step⟩⟩
      · rw [step] at finished ⊢
        exact ih finished pending
      · rw [step] at finished ⊢
        rcases mem_unchanged_or_lookup_keepChanged demangler (length_of_runFilter ran) pending with
          left | changed
        · exact ih finished left
        · obtain ⟨display, known⟩ := Option.isSome_iff_exists.mp changed
          rw [lookup_sendThrough rest known, Option.isSome_some]
      · rw [step] at finished ⊢
        exact ih finished pending
      · rw [step] at finished
        cases finished

/-! ## Names that are known and names that wait -/

theorem mem_pending : name ∈ demangler.pending names ↔
    name ∈ names ∧ name ≠ [] ∧ demangler.cache.lookup name = none := by
  simp [pending, mem_firstSeen]

theorem nodup_pending (demangler : Demangler) (names : List Symbol) :
    (demangler.pending names).Nodup := by
  rw [pending, firstSeen_eq_eraseDups]
  exact (nodup_eraseDups names).filter _

theorem kept_eq_or_mem (demangler : Demangler) (name : Symbol) :
    demangler.kept name = name ∨ (name, demangler.kept name) ∈ demangler.cache := by
  unfold kept
  cases found : demangler.cache.lookup name with
  | none => exact .inl rfl
  | some display =>
      obtain ⟨before, after, entries, -⟩ := List.lookup_eq_some_iff.mp found
      exact .inr (by simp [entries])

def Knows (demangler : Demangler) (name : Symbol) : Prop :=
  name = [] ∨ (demangler.cache.lookup name).isSome = true

theorem knows_of_prime (finished : (demangler.prime tools names journal).result = .ok ()) :
    ∀ name ∈ names, (demangler.prime tools names journal).demangler.Knows name := by
  intro name asked
  by_cases empty : name = []
  · exact .inl empty
  · refine .inr ?_
    cases known : demangler.cache.lookup name with
    | some display =>
        rw [prime, lookup_sendThrough _ known, Option.isSome_some]
    | none =>
        apply sendThrough_covers _ finished
        exact mem_pending.mpr ⟨asked, empty, known⟩

theorem demangle_of_knows (known : demangler.Knows name) :
    demangler.demangle tools name journal = ⟨.ok (demangler.kept name), demangler, journal⟩ := by
  unfold demangle
  by_cases cached : (demangler.cache.lookup name).isSome = true
  · rw [if_pos cached]
  · obtain rfl := known.resolve_right cached
    have nothing : demangler.pending [[]] = [] := by
      simp [pending, firstSeen, firstSeenBy]
    rw [if_neg cached, prime, nothing, sendThrough_empty]
    rfl

theorem showLine_of_knows {line : Report.Line}
    (known : ∀ name, line.displayed? = some name → demangler.Knows name) :
    demangler.showLine tools line journal =
      ⟨.ok (line.text demangler.kept), demangler, journal⟩ := by
  unfold showLine Report.Line.text
  cases shown : line.displayed? with
  | none => rfl
  | some name =>
      simp only [demangle_of_knows (known name shown)]
      rfl

theorem showLines_of_knows {report : List Report.Line}
    (known : ∀ line ∈ report, ∀ name, line.displayed? = some name → demangler.Knows name) :
    demangler.showLines tools report journal =
      ⟨.ok (report.map (Report.Line.text demangler.kept)), demangler, journal⟩ := by
  induction report with
  | nil => rfl
  | cons line rest ih =>
      obtain ⟨first, others⟩ := List.forall_mem_cons.mp known
      simp only [showLines, showLine_of_knows first, ih others]
      rfl

end Xref.Demangler
