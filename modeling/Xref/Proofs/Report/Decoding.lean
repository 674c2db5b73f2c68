import Xref.Proofs.Report.PrintedLine
import Xref.Proofs.Text.Lines

namespace Xref.Report
open Text

structure Shown where
  name : Text
  entries : List Text
  deriving DecidableEq, Repr

namespace Shown

def filled (shown : Shown) : List Text := (shown.name ++ ":") :: shown.entries.map ('\t' :: ·)

def texts (shown : Shown) : List Text := shown.filled ++ [[]]

def ofFilled : List Text → Shown
  | [] => ⟨[], []⟩
  | first :: others => ⟨first.dropLast, others.map List.tail⟩

theorem ofFilled_filled (shown : Shown) : ofFilled shown.filled = shown := by
  have entries : (shown.entries.map ('\t' :: ·)).map List.tail = shown.entries := by
    rw [List.map_map]
    exact List.map_id _
  have name : (shown.name ++ ":".toList).dropLast = shown.name := List.dropLast_concat
  simp only [filled, ofFilled, entries, name]

theorem nil_not_mem_filled (shown : Shown) : [] ∉ shown.filled := by
  simp [filled]

end Shown

def readBlocks (texts : List Text) : List Shown := (texts.splitOn []).dropLast.map Shown.ofFilled

def decode (output : Text) : List Shown := readBlocks output.lines

theorem splitOn_texts (blocks : List Shown) :
    (blocks.flatMap Shown.texts).splitOn [] = blocks.map Shown.filled ++ [[]] := by
  induction blocks with
  | nil => rfl
  | cons shown blocks ih =>
      have ends : ([] == ([] : Text)) = true := rfl
      have within : shown.filled.splitOn [] = [shown.filled] := by
        apply List.splitOnP_eq_singleton
        intro line listed
        rw [beq_eq_false_iff_ne]
        rintro rfl
        exact shown.nil_not_mem_filled listed
      calc
        ((shown :: blocks).flatMap Shown.texts).splitOn [] =
            (shown.filled ++ [] :: blocks.flatMap Shown.texts).splitOn [] := by
          simp [Shown.texts]
        _ = shown.filled.splitOn [] ++ (blocks.flatMap Shown.texts).splitOn [] :=
          List.splitOnP_append_cons _ _ ends
        _ = (shown :: blocks).map Shown.filled ++ [[]] := by
          rw [within, ih]
          rfl

theorem readBlocks_texts (blocks : List Shown) : readBlocks (blocks.flatMap Shown.texts) = blocks := by
  have each : Shown.ofFilled ∘ Shown.filled = id := funext Shown.ofFilled_filled
  rw [readBlocks, splitOn_texts, List.dropLast_concat, List.map_map, each, List.map_id]

theorem decode_texts {blocks : List Shown}
    (single : ∀ line ∈ blocks.flatMap Shown.texts, '\n' ∉ line) :
    decode ((blocks.flatMap Shown.texts).flatMap (· ++ "\n".toList)) = blocks := by
  rw [decode, Text.lines_flatMap single, readBlocks_texts]

example : decode ":\n\t\t:\n\n\ta:\n\tb:\n\n" = [⟨"", ["\t:"]⟩, ⟨"\ta", ["b:"]⟩] := by decide

/-! ## The blocks of a report -/

def shownOf (g : Graph) (name : Symbol → Text) (s : Symbol) : Shown :=
  ⟨name s, (g.dependenciesOf s).map name⟩

section
variable {display : Symbol → Text} {s : Symbol} {text : Text}

theorem Prints.eq_of_header (prints : Prints display (.header s) text) :
    text = (display s).withoutSequences ++ ":".toList := by
  cases prints
  rfl

theorem Prints.eq_of_dependency (prints : Prints display (.dependency s) text) :
    text = '\t' :: (display s).withoutSequences := by
  cases prints
  rfl

end

theorem printed_block (g : Graph) (display : Symbol → Text) (s : Symbol) :
    (block g .deps s).map (fun line => (line.text display).withoutSequences) =
      (shownOf g (fun s => (display s).withoutSequences) s).texts := by
  have first := (prints_text display (.header s)).eq_of_header
  have entries : ((g.dependenciesOf s).map (blockEntry .deps s)).map
        (fun line => (line.text display).withoutSequences) =
      ((g.dependenciesOf s).map fun s => (display s).withoutSequences).map ('\t' :: ·) := by
    rw [List.map_map, List.map_map]
    exact List.map_congr_left fun target _ => (prints_text display (.dependency target)).eq_of_dependency
  rw [block, List.map_append, List.map_cons, entries, blockHead, first]
  · rfl
  · simp

theorem printed_lines (g : Graph) (display : Symbol → Text) (symbols : List Symbol) :
    (lines g .deps symbols).map (fun line => (line.text display).withoutSequences) =
      (symbols.map (shownOf g fun s => (display s).withoutSequences)).flatMap Shown.texts := by
  have listed : lines g .deps symbols = symbols.flatMap (block g .deps) := rfl
  rw [listed, List.map_flatMap, List.flatMap_map]
  exact List.flatMap_congr fun s _ => printed_block g display s

end Xref.Report
