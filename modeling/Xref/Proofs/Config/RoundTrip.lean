import Xref.Config.File
import Xref.Proofs.Except
import Xref.Proofs.Json.Document
import Xref.Proofs.Text.Lines
import Xref.Proofs.Text.Utf8

namespace Xref

namespace Json

theorem allFrom_map {α β : Type} {check : α → Checked β} {value : β → α}
    (passes : ∀ b, check (value b) = .ok b) (index : Nat) (bs : List β) :
    Checked.allFrom check index (bs.map value) = .ok bs := by
  induction bs generalizing index with
  | nil => rfl
  | cons b bs ih =>
      rw [List.map_cons, Checked.allFrom, passes, ih]
      rfl

theorem checkList_map {α : Type} {check : Value → Checked α} {value : α → Value}
    (passes : ∀ a, check (value a) = .ok a) (as : List α) :
    checkList check (.array (as.map value)) = .ok as :=
  allFrom_map passes 0 as

theorem reads_map {α : Type} {write : α → Text} {value : α → Value}
    (reads : ∀ a, Reads (write a) (value a)) (level : Nat) (as : List α) :
    Reads (writeArray level (as.map write)) (.array (as.map value)) := by
  apply reads_writeArray
  rw [List.forall₂_map_left_iff, List.forall₂_map_right_iff, List.forall₂_same]
  exact fun a _ => reads a

theorem return_not_mem_writeArray {α : Type} {write : α → Text} (within : ∀ a, '\r' ∉ write a)
    (level : Nat) (as : List α) : '\r' ∉ writeArray level (as.map write) := by
  apply return_not_mem_writeMembers (by decide) (by decide)
  intro item written
  obtain ⟨a, -, rfl⟩ := List.mem_map.mp written
  exact within a

end Json

namespace Config

open Json

def textsValue (texts : List Text) : Value := .array (texts.map .text)

def toValue (config : Config) : Value :=
  .object [
    ("objdump", .text config.disassembler),
    ("objdump_args", textsValue config.arguments),
    ("demangle", .bool config.demangle),
    ("demangler", .array (config.filters.map textsValue))]

theorem reads_writeTexts (level : Nat) (texts : List Text) :
    Reads (writeTexts level texts) (textsValue texts) :=
  reads_map reads_writeText level texts

theorem reads_write (config : Config) : Reads config.write config.toValue := by
  apply reads_writeObject
  refine .cons ⟨rfl, reads_writeText _⟩ (.cons ⟨rfl, reads_writeTexts _ _⟩
    (.cons ⟨rfl, reads_writeBool _⟩ (.cons ⟨rfl, ?_⟩ .nil)))
  exact reads_map (reads_writeTexts 2) 1 config.filters

theorem return_not_mem_writeTexts (level : Nat) (texts : List Text) : '\r' ∉ writeTexts level texts :=
  return_not_mem_writeArray return_not_mem_writeText level texts

theorem return_not_mem_write (config : Config) : '\r' ∉ config.write := by
  apply return_not_mem_writeObject
  simp only [List.forall_mem_cons, List.not_mem_nil, false_implies, implies_true, and_true]
  refine ⟨return_not_mem_writeText _, return_not_mem_writeTexts _ _, ?_, ?_⟩
  · cases config.demangle <;> decide
  · exact return_not_mem_writeArray (return_not_mem_writeTexts 2) 1 config.filters

/-! ## Checking the saved value -/

theorem checkList_textsValue (texts : List Text) :
    checkList checkText (textsValue texts) = .ok texts := by
  have passes (text : Text) : checkText (.text text) = .ok text := rfl
  exact checkList_map passes texts

/-- No item of a chain is a text, so a chain is never taken for a single command. -/
theorem singleCommand?_chain (filters : List (List Text)) :
    singleCommand? (.array (filters.map textsValue)) = none := by
  have textless (text? : Value → Option Text) (others : ∀ words, text? (textsValue words) = none) :
      (filters.map textsValue).filterMap text? = [] := by
    simp [others]
  rw [singleCommand?, textless _ fun _ => rfl]
  simp

theorem checkFilters_chain (filters : List (List Text)) :
    checkFilters (.array (filters.map textsValue)) = .ok filters := by
  rw [checkFilters, singleCommand?_chain]
  exact checkList_map checkList_textsValue filters

theorem checkField_of_field? {α : Type} {name : Text} {value field : Value} {check : Value → Checked α}
    {result : α} (found : value.field? name = some field) (passes : check field = .ok result)
    (default : α) : value.checkField name default check = .ok result := by
  rw [Value.checkField, found, Checked.orDefault, passes]
  rfl

theorem ofValue_toValue (config : Config) : ofValue config.toValue = .ok config := by
  have disassembler : config.toValue.field? "objdump" = some (.text config.disassembler) := rfl
  have arguments : config.toValue.field? "objdump_args" = some (textsValue config.arguments) := rfl
  have demangle : config.toValue.field? "demangle" = some (.bool config.demangle) := rfl
  have filters : config.toValue.field? "demangler" =
    some (.array (config.filters.map textsValue)) := rfl
  replace disassembler := checkField_of_field? disassembler
    (show checkText _ = .ok config.disassembler from rfl)
  replace arguments := checkField_of_field? arguments (checkList_textsValue _)
  replace demangle := checkField_of_field? demangle (show checkBool _ = .ok config.demangle from rfl)
  replace filters := checkField_of_field? filters (checkFilters_chain _)
  rw [toValue] at *
  simp only [ofValue, disassembler, arguments, demangle, filters]
  rfl

theorem parse_write (config : Config) : Config.parse config.write = .ok config := by
  have unmarked : config.write.head? ≠ some '\ufeff' := by
    rw [write, writeObject_eq]
    simp [writeMembers]
  simp only [Config.parse, parse_of_reads config.reads_write unmarked, ofValue_toValue]
  rfl

theorem ofBytes_toBytes (config : Config) : ofBytes config.toBytes = .ok config := by
  simp only [ofBytes, toBytes, Utf8.decode_encode,
    Text.unifyLineEnds_of_not_mem config.return_not_mem_write, parse_write]

theorem load_of_read {tree : FileTree} {directory : Place} {path : Path} {config : Config}
    (saved : tree.read directory path = .ok config.toBytes) : load tree directory path = .ok config := by
  simp only [load, saved, ofBytes_toBytes]

/-- A file that a configuration was saved to loads as that configuration. Whatever a loaded file
held, saving what was loaded and loading it again changes neither the configuration nor the text. -/
theorem load_save (directory : Place) (path : Path) :
    (∀ (config : Config) (tree : FileTree), tree.read directory path = .ok config.toBytes →
      load tree directory path = .ok config) ∧
    ∀ (before after : FileTree) (loaded : Config), load before directory path = .ok loaded →
      after.read directory path = .ok loaded.toBytes →
      ∃ reloaded, load after directory path = .ok reloaded ∧ reloaded = loaded ∧
        reloaded.toBytes = loaded.toBytes := by
  refine ⟨fun config tree => load_of_read, ?_⟩
  intro before after loaded _ saved
  exact ⟨loaded, load_of_read saved, rfl, rfl⟩

/-- A document with a single filter command, with escapes and a carriage return before a line end. -/
def singleFilterDocument : Text :=
  "\x7b\"demangle\": \"Off\",\x0d\x0a \"demangler\": [\"c++filt\", \"\\\"\\u00e9\\ud83d\\ude00\\u0007\"]\x7d"

def singleFilter : Config := { demangle := false, filters := [["c++filt", "\"é😀\x07"]] }

theorem load_save_single_filter :
    let path : Path := ⟨"/", ["symdep_config.json"]⟩
    let tree (content : Bytes) : FileTree := ⟨[(["symdep_config.json".toList], .file content)]⟩
    load (tree (Utf8.encode singleFilterDocument)) [] path = .ok singleFilter ∧
      load (tree singleFilter.toBytes) [] path = .ok singleFilter := by
  intro path tree
  have read (content : Bytes) : (tree content).read [] path = .ok content := rfl
  have parsed : Config.parse singleFilterDocument.unifyLineEnds = .ok singleFilter :=
    eq_ok_of_toOption (by decide +kernel)
  have single : load (tree (Utf8.encode singleFilterDocument)) [] path = .ok singleFilter := by
    simp only [load, read, ofBytes, Utf8.decode_encode, parsed]
  obtain ⟨_, reloaded, rfl, -⟩ :=
    (load_save [] path).2 _ _ singleFilter single (read singleFilter.toBytes)
  exact ⟨single, reloaded⟩

end Config

end Xref
