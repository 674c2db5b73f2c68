import Xref.CommandLine.Run

/-!
# The program

Gathers what a run can see of the file system, runs the command line and writes its output. No other
program is started: every command counts as missing, so the program works on saved listings.
-/

namespace Xref.Program

open CommandLine

def noPrograms : Tools where
  filter _ _ _ := .failed .noEntry
  disassembler _ _ := .failed .noEntry

def probe (place : Place) : IO (List (Place × Entry)) := do
  try
    let content ← IO.FS.readBinFile (String.ofList place.path.text)
    return [(place, .file content.toList)]
  catch
    | .inappropriateType .. => return [(place, .directory)]
    | _ => return []

def passed (directory : Place) (spelled : Text) : List Place :=
  let path := Path.ofText spelled
  (List.range (path.parts.length + 1)).map fun n =>
    directory.follow { path with parts := path.parts.take n }

def namedPaths (arguments : List Text) : List Text :=
  match sortArguments arguments with
  | .ok sorted => sorted.others ++ (sorted.value? .config).toList
  | .error _ => []

def snapshot (directory : Place) (arguments : List Text) : IO FileTree := do
  let places := (namedPaths arguments).flatMap (passed directory) ++ Config.candidates directory
  let entries ← (firstSeen places).mapM probe
  return ⟨entries.flatten ++ [(directory, .directory)]⟩

partial def readAll (stream : IO.FS.Stream) (content : ByteArray) : IO ByteArray := do
  let chunk ← stream.read 65536
  if chunk.isEmpty then return content else readAll stream (content ++ chunk)

def readsStdin (tree : FileTree) (directory : Place) (arguments : List Text) : Bool :=
  match read tree directory arguments with
  | .ok (.analysis invocation) => invocation.fromListing && invocation.objectFile.text = ['-']
  | _ => false

/-- Standard input under a decoder that refuses every invalid run. -/
def decodeStdin (bytes : Bytes) : Stdin :=
  match Utf8.decode bytes with
  | .ok text => ⟨text, none⟩
  | .error error => ⟨[], some error⟩

def perform (arguments : List Text) : IO (Except Failure Result) := do
  let directory := (Path.ofText (← IO.currentDir).toString).parts
  let tree ← snapshot directory arguments
  let stdin ← if readsStdin tree directory arguments then
    readAll (← IO.getStdin) .empty else pure .empty
  return run ⟨tree, directory, decodeStdin stdin.toList, noPrograms, ⟨none, true⟩⟩ arguments

end Xref.Program

def main (arguments : List String) : IO UInt32 := do
  match ← Xref.Program.perform (arguments.map String.toList) with
  | .error failure =>
    IO.eprintln (String.ofList failure.message)
    return 1
  | .ok result =>
    for line in result.written do
      IO.println (String.ofList line)
    for (level, text) in result.logs do
      IO.eprintln (String.ofList (level.name ++ " " ++ text))
    IO.eprint (String.ofList result.errors)
    return result.status.toUInt32
