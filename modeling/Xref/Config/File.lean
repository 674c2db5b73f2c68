import Xref.Config.Basic
import Xref.Files.Tree

namespace Xref.Config

def fileName : Text := "symdep_config.json"

def load (tree : FileTree) (directory : Place) (path : Path) : Except Failure Config :=
  match tree.read directory path with
  | .error failure => .error failure
  | .ok bytes => ofBytes bytes

def candidates (directory : Place) : List Place := directory.upwards.map (· ++ [fileName])

/-- The first of some places at which there is anything. A place that cannot be looked up ends the
search. -/
def firstPresent (tree : FileTree) : List Place → Except Failure (Option Place)
  | [] => .ok none
  | place :: rest =>
    match tree.lookUp [] place.path.text with
    | .ok _ => .ok (some place)
    | .error (.system error) =>
      if error.cause.isAbsence then firstPresent tree rest else .error (.system error)
    | .error failure => .error failure

def nearest (tree : FileTree) (directory : Place) : Except Failure (Option Place) :=
  firstPresent tree (candidates directory)

def find (tree : FileTree) (directory : Place) (start : Path) : Except Failure (Option Config) :=
  if hasNul start.text then .error .embeddedNul
  else
    match nearest tree (directory.follow start) with
    | .error failure => .error failure
    | .ok none => .ok none
    | .ok (some place) => (load tree [] place.path).map some

end Xref.Config
