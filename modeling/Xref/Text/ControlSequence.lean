import Xref.Text.Basic

namespace Xref.Text

/-- The length of a control sequence whose escape character stands right before the text. -/
def sequenceLength? : Text → Option Nat
  | '[' :: rest =>
    let parameters := rest.takeWhile fun c => '0' ≤ c && c ≤ '?'
    let afterParameters := rest.dropWhile fun c => '0' ≤ c && c ≤ '?'
    let intermediates := afterParameters.takeWhile fun c => ' ' ≤ c && c ≤ '/'
    match afterParameters.dropWhile fun c => ' ' ≤ c && c ≤ '/' with
    | last :: _ =>
      if '@' ≤ last ∧ last ≤ '~' then some (parameters.length + intermediates.length + 2) else none
    | [] => none
  | _ => none

def withoutSequencesFrom : (skip : Nat) → Text → Text
  | _, [] => []
  | skip + 1, _ :: rest => withoutSequencesFrom skip rest
  | 0, c :: rest =>
    if c = '\x1b' then
      match sequenceLength? rest with
      | some length => withoutSequencesFrom length rest
      | none => c :: withoutSequencesFrom 0 rest
    else c :: withoutSequencesFrom 0 rest

def withoutSequences (text : Text) : Text := withoutSequencesFrom 0 text

end Xref.Text
