namespace Xref

/-- The items whose key is neither in `seen` nor the key of an earlier item. -/
def firstSeenBy {α κ : Type} [DecidableEq κ] (key : α → κ) : List κ → List α → List α
  | _, [] => []
  | seen, item :: rest =>
    if key item ∈ seen then firstSeenBy key seen rest
    else item :: firstSeenBy key (key item :: seen) rest

def firstSeen {α : Type} [DecidableEq α] (items : List α) : List α := firstSeenBy id [] items

end Xref
