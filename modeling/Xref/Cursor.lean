namespace Xref

/-- Up to `count` pulls: the items, whether the end was met, and the cursor afterwards. -/
def pull {σ α : Type} (next : σ → Option α × σ) : Nat → σ → List α × Bool × σ
  | 0, cursor => ([], false, cursor)
  | count + 1, cursor =>
    match next cursor with
    | (none, cursor) => ([], true, cursor)
    | (some item, cursor) =>
      let (items, ended, cursor) := pull next count cursor
      (item :: items, ended, cursor)

end Xref
