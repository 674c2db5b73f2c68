import Xref.Report.Basic

namespace Xref.Report

/-- Where a cursor stands: before the report, between two blocks, after the first line of a block,
among the entries of a block, or at the end. -/
inductive Stage where
  | before
  | between
  | entered (s : Symbol)
  | inside (s : Symbol) (targets : List Symbol)
  | ended
  deriving DecidableEq, Repr

/-- A report that is paused between two lines, with the symbols whose blocks are still to come. -/
structure Cursor where
  format : Format
  symbols : List Symbol
  stage : Stage
  deriving DecidableEq, Repr

namespace Cursor

def openOn (g : Graph) (options : Options) : Except Error Cursor := do
  checkSupported options.format
  let symbols ← select g options
  return ⟨options.format, symbols, match options.format with | .dot => .before | _ => .between⟩

def nextBlock (cursor : Cursor) : Option Line × Cursor :=
  match cursor.symbols with
  | s :: symbols =>
    (some (blockHead cursor.format s), { cursor with symbols := symbols, stage := .entered s })
  | [] =>
    (match cursor.format with | .dot => some .closing | _ => none, { cursor with stage := .ended })

def nextEntry (cursor : Cursor) (s : Symbol) : List Symbol → Option Line × Cursor
  | target :: targets =>
    (some (blockEntry cursor.format s target), { cursor with stage := .inside s targets })
  | [] =>
    match blockEnd cursor.format with
    | line :: _ => (some line, { cursor with stage := .between })
    | [] => cursor.nextBlock

def next (g : Graph) (cursor : Cursor) : Option Line × Cursor :=
  match cursor.stage with
  | .before => (some .opening, { cursor with stage := .between })
  | .between => cursor.nextBlock
  | .entered s => cursor.nextEntry s (g.dependenciesOf s)
  | .inside s targets => cursor.nextEntry s targets
  | .ended => (none, cursor)

end Cursor

end Xref.Report
