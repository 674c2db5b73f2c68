import Xref.Text.Basic

namespace Xref

abbrev Symbol := Text

/-- The owner of the references that stand before the first definition of a listing. -/
def Symbol.nameless : Symbol := []

structure Edge where
  owner : Symbol
  target : Symbol
  deriving DecidableEq, Repr

end Xref
