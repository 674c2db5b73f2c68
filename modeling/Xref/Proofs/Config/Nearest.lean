import Mathlib.Data.List.Induction
import Xref.Config.File
import Xref.Proofs.Except
import Xref.Proofs.Files.Lookup

namespace Xref

namespace Place

end Place

namespace Config
variable {tree : FileTree} {place outer directory : Place} {start : Text}

/-! ## One look after the other -/

end Config

end Xref
