import Xref.Text.Lines
import Xref.Text.Utf8

namespace Xref.Listing

def ofBytes (bytes : Bytes) : List Text := (Utf8.decodeLossy bytes).unifyLineEnds.lines

end Xref.Listing
