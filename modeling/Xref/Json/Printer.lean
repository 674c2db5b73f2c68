import Xref.Text.Basic

namespace Xref.Json

def codeEscape (code : Nat) : Text := "\\u" ++ Text.ofHex 4 code

/-- A character inside a written text. What is not plain ASCII is written as its code, and beyond
the first 65536 characters as a pair of codes. -/
def writeChar (c : Char) : Text :=
  if c = '"' then "\\\""
  else if c = '\\' then "\\\\"
  else if c = '\n' then "\\n"
  else if c = '\r' then "\\r"
  else if c = '\t' then "\\t"
  else if c = '\x0c' then "\\f"
  else if c = '\x08' then "\\b"
  else if ' ' ≤ c ∧ c ≤ '~' then [c]
  else if c.toNat < 0x10000 then codeEscape c.toNat
  else
    codeEscape (0xD800 + (c.toNat - 0x10000) / 0x400) ++
      codeEscape (0xDC00 + (c.toNat - 0x10000) % 0x400)

def writeText (text : Text) : Text := '"' :: text.flatMap writeChar ++ ['"']

def writeBool (b : Bool) : Text := if b then "true" else "false"

def newLine (level : Nat) : Text := '\n' :: List.replicate (2 * level) ' '

def writeMembers (opening closing : Char) (level : Nat) : List Text → Text
  | [] => [opening, closing]
  | members =>
    opening :: newLine (level + 1) ++ Text.join (',' :: newLine (level + 1)) members ++
      newLine level ++ [closing]

def writeArray (level : Nat) (items : List Text) : Text := writeMembers '[' ']' level items

def writeObject (level : Nat) (fields : List (Text × Text)) : Text :=
  writeMembers '\x7b' '\x7d' level (fields.map fun (name, value) => writeText name ++ ": " ++ value)

end Xref.Json
