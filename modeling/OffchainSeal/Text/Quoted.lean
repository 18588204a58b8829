import OffchainSeal.Text.Invisible

/-!
# Quoted text

Texts between quotation marks for messages and reports: control characters and
characters without a glyph are written by an escape, so that the text can be
told from what surrounds it.
-/

namespace OffchainSeal.Text

/-- A character as it stands between two marks, which is escaped as well. -/
def escapeChar (mark c : Char) : List Char :=
  if c = '\x00' then ['\\', '0']
  else if c = '\t' then ['\\', 't']
  else if c = '\n' then ['\\', 'n']
  else if c = '\r' then ['\\', 'r']
  else if c = '\\' || c = mark then ['\\', c]
  else if isInvisible c then
    ['\\', 'u', '\x7b'] ++ Nat.toDigits 16 c.toNat ++ ['\x7d']
  else [c]

/-- A character between single marks. -/
def quoteChar (c : Char) : String :=
  String.ofList (['\''] ++ escapeChar '\'' c ++ ['\''])

/-- A text between double marks. -/
def quote (s : List Char) : String :=
  String.ofList (['"'] ++ s.flatMap (escapeChar '"') ++ ['"'])

end OffchainSeal.Text
