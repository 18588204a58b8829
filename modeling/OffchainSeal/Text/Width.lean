import OffchainSeal.Text.Width.Context

/-!
# Display width

The number of columns a line of text takes in a terminal. It is the sum of the columns
of its characters, each measured in front of the characters that follow it.
-/

namespace OffchainSeal.Text

/-- The columns of a text in one line, and what it is to a character before it. -/
def measure (s : List Char) : Int × Context :=
  s.foldr (fun c r => let (n, x) := r.2.step c; (r.1 + n, x)) (0, .of .other)

/-- The columns of a text in one line. -/
def width (s : List Char) : Nat :=
  (measure s).1.toNat

end OffchainSeal.Text
