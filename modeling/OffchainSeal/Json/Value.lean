/-!
# Documents

The values that are written as JSON documents, and their form on several lines:
two blanks a level, one member a line, members in their order.
-/

namespace OffchainSeal.Json

/-- A value of a document. -/
inductive Value where
  | boolean (b : Bool)
  | number (n : Nat)
  | text (s : String)
  | object (members : List (String × Value))

/-! ## Strings -/

/-- A character as it stands in a string. -/
def escapeChar (c : Char) : List Char :=
  if c = '"' then ['\\', '"']
  else if c = '\\' then ['\\', '\\']
  else if c = '\x08' then ['\\', 'b']
  else if c = '\x0c' then ['\\', 'f']
  else if c = '\n' then ['\\', 'n']
  else if c = '\r' then ['\\', 'r']
  else if c = '\t' then ['\\', 't']
  else if c.toNat < 0x20 then
    ['\\', 'u', '0', '0', Nat.digitChar (c.toNat / 16), Nat.digitChar (c.toNat % 16)]
  else [c]

/-- A string with its marks. -/
def quote (s : List Char) : List Char :=
  ['"'] ++ s.flatMap escapeChar ++ ['"']

/-! ## Values -/

/-- The blanks in front of a line. -/
def indentation (level : Nat) : List Char :=
  List.replicate (2 * level) ' '

mutual

/-- A value inside `level` objects. -/
def Value.renderAt (level : Nat) : Value → List Char
  | .boolean b => if b then "true".toList else "false".toList
  | .number n => Nat.toDigits 10 n
  | .text s => quote s.toList
  | .object members =>
    if members.isEmpty then ['\x7b', '\x7d']
    else
      ['\x7b', '\n'] ++ renderMembers (level + 1) members ++ ['\n'] ++ indentation level ++
        ['\x7d']

/-- The members of an object inside `level` objects, its own included. -/
def renderMembers (level : Nat) : List (String × Value) → List Char
  | [] => []
  | [(name, v)] => indentation level ++ quote name.toList ++ [':', ' '] ++ v.renderAt level
  | (name, v) :: rest =>
    indentation level ++ quote name.toList ++ [':', ' '] ++ v.renderAt level ++ [',', '\n'] ++
      renderMembers level rest

end

/-- The document. -/
def Value.render (v : Value) : String :=
  String.ofList (v.renderAt 0)

end OffchainSeal.Json
