import OffchainSeal.Proofs.Bytes.Hex

/-!
# The grammar of documents

RFC 8259 as relations between characters and what they stand for. Every relation
speaks about exactly the characters of its part, and blanks belong to the structural
characters, as in the standard. A string with a lone surrogate stands for nothing.

* `Tree`: the values of documents.
* `Denotes`: a text stands for a value.
* `Reordered`: two values that differ in the order of members alone.
-/

namespace OffchainSeal.Json

/-! ## Values -/

/-- The value of a document. Strings are their characters, numbers are as they are
written, and members are in the order in which they are written. -/
inductive Tree where
  | null
  | boolean (b : Bool)
  | number (digits : List Char)
  | text (s : List Char)
  | array (elements : List Tree)
  | object (members : List (List Char × Tree))

/-- One value becomes the other when members of objects, at any depth, change places. -/
inductive Reordered : Tree → Tree → Prop
  | refl (t : Tree) : Reordered t t
  | trans {t u v : Tree} : Reordered t u → Reordered u v → Reordered t v
  | members {ms ms' : List (List Char × Tree)} : ms.Perm ms' → Reordered (.object ms) (.object ms')
  | inMember {front back : List (List Char × Tree)} {key : List Char} {t t' : Tree} :
      Reordered t t' →
        Reordered (.object (front ++ (key, t) :: back)) (.object (front ++ (key, t') :: back))
  | inElement {front back : List Tree} {t t' : Tree} :
      Reordered t t' → Reordered (.array (front ++ t :: back)) (.array (front ++ t' :: back))

/-! ## Strings -/

/-- The characters are four hexadecimal digits, in letters of either case, of a number. -/
inductive HexFour : List Char → ℕ → Prop
  | mk {a b c d : Char} {i j k l : ℕ} : Hex.IsDigit a i → Hex.IsDigit b j → Hex.IsDigit c k →
      Hex.IsDigit d l → HexFour [a, b, c, d] (4096 * i + 256 * j + 16 * k + l)

/-- The number is a leading surrogate. -/
def IsLeading (n : ℕ) : Prop :=
  0xd800 ≤ n ∧ n ≤ 0xdbff

/-- The number is a trailing surrogate. -/
def IsTrailing (n : ℕ) : Prop :=
  0xdc00 ≤ n ∧ n ≤ 0xdfff

/-- The letters of the short escapes with their characters. -/
def shortEscapes : List (Char × Char) :=
  [('"', '"'), ('\\', '\\'), ('/', '/'), ('b', '\x08'), ('f', '\x0c'), ('n', '\n'), ('r', '\r'),
    ('t', '\t')]

/-- What follows the backslash of an escape. -/
inductive EscapeForm : List Char → Char → Prop
  | short {letter c : Char} : (letter, c) ∈ shortEscapes → EscapeForm [letter] c
  | number {ds : List Char} {n : ℕ} : HexFour ds n → ¬ IsLeading n → ¬ IsTrailing n →
      EscapeForm ('u' :: ds) (Char.ofNat n)
  | pair {ds ds' : List Char} {n m : ℕ} : HexFour ds n → IsLeading n → HexFour ds' m →
      IsTrailing m → EscapeForm ('u' :: (ds ++ '\\' :: 'u' :: ds'))
        (Char.ofNat (0x10000 + 0x400 * (n - 0xd800) + (m - 0xdc00)))

/-- One character of a string as it may be written. -/
inductive CharForm : List Char → Char → Prop
  | plain {c : Char} : 0x20 ≤ c.toNat → c ≠ '"' → c ≠ '\\' → CharForm [c] c
  | escaped {cs : List Char} {c : Char} : EscapeForm cs c → CharForm ('\\' :: cs) c

/-- The characters of a string, one after the other. -/
inductive CharsForm : List Char → List Char → Prop
  | nil : CharsForm [] []
  | cons {cs rest : List Char} {c : Char} {s : List Char} : CharForm cs c → CharsForm rest s →
      CharsForm (cs ++ rest) (c :: s)

/-- A string with its marks. -/
def StringForm (cs s : List Char) : Prop :=
  ∃ inner, CharsForm inner s ∧ cs = '"' :: inner ++ ['"']

/-! ## Numbers -/

/-- The characters are decimal digits, at least one. -/
def AreDigits (cs : List Char) : Prop :=
  cs ≠ [] ∧ ∀ c ∈ cs, '0' ≤ c ∧ c ≤ '9'

/-- A number: a sign or none, an integer without leading zeros, a fraction or none, an
exponent or none. -/
def NumberForm (cs : List Char) : Prop :=
  ∃ sign whole fraction exponent,
    (sign = [] ∨ sign = ['-']) ∧
      AreDigits whole ∧ (whole.head? = some '0' → whole = ['0']) ∧
      (fraction = [] ∨ ∃ ds, AreDigits ds ∧ fraction = '.' :: ds) ∧
      (exponent = [] ∨ ∃ mark esign ds, (mark = 'e' ∨ mark = 'E') ∧
        (esign = [] ∨ esign = ['+'] ∨ esign = ['-']) ∧ AreDigits ds ∧
          exponent = mark :: esign ++ ds) ∧
      cs = sign ++ whole ++ fraction ++ exponent

/-! ## Documents -/

/-- Blanks between tokens: space, tab, line feed, carriage return. -/
def AreBlanks (cs : List Char) : Prop :=
  ∀ c ∈ cs, c = ' ' ∨ c = '\t' ∨ c = '\n' ∨ c = '\r'

/-- A structural character, with blanks around it. -/
def SignForm (c : Char) (cs : List Char) : Prop :=
  ∃ front back, AreBlanks front ∧ AreBlanks back ∧ cs = front ++ c :: back

section

variable {α : Type} (R : List Char → α → Prop)

/-- Any number of items, each after a comma. -/
inductive FollowingForm : List Char → List α → Prop
  | nil : FollowingForm [] []
  | cons {comma cs rest : List Char} {a : α} {as : List α} : SignForm ',' comma → R cs a →
      FollowingForm rest as → FollowingForm (comma ++ cs ++ rest) (a :: as)

/-- Any number of items with commas between them. -/
inductive SeparatedForm : List Char → List α → Prop
  | nil : SeparatedForm [] []
  | cons {cs rest : List Char} {a : α} {as : List α} : R cs a → FollowingForm R rest as →
      SeparatedForm (cs ++ rest) (a :: as)

/-- A member of an object: a string, a colon and an item. -/
inductive MemberForm : List Char → List Char × α → Prop
  | mk {name colon cs key : List Char} {a : α} : StringForm name key → SignForm ':' colon →
      R cs a → MemberForm (name ++ colon ++ cs) (key, a)

end

/-- The characters of a value, with no blanks around a value that is no array and no
object. -/
inductive ValueForm : List Char → Tree → Prop
  | null : ValueForm ['n', 'u', 'l', 'l'] .null
  | true : ValueForm ['t', 'r', 'u', 'e'] (.boolean true)
  | false : ValueForm ['f', 'a', 'l', 's', 'e'] (.boolean false)
  | number {cs : List Char} : NumberForm cs → ValueForm cs (.number cs)
  | text {cs s : List Char} : StringForm cs s → ValueForm cs (.text s)
  | array {start cs stop : List Char} {ts : List Tree} : SignForm '[' start →
      SeparatedForm ValueForm cs ts → SignForm ']' stop →
        ValueForm (start ++ cs ++ stop) (.array ts)
  | object {start cs stop : List Char} {ms : List (List Char × Tree)} : SignForm '\x7b' start →
      SeparatedForm (MemberForm ValueForm) cs ms → SignForm '\x7d' stop →
        ValueForm (start ++ cs ++ stop) (.object ms)

/-- The text is one value with nothing but blanks around it. -/
def Denotes (text : List Char) (t : Tree) : Prop :=
  ∃ front cs back, AreBlanks front ∧ ValueForm cs t ∧ AreBlanks back ∧ text = front ++ cs ++ back

end OffchainSeal.Json
