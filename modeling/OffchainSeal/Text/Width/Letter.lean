import OffchainSeal.Text.Width.Character
import OffchainSeal.Text.Width.Emoji

/-!
# Letters that form one sign

Letters of some scripts are drawn as one sign with the letters before them. Each is
given by the letter that ends it and by what has to stand in front of that letter.
-/

namespace OffchainSeal.Text

/-! ## Tables -/

/-- The ranges of characters without a column that nevertheless separate an alef from
a lam before it. -/
def separatingRanges : Array (Nat × Nat) :=
  #[(0x605, 0x605), (0x890, 0x891), (0x8e2, 0x8e2), (0x9be, 0x9be), (0x9d7, 0x9d7),
    (0xb3e, 0xb3e), (0xb57, 0xb57), (0xbbe, 0xbbe), (0xbd7, 0xbd7), (0xcc0, 0xcc0),
    (0xcc2, 0xcc2), (0xcc7, 0xcc8), (0xcca, 0xccb), (0xcd5, 0xcd6), (0xd3e, 0xd3e),
    (0xd4e, 0xd4e), (0xd57, 0xd57), (0xdcf, 0xdcf), (0xddf, 0xddf), (0x1160, 0x11ff),
    (0x1715, 0x1715), (0x1734, 0x1734), (0x180e, 0x180e), (0x1b35, 0x1b35), (0x1b3b, 0x1b3b),
    (0x1b3d, 0x1b3d), (0x1b43, 0x1b44), (0x1baa, 0x1baa), (0x1bf2, 0x1bf3), (0x200c, 0x200d),
    (0x2065, 0x2069), (0x302e, 0x302f), (0x3164, 0x3164), (0xa8fa, 0xa8fa), (0xa953, 0xa953),
    (0xa9c0, 0xa9c0), (0xd7b0, 0xd7c6), (0xd7cb, 0xd7fb), (0xffa0, 0xffa0), (0xfff0, 0xfff8),
    (0x111c0, 0x111c0), (0x111c2, 0x111c3), (0x11235, 0x11235), (0x1133e, 0x1133e),
    (0x1134d, 0x1134d), (0x11357, 0x11357), (0x113b8, 0x113b8), (0x113c2, 0x113c2),
    (0x113c5, 0x113c5), (0x113c7, 0x113c9), (0x113cf, 0x113cf), (0x113d1, 0x113d1),
    (0x114b0, 0x114b0), (0x114bd, 0x114bd), (0x115af, 0x115af), (0x116b6, 0x116b6),
    (0x11930, 0x11930), (0x1193d, 0x1193d), (0x1193f, 0x1193f), (0x11941, 0x11941),
    (0x11a84, 0x11a89), (0x11d46, 0x11d46), (0x11f02, 0x11f02), (0x11f41, 0x11f41),
    (0x16ff0, 0x16ff1), (0x1d165, 0x1d166), (0x1d16d, 0x1d172), (0xe0000, 0xe0000),
    (0xe0002, 0xe001f), (0xe0080, 0xe00ff), (0xe01f0, 0xe0fff)]

/-- The ranges of letters that are written below the letter before them when the sign
coeng stands between. -/
def coengLetterRanges : Array (Nat × Nat) :=
  #[(0x1780, 0x1782), (0x1784, 0x1787), (0x1789, 0x178c), (0x178e, 0x1793), (0x1795, 0x1798),
    (0x179b, 0x179d), (0x17a0, 0x17a0), (0x17a2, 0x17a2), (0x17a7, 0x17a7), (0x17ab, 0x17ac),
    (0x17af, 0x17af)]

/-- The ranges of the letter alef and its variants. -/
def alefRanges : Array (Nat × Nat) :=
  #[(0x622, 0x623), (0x625, 0x625), (0x627, 0x627), (0x671, 0x673), (0x675, 0x675),
    (0x773, 0x774), (0x870, 0x882)]

/-- The ranges of the letter lam and its variants. -/
def lamRanges : Array (Nat × Nat) :=
  #[(0x644, 0x644), (0x6b5, 0x6b8), (0x76a, 0x76a), (0x8a6, 0x8a6), (0x8c7, 0x8c7)]

/-- The ranges of marks that are not displayed and do not keep letters apart. -/
def transparentRanges : Array (Nat × Nat) :=
  #[(0x34f, 0x34f), (0x17b4, 0x17b5), (0x180b, 0x180d), (0x180f, 0x180f), (0xfe00, 0xfe0f),
    (0xe0100, 0xe01ef)]

/-- The character is a consonant of the Tifinagh script. -/
def isTifinaghConsonant (c : Char) : Bool :=
  isBetween 0x2d31 0x2d65 c || c = '\u2d6f'

/-! ## Signs of several letters -/

/-- The end of a sign of several letters. -/
inductive Letter where
  | alef
  | lamed
  | coengLetter
  | ya
  | vowelAndYa
  | consonant
  | joinedConsonant
  | toneLetter
  | orkhonI

/-- The end of a sign that a letter may be. -/
def Letter.ofChar? (c : Char) : Option Letter :=
  if inRanges alefRanges c then some .alef
  else if c = '\u05dc' then some .lamed
  else if inRanges coengLetterRanges c then some .coengLetter
  else if c = '\u1a10' then some .ya
  else if isTifinaghConsonant c then some .consonant
  else if c = '\ua4fc' || c = '\ua4fd' then some .toneLetter
  else if c.toNat = 0x10c03 then some .orkhonI
  else none

/-- Marks that are not displayed may stand inside the sign. The sign of lam and alef
admits others and refuses a joiner. -/
def Letter.isTransparentTo (c : Char) : Letter → Bool
  | .alef => false
  | _ => c = joiner || inRanges transparentRanges c

/-- The columns a character adds to the sign it forms with the letters after it, and
what is left of the sign if it may go on; `joined` tells whether a joiner stands
between. -/
def Letter.join? (joined : Bool) (c : Char) : Letter → Option (Int × Option Letter)
  | .alef =>
    if inRanges lamRanges c then some (0, none)
    else if charWidth c = 0 && !inRanges separatingRanges c then some (0, some .alef)
    else none
  | .lamed => if joined && c = '\u05d0' then some (0, none) else none
  | .coengLetter => if c = '\u17d2' then some (-1, none) else none
  | .ya => if joined && c = '\u1a17' then some (0, some .vowelAndYa) else none
  | .vowelAndYa => if c = '\u1a15' then some (0, none) else none
  | .consonant =>
    if c = '\u2d7f' then some (1, some .joinedConsonant)
    else if joined && isTifinaghConsonant c then some (0, none)
    else none
  | .joinedConsonant => if isTifinaghConsonant c then some (-1, none) else none
  | .toneLetter => if isBetween 0xa4f8 0xa4fb c then some (0, none) else none
  | .orkhonI => if joined && c.toNat = 0x10c32 then some (0, none) else none

/-- The vowel signs of the Kirat Rai script that are drawn as one sign. -/
inductive VowelSign where
  | e
  | ai

/-- The vowel sign that a character is. -/
def VowelSign.ofChar? (c : Char) : Option VowelSign :=
  if c.toNat = 0x16d67 then some .e
  else if c.toNat = 0x16d68 then some .ai
  else none

/-- The columns a character adds to a vowel sign after it, and what is left of the
sign if it may go on. -/
def VowelSign.join? (c : Char) : VowelSign → Option (Int × Option VowelSign)
  | .e =>
    if c.toNat = 0x16d63 || c.toNat = 0x16d69 then some (0, none)
    else if c.toNat = 0x16d67 then some (0, some .ai)
    else if c.toNat = 0x16d68 then some (1, some .e)
    else none
  | .ai => if c.toNat = 0x16d63 then some (0, none) else none

end OffchainSeal.Text
