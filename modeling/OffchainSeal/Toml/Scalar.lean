import OffchainSeal.Text.Digits

/-!
# Numbers and dates of TOML

The forms of numbers, dates and times of TOML 1.0 and the ranges of their parts.
-/

namespace OffchainSeal.Toml

open Text (isDigit numberOf)

/-- A number, a truth value or a date. -/
inductive Scalar where
  | boolean (b : Bool)
  | integer (n : Int)
  | float (text : List Char)
  | date (text : List Char)
  deriving DecidableEq, Repr

/-! ## Digits -/

/-- The digits at the front of a text, with single underscores between them left
out, and the text after them. -/
def digits? (base : Nat) : List Char → Option (List Char × List Char)
  | [] => none
  | [c] => if isDigit base c then some ([c], []) else none
  | c :: '_' :: rest =>
    if isDigit base c then (digits? base rest).map fun r => (c :: r.1, r.2) else none
  | c :: d :: rest =>
    if isDigit base c then
      if isDigit base d then (digits? base (d :: rest)).map fun r => (c :: r.1, r.2)
      else some ([c], d :: rest)
    else none

/-- Exactly `n` decimal digits as a number. -/
def fixed? (n : Nat) (s : List Char) : Option (Nat × List Char) :=
  let ds := s.take n
  if ds.length = n ∧ ds.all (isDigit 10) then some (numberOf 10 ds, s.drop n) else none

/-- The text after the character `c`. -/
def afterChar? (c : Char) : List Char → Option (List Char)
  | d :: rest => if c = d then some rest else none
  | [] => none

/-! ## Dates and times -/

/-- The number of days of a month. -/
def daysIn (year month : Nat) : Nat :=
  if month = 2 then
    if year % 4 = 0 ∧ (year % 100 ≠ 0 ∨ year % 400 = 0) then 29 else 28
  else if month = 4 ∨ month = 6 ∨ month = 9 ∨ month = 11 then 30
  else 31

/-- A date; the text after it. -/
def fullDate? (s : List Char) : Option (List Char) := do
  let (year, s) ← fixed? 4 s
  let s ← afterChar? '-' s
  let (month, s) ← fixed? 2 s
  let s ← afterChar? '-' s
  let (day, s) ← fixed? 2 s
  if 1 ≤ month ∧ month ≤ 12 ∧ 1 ≤ day ∧ day ≤ daysIn year month then return s else none

/-- Hours and minutes; the text after them. -/
def hourMinute? (s : List Char) : Option (List Char) := do
  let (hour, s) ← fixed? 2 s
  let s ← afterChar? ':' s
  let (minute, s) ← fixed? 2 s
  if hour ≤ 23 ∧ minute ≤ 59 then return s else none

/-- A time of day, with a leap second and a fraction; the text after it. -/
def partialTime? (s : List Char) : Option (List Char) := do
  let s ← hourMinute? s
  let s ← afterChar? ':' s
  let (second, s) ← fixed? 2 s
  if 60 < second then none
  match s with
  | '.' :: d :: rest =>
    if isDigit 10 d then return rest.dropWhile (isDigit 10) else return s
  | _ => return s

/-- The text after the offset of a time, if there is one. -/
def skipOffset (s : List Char) : List Char :=
  match s with
  | c :: rest =>
    if c = 'Z' || c = 'z' then rest
    else if c = '+' || c = '-' then (hourMinute? rest).getD s
    else s
  | [] => s

/-- The text after a time that is set off from a date, and its offset. -/
def skipTime (s : List Char) : List Char :=
  match s with
  | c :: rest =>
    if c = 'T' || c = 't' || c = ' ' then
      match partialTime? rest with
      | some rest' => skipOffset rest'
      | none => s
    else s
  | [] => s

/-- A date, a time of day, or both. -/
def date? (s : List Char) : Option (Scalar × List Char) :=
  let rest? :=
    match fullDate? s with
    | some rest => some (skipTime rest)
    | none => partialTime? s
  rest?.map fun rest => (.date (s.take (s.length - rest.length)), rest)

/-! ## Numbers -/

/-- A sign, or none, and the text after it. -/
def sign (s : List Char) : Bool × List Char :=
  match s with
  | '-' :: rest => (true, rest)
  | '+' :: rest => (false, rest)
  | _ => (false, s)

/-- The digits of a decimal whole number, which has no leading zeros. -/
def wholeDigits? (s : List Char) : Option (List Char × List Char) :=
  match s with
  | '0' :: rest => some (['0'], rest)
  | _ => digits? 10 s

/-- An exponent, if there is a mark for one. -/
def exponent? (s : List Char) : Option (Option Int × List Char) :=
  match s with
  | c :: rest =>
    if c = 'e' || c = 'E' then do
      let (negative, rest) := sign rest
      let (ds, rest) ← digits? 10 rest
      let n := Int.ofNat (numberOf 10 ds)
      return (some (if negative then -n else n), rest)
    else return (none, s)
  | [] => return (none, [])

/-- The digits of a fraction, if there is a point. -/
def fraction? (s : List Char) : Option (Option (List Char) × List Char) :=
  match s with
  | '.' :: rest => (digits? 10 rest).map fun r => (some r.1, r.2)
  | _ => some (none, s)

/-- The decimal `ds * 10 ^ e` is too great for double precision. -/
def isTooGreat (ds : List Char) (e : Int) : Bool :=
  let ds := ds.dropWhile (· = '0')
  if ds.isEmpty then false
  else
    let magnitude := e + ds.length
    if 400 < magnitude then true
    else if magnitude < 0 then false
    else (Float.ofScientific (numberOf 10 ds) (e < 0) e.natAbs).isInf

/-- A decimal with a fraction or an exponent. A positive one must not be too great. -/
def float? (s : List Char) : Option (Scalar × List Char) := do
  let (negative, s₁) := sign s
  let (whole, s₂) ← wholeDigits? s₁
  let (part, s₃) ← fraction? s₂
  let (shift, s₄) ← exponent? s₃
  if part.isNone && shift.isNone then none
  let part := part.getD []
  if !negative && isTooGreat (whole ++ part) (shift.getD 0 - part.length) then none
  return (.float (s.take (s.length - s₄.length)), s₄)

/-- An infinity or no number, with a sign or none. -/
def specialFloat? (s : List Char) : Option (Scalar × List Char) :=
  let rest := (sign s).2
  let word := rest.take 3
  if word = ['i', 'n', 'f'] ∨ word = ['n', 'a', 'n'] then
    some (.float (s.take (s.length - (rest.drop 3).length)), rest.drop 3)
  else none

/-- One more than the greatest whole number. -/
def integerLimit : Nat := 0x8000000000000000

/-- The base that a mark in front of a whole number tells. -/
def base? : List Char → Option (Nat × List Char)
  | '0' :: 'x' :: rest => some (16, rest)
  | '0' :: 'o' :: rest => some (8, rest)
  | '0' :: 'b' :: rest => some (2, rest)
  | _ => none

/-- A whole number of 64 bits, in decimal with a sign or in another base without. -/
def integer? (s : List Char) : Option (Scalar × List Char) := do
  match base? s with
  | some (base, rest) =>
    let (ds, rest) ← digits? base rest
    let n := numberOf base ds
    if n < integerLimit then return (.integer n, rest) else none
  | none =>
    let (negative, rest) := sign s
    let (ds, rest) ← wholeDigits? rest
    let n := numberOf 10 ds
    if negative then
      if n ≤ integerLimit then return (.integer (-Int.ofNat n), rest) else none
    else if n < integerLimit then return (.integer n, rest) else none

/-- The text after `word`. -/
def afterWord? (word s : List Char) : Option (List Char) :=
  if word.isPrefixOf s then some (s.drop word.length) else none

/-- The scalar at the front of a text. -/
def scalar? (s : List Char) : Option (Scalar × List Char) :=
  match s with
  | 't' :: rest => (afterWord? ['r', 'u', 'e'] rest).map (.boolean true, ·)
  | 'f' :: rest => (afterWord? ['a', 'l', 's', 'e'] rest).map (.boolean false, ·)
  | _ =>
    match date? s with
    | some r => some r
    | none =>
      match float? s with
      | some r => some r
      | none =>
        match specialFloat? s with
        | some r => some r
        | none => integer? s

end OffchainSeal.Toml
