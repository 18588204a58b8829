/-!
# Times in reports

A moment is written in the form of RFC 3339 in universal time. The fraction of the
second has no, three, six or nine digits, as many as it needs.
-/

namespace OffchainSeal.Report

/-- A moment after the beginning of the year 1970. -/
structure Timestamp where
  seconds : Nat
  nanoseconds : Nat
  deriving DecidableEq, Repr

namespace Timestamp

/-- A number in at least `n` decimal digits. -/
def padded (n value : Nat) : String :=
  let ds := Nat.toDigits 10 value
  String.ofList (List.replicate (n - ds.length) '0' ++ ds)

/-- Year, month and day of a number of days after the beginning of 1970. Years are
counted from March, so that a leap day ends its year. -/
def date (days : Nat) : Nat × Nat × Nat :=
  let d := days + 719468
  let era := d / 146097
  let ofEra := d % 146097
  let yearOfEra := (ofEra - ofEra / 1460 + ofEra / 36524 - ofEra / 146096) / 365
  let ofYear := ofEra - (365 * yearOfEra + yearOfEra / 4 - yearOfEra / 100)
  let fromMarch := (5 * ofYear + 2) / 153
  let day := ofYear - (153 * fromMarch + 2) / 5 + 1
  let month := if fromMarch < 10 then fromMarch + 3 else fromMarch - 9
  let year := yearOfEra + 400 * era
  (if month ≤ 2 then year + 1 else year, month, day)

/-- The fraction of a second. -/
def fraction (nanoseconds : Nat) : String :=
  if nanoseconds = 0 then ""
  else if nanoseconds % 1000000 = 0 then "." ++ padded 3 (nanoseconds / 1000000)
  else if nanoseconds % 1000 = 0 then "." ++ padded 6 (nanoseconds / 1000)
  else "." ++ padded 9 nanoseconds

/-- The text of a moment. -/
def render (t : Timestamp) : String :=
  let (year, month, day) := date (t.seconds / 86400)
  let clock := t.seconds % 86400
  s!"{padded 4 year}-{padded 2 month}-{padded 2 day}T{padded 2 (clock / 3600)}:" ++
    s!"{padded 2 (clock / 60 % 60)}:{padded 2 (clock % 60)}{fraction t.nanoseconds}+00:00"

end Timestamp
end OffchainSeal.Report
