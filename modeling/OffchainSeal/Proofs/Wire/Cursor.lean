import OffchainSeal.Proofs.Wire.Access
import OffchainSeal.Proofs.Wire.Stops

/-!
# Reads one after the other

One reader is asked for items again and again, and goes on behind what it has taken, also
after a failure. What is unread is at any time an end of the bytes, each read shortens it by
the parts of an item or by the flag and the length at which it stops, and the bytes of a text
are taken all together or not at all.

* `takes_item`, `stops_item`: one read, with all its outcomes.
* `readOn_suffix`: any number of reads.
* `cursor_discipline`: both, what it takes to finish, and that no byte behind the end is accessed.
-/

namespace OffchainSeal.Wire

namespace Item

/-! ## One read -/

/-- The bytes of flags in front of an item of the shape. -/
def Shape.flags : Shape → ℕ
  | .optionalText => 1
  | .number | .text => 0

/-- The bytes of an item: its flag, the number that it is or that says how many bytes follow,
and these. -/
inductive Parts : Item → Bytes → Bytes → Bytes → Prop
  | number {n : UInt32} {length : Bytes} : IsVaruint n.toNat length →
      Parts (.number n) [] length []
  | text {s : String} {length : Bytes} : IsVaruint (textBody s).length length →
      Parts (.text s) [] length (textBody s)
  | absent : Parts (.optionalText none) [0] [] []
  | present {s : String} {length : Bytes} : IsVaruint (textBody s).length length →
      Parts (.optionalText (some s)) [1] length (textBody s)

/-- The fault of a read, the flag and the length gone through, and the bytes that are left. -/
inductive Stops (field : String) : Shape → Fault → Bytes → Bytes → Bytes → Prop
  | number {e : Fault} {used rest : Bytes} : NumberStops 5 1 0 e used rest →
      Stops field .number e [] used rest
  | text {e : Fault} {used rest : Bytes} : TextStops field e used rest →
      Stops field .text e [] used rest
  | optionalText {e : Fault} {flag used rest : Bytes} : OptionalStops field e flag used rest →
      Stops field .optionalText e flag used rest

/-- What a read that succeeds goes through: a flag for an optional text only, and one to five
bytes of a length unless a text is absent. -/
structure Consumes (i : Item) (flag length body : Bytes) : Prop where
  parts : i.Parts flag length body
  flag_length : flag.length = i.shape.flags
  length_pos : i ≠ .optionalText none → 1 ≤ length.length
  length_le : length.length ≤ 5

/-- What a read that fails goes through: at most a flag, for an optional text only, and at most
five bytes of a length, which goes on behind all of them but the last. Nothing at all is gone
through only if nothing was there. -/
structure StopsEarly (field : String) (shape : Shape) (e : Fault) (flag used rest : Bytes) :
    Prop where
  stops : Stops field shape e flag used rest
  flag_length : flag.length ≤ shape.flags
  length_le : used.length ≤ 5
  high : AllHigh used.dropLast
  proceeds : flag ++ used = [] → rest = []

theorem Parts.consumes {i : Item} {flag length body : Bytes} (h : i.Parts flag length body) :
    i.Consumes flag length body := by
  have hpos : ∀ {n : ℕ}, IsVaruint n length → 1 ≤ length.length :=
    fun hn => List.length_pos_of_ne_nil hn.groups.ne_nil
  refine ⟨h, ?_, fun hne => ?_, ?_⟩
  · cases h <;> rfl
  · cases h with
    | absent => exact absurd rfl hne
    | number hn | text hn | present hn => exact hpos hn
  · cases h with
    | absent => exact Nat.zero_le 5
    | number hn | text hn | present hn => exact hn.length_le

theorem Stops.stopsEarly {field : String} {shape : Shape} {e : Fault} {flag used rest : Bytes}
    (h : Stops field shape e flag used rest) : StopsEarly field shape e flag used rest := by
  refine ⟨h, ?_, ?_, ?_, fun hnone => ?_⟩
  · cases h with
    | number _ | text _ => exact Nat.zero_le _
    | optionalText h => exact h.length_le.1
  · cases h with
    | number h => exact h.length_le
    | text h => exact h.length_le
    | optionalText h => exact h.length_le.2
  · cases h with
    | number h => exact h.high
    | text h => exact h.high
    | optionalText h => exact h.high
  · obtain ⟨rfl, rfl⟩ := List.append_eq_nil_iff.mp hnone
    cases h with
    | number h => exact h.rest_eq_nil (by decide)
    | text h => exact h.rest_eq_nil
    | optionalText h => exact h.rest_eq_nil

/-- An item of the shape is taken with all its parts. -/
theorem takes_item {field : String} {shape : Shape} {i : Item} {bs rest : Bytes} :
    (get field shape).Takes bs i rest ↔
      i.shape = shape ∧ ∃ flag length body, bs = flag ++ length ++ body ++ rest ∧
        i.Consumes flag length body := by
  constructor
  · intro h
    cases shape with
    | number =>
      obtain ⟨n, mid, hn, h⟩ := takes_bind.mp h
      obtain ⟨rfl, rfl⟩ := takes_pure.mp h
      obtain ⟨length, rfl, hlength⟩ := takes_getVaruint.mp hn
      exact ⟨rfl, [], length, [], by simp, (Parts.number hlength).consumes⟩
    | text =>
      obtain ⟨s, mid, hs, h⟩ := takes_bind.mp h
      obtain ⟨rfl, rfl⟩ := takes_pure.mp h
      obtain ⟨length, hn, rfl⟩ := takes_getText.mp hs
      exact ⟨rfl, [], length, _, rfl, (Parts.text hn).consumes⟩
    | optionalText =>
      obtain ⟨s?, mid, hs, h⟩ := takes_bind.mp h
      obtain ⟨rfl, rfl⟩ := takes_pure.mp h
      cases s? with
      | none => exact ⟨rfl, [0], [], [], takes_getOptionalText_none.mp hs, Parts.absent.consumes⟩
      | some s =>
        obtain ⟨length, hn, rfl⟩ := takes_getOptionalText_some.mp hs
        exact ⟨rfl, [1], length, _, rfl, (Parts.present hn).consumes⟩
  · rintro ⟨rfl, flag, length, body, rfl, h⟩
    cases h.parts with
    | number hn =>
      exact takes_bind.mpr ⟨_, rest, takes_getVaruint.mpr ⟨length, by simp, hn⟩,
        takes_pure.mpr ⟨rfl, rfl⟩⟩
    | text hn =>
      exact takes_bind.mpr ⟨_, rest, takes_getText.mpr ⟨length, hn, rfl⟩,
        takes_pure.mpr ⟨rfl, rfl⟩⟩
    | absent =>
      exact takes_bind.mpr ⟨none, rest, takes_getOptionalText_none.mpr rfl,
        takes_pure.mpr ⟨rfl, rfl⟩⟩
    | @present s _ hn =>
      exact takes_bind.mpr ⟨some s, rest, takes_getOptionalText_some.mpr ⟨length, hn, rfl⟩,
        takes_pure.mpr ⟨rfl, rfl⟩⟩

/-- A read of the shape stops at a flag or a length. -/
theorem stops_item {field : String} {shape : Shape} {e : Fault} {bs rest : Bytes} :
    (get field shape).Stops bs e rest ↔
      ∃ flag used, bs = flag ++ used ++ rest ∧ StopsEarly field shape e flag used rest := by
  constructor
  · intro h
    cases shape with
    | number =>
      obtain ⟨used, hbs, hstops⟩ := stops_getVaruint.mp (stops_bind_pure.mp h)
      exact ⟨[], used, hbs, (Stops.number hstops).stopsEarly⟩
    | text =>
      obtain ⟨used, hbs, hstops⟩ := stops_getText.mp (stops_bind_pure.mp h)
      exact ⟨[], used, hbs, (Stops.text hstops).stopsEarly⟩
    | optionalText =>
      obtain ⟨flag, used, hbs, hstops⟩ := stops_getOptionalText.mp (stops_bind_pure.mp h)
      exact ⟨flag, used, hbs, (Stops.optionalText hstops).stopsEarly⟩
  · rintro ⟨flag, used, rfl, h⟩
    cases h.stops with
    | number h => exact stops_bind_pure.mpr (stops_getVaruint.mpr ⟨used, rfl, h⟩)
    | text h => exact stops_bind_pure.mpr (stops_getText.mpr ⟨used, rfl, h⟩)
    | optionalText h => exact stops_bind_pure.mpr (stops_getOptionalText.mpr ⟨flag, used, rfl, h⟩)

/-- What one read leaves, whatever becomes of it, is an end of what was unread. -/
theorem get_suffix (field : String) (shape : Shape) (bs : Bytes) :
    ((get field shape).result bs).2 <:+ bs := by
  rcases hr : (get field shape).result bs with ⟨e | i, rest⟩
  · obtain ⟨flag, used, rfl, -⟩ := stops_item.mp hr
    exact List.suffix_append _ _
  · obtain ⟨-, flag, length, body, rfl, -⟩ := takes_item.mp hr
    exact List.suffix_append _ _

end Item

/-! ## Any number of reads -/

/-- The bytes that are unread after the reads, whatever became of each of them. -/
def readOn : List (String × Item.Shape) → Bytes → Bytes
  | [], bs => bs
  | (field, shape) :: reads, bs => readOn reads ((Item.get field shape).result bs).2

theorem readOn_append (reads more : List (String × Item.Shape)) (bs : Bytes) :
    readOn (reads ++ more) bs = readOn more (readOn reads bs) := by
  induction reads generalizing bs with
  | nil => rfl
  | cons read reads ih => exact ih _

/-- After any reads an end of the bytes is unread. -/
theorem readOn_suffix (reads : List (String × Item.Shape)) (bs : Bytes) :
    readOn reads bs <:+ bs := by
  induction reads generalizing bs with
  | nil => exact List.suffix_refl bs
  | cons read reads ih => exact (ih _).trans (Item.get_suffix read.1 read.2 bs)

/-- After any reads, some of which may have failed, an end of the bytes is unread, and all
further reads leave an end of it. The next read takes an item of its shape with all its parts,
or it stops at a flag or a length and has gone through these alone. It is possible to finish
exactly if nothing is unread. No byte behind the end is accessed. -/
theorem cursor_discipline (bs : Bytes) (reads : List (String × Item.Shape)) (field : String)
    (shape : Item.Shape) :
    let unread := readOn reads bs
    unread <:+ bs ∧
      (∀ more, readOn (reads ++ more) bs <:+ unread) ∧
      (∀ i rest, (Item.get field shape).result unread = (.ok i, rest) ↔
        i.shape = shape ∧ ∃ flag length body, unread = flag ++ length ++ body ++ rest ∧
          i.Consumes flag length body) ∧
      (∀ e rest, (Item.get field shape).result unread = (.error e, rest) ↔
        ∃ flag used, unread = flag ++ used ++ rest ∧
          Item.StopsEarly field shape e flag used rest) ∧
      ((finish.result unread).1 = .ok () ↔ unread = []) ∧
      (Access.item field shape).result unread = some ((Item.get field shape).result unread) := by
  intro unread
  refine ⟨readOn_suffix reads bs, fun more => ?_, fun i rest => Item.takes_item,
    fun e rest => Item.stops_item, finish_ok_iff, Access.safe_item field shape unread⟩
  rw [readOn_append]
  exact readOn_suffix more unread

/-- Of a text of five bytes only two are there. Its length is gone, and the first of the two is
then read as a number. -/
example : readOn [("memo", .text), ("", .number)] [5, 0x61, 0x62] = [0x62] := by decide

end OffchainSeal.Wire
