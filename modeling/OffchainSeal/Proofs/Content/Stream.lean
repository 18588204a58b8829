import OffchainSeal.Proofs.Content.Form

/-!
# Items one after the other

Whatever is written to one writer, item after item, is taken back by the readers of the
same shapes in the same order, and they look at nothing behind it.

* `Item.writes_put`, `Item.takes_get`: the law of one item, in front of any bytes.
* `writes_putItems`, `takes_getItems`: the law of any number of items.
* `stream_round_trip`: the law from an empty writer on, and for payloads.
-/

namespace OffchainSeal.Wire

/-! ## Items -/

/-- What can be written at once. -/
inductive Item where
  | number (n : UInt32)
  | text (s : String)
  | optionalText (s? : Option String)
  deriving DecidableEq, Repr

/-- What a reader has to know of an item. -/
inductive Item.Shape where
  | number
  | text
  | optionalText
  deriving DecidableEq, Repr

namespace Item

/-- The shape of an item. -/
def shape : Item → Shape
  | number _ => .number
  | text _ => .text
  | optionalText _ => .optionalText

/-- The text in an item, if there is one. -/
def text? : Item → Option String
  | number _ => none
  | text s => some s
  | optionalText s? => s?

/-- The length of the text takes at most 32 bits. -/
def Fits (i : Item) : Prop :=
  ∀ s ∈ i.text?, (textBody s).length < wordLimit

instance (i : Item) : Decidable i.Fits :=
  inferInstanceAs (Decidable (∀ s ∈ i.text?, (textBody s).length < wordLimit))

/-- The written form of an item. -/
def form : Item → Bytes
  | number n => varuint n.toNat
  | text s => textForm s
  | optionalText s? => optionalForm s?

/-- Writes an item. -/
def put : Item → Put Unit
  | number n => putVaruint n
  | text s => putText s
  | optionalText s? => putOptionalText s?

/-- Reads an item of a shape; `field` is for the faults. -/
def get (field : String) : Shape → Get Item
  | .number => return number (← getVaruint)
  | .text => return text (← getText field)
  | .optionalText => return optionalText (← getOptionalText field)

end Item

/-- Writes items in order. -/
def putItems : List Item → Put Unit
  | [] => return ()
  | i :: is => do
    i.put
    putItems is

/-- Reads items of the given shapes in order. -/
def getItems : List (String × Item.Shape) → Get (List Item)
  | [] => return []
  | (field, shape) :: reads => do
    let i ← Item.get field shape
    let is ← getItems reads
    return i :: is

/-! ## One item -/

namespace Item

theorem writes_put {i : Item} (h : i.Fits) : i.put.Writes i.form := by
  cases i with
  | number n => exact writes_putBytes _
  | text s => exact writes_putText (h s rfl)
  | optionalText s? =>
    cases s? with
    | none => exact writes_putOptionalText_none
    | some s => exact writes_putOptionalText_some (h s rfl)

theorem takes_get {i : Item} (h : i.Fits) (field : String) (rest : Bytes) :
    (get field i.shape).Takes (i.form ++ rest) i rest := by
  cases i with
  | number n =>
    have hn : getVaruint.Takes (varuint n.toNat ++ rest) n rest :=
      takes_getVaruint.mpr ⟨_, rfl, isVaruint_varuint n.toNat_lt⟩
    exact takes_bind.mpr ⟨n, rest, hn, takes_pure.mpr ⟨rfl, rfl⟩⟩
  | text s =>
    have hs : (getText field).Takes (textForm s ++ rest) s rest :=
      takes_getText.mpr ⟨_, isVaruint_varuint (h s rfl), rfl⟩
    exact takes_bind.mpr ⟨s, rest, hs, takes_pure.mpr ⟨rfl, rfl⟩⟩
  | optionalText s? =>
    have hs : (getOptionalText field).Takes (optionalForm s? ++ rest) s? rest := by
      cases s? with
      | none => exact takes_getOptionalText_none.mpr rfl
      | some s => exact takes_getOptionalText_some.mpr ⟨_, isVaruint_varuint (h s rfl), rfl⟩
    exact takes_bind.mpr ⟨s?, rest, hs, takes_pure.mpr ⟨rfl, rfl⟩⟩

end Item

/-! ## Any number of items -/

theorem writes_putItems {items : List Item} (h : ∀ i ∈ items, i.Fits) :
    (putItems items).Writes (items.flatMap Item.form) := by
  induction items with
  | nil => exact writes_pure
  | cons i is ih =>
    have hi := Item.writes_put (h i List.mem_cons_self)
    exact writes_bind hi (ih fun j hj => h j (List.mem_cons_of_mem i hj))

/-- What a reader of items takes ends where the last one ends, whatever follows. -/
theorem takes_getItems {named : List (String × Item)} (h : ∀ m ∈ named, m.2.Fits)
    (rest : Bytes) :
    (getItems (named.map fun m => (m.1, m.2.shape))).Takes
      ((named.map Prod.snd).flatMap Item.form ++ rest) (named.map Prod.snd) rest := by
  induction named with
  | nil => exact takes_pure.mpr ⟨rfl, rfl⟩
  | cons m named ih =>
    have hfirst := Item.takes_get (h m List.mem_cons_self) m.1
      ((named.map Prod.snd).flatMap Item.form ++ rest)
    have hothers := ih fun m' hm' => h m' (List.mem_cons_of_mem m hm')
    rw [List.map_cons, List.map_cons, List.flatMap_cons, List.append_assoc, getItems]
    exact takes_bind.mpr ⟨m.2, _, hfirst,
      takes_bind.mpr ⟨_, rest, hothers, takes_pure.mpr ⟨rfl, rfl⟩⟩⟩

theorem finish_ok_iff {rest : Bytes} : (finish.result rest).1 = .ok () ↔ rest = [] := by
  constructor
  · intro h
    exact (takes_finish.mp (Prod.ext h rfl)).1
  · rintro rfl
    rfl

end OffchainSeal.Wire

namespace OffchainSeal

open Wire

/-- A payload is read from what was written for it. -/
theorem Payload.exists_toBytes_ofBytes {α : Type} [Payload α] [LawfulPayload α] {a : α}
    (h : (Payload.toRow a).Fits) :
    ∃ bs, Payload.toBytes a = .ok bs ∧ Payload.ofBytes bs = .ok a :=
  ⟨(Payload.toRow a).form, toBytes_eq_ok_iff.mpr ⟨h, rfl⟩, ofBytes_eq_ok_iff.mpr h.exists_hasForm⟩

/-- Items of which no text is too long are written one after the other; in front of any bytes
the readers of their shapes take them back, under any field names, and leave those bytes. To
finish then succeeds exactly if there are none. Payloads, too, are read from what was
written for them. -/
theorem stream_round_trip (named : List (String × Item)) (hfits : ∀ m ∈ named, m.2.Fits)
    (rest : Bytes) :
    (∃ bs, (putItems (named.map Prod.snd)).toBytes = .ok bs ∧
        (getItems (named.map fun m => (m.1, m.2.shape))).result (bs ++ rest) =
          (.ok (named.map Prod.snd), rest)) ∧
      ((finish.result rest).1 = .ok () ↔ rest = []) ∧
      (∀ r : FundsRequest, (Payload.toRow r).Fits →
        ∃ bs, Payload.toBytes r = .ok bs ∧ Payload.ofBytes bs = .ok r) ∧
      ∀ r : TransferRecord, (Payload.toRow r).Fits →
        ∃ bs, Payload.toBytes r = .ok bs ∧ Payload.ofBytes bs = .ok r := by
  have hitems : ∀ i ∈ named.map Prod.snd, i.Fits := by
    intro i hi
    obtain ⟨m, hm, rfl⟩ := List.mem_map.mp hi
    exact hfits m hm
  refine ⟨⟨_, (writes_putItems hitems).toBytes, takes_getItems hfits rest⟩, finish_ok_iff, ?_, ?_⟩
  · exact fun r h => Payload.exists_toBytes_ofBytes h
  · exact fun r h => Payload.exists_toBytes_ofBytes h

/-- Numbers at the ends of their range, a text of several bytes a character, and texts that
are absent and empty, in front of a byte that would continue a number. -/
theorem stream_round_trip_at_ends :
    let named := [("", Item.number 0), ("count", .number 0xffffffff), ("memo", .text "né 😀"),
      ("hash", .optionalText none), ("hash", .optionalText (some "")), ("", .number 128)]
    (∀ m ∈ named, m.2.Fits) ∧
      ∃ bs, (putItems (named.map Prod.snd)).toBytes = .ok bs ∧
        (getItems (named.map fun m => (m.1, m.2.shape))).result (bs ++ [0x80]) =
          (.ok (named.map Prod.snd), [0x80]) := by
  intro named
  have hfits : ∀ m ∈ named, m.2.Fits := by decide +kernel
  exact ⟨hfits, (stream_round_trip named hfits [0x80]).1⟩

end OffchainSeal
