import OffchainSeal.Proofs.Content.Stream

/-!
# What a failed write leaves

A writer that fails is handed back, and more may be written to it. A text is refused before
anything of it is written. The flag of an optional text, however, is written before the text
is looked at: where the text is refused the flag stays, and what is written next stands behind
it. The only texts that are refused are those of `2 ^ 32` bytes or more.

Results:
* `Item.result_put`: one write, on any bytes, whatever becomes of it.
* `writeOn_eq`: any number of writes, going on after those that fail.
* `put_keeps_written`: when a failed write leaves the bytes as they were.
* `refused_optional_text_leaves_flag`: a refused optional text does not.
-/

namespace OffchainSeal.Wire

theorem length_textBody (s : String) : (textBody s).length = s.utf8ByteSize := by
  rw [textBody, Utf8.encode_toList]
  rfl

namespace Item

/-! ## One write -/

/-- What a write that is refused leaves behind the bytes written before. -/
def remnant : Item → Bytes
  | number _ | text _ => []
  | optionalText _ => [1]

/-- What a write leaves behind the bytes written before. -/
def trace (i : Item) : Bytes :=
  if i.Fits then i.form else i.remnant

/-- How a write of the item ends. -/
def verdict (i : Item) : Except Fault Unit :=
  if i.Fits then .ok ()
  else .error (.textTooLong (textBody (i.text?.getD "")).length)

theorem result_putText_of_long {s : String} (h : wordLimit ≤ (textBody s).length) (bs : Bytes) :
    (putText s).result bs = (.error (.textTooLong (textBody s).length), bs) := by
  have hthrow : putText s = throw (.textTooLong (textBody s).length) := if_neg (Nat.not_lt.mpr h)
  rw [hthrow]
  rfl

/-- Behind any bytes, a write leaves its trace. -/
theorem result_put (i : Item) (bs : Bytes) : i.put.result bs = (i.verdict, bs ++ i.trace) := by
  by_cases h : i.Fits
  · rw [verdict, trace, if_pos h, if_pos h]
    exact writes_put h bs
  · rw [verdict, trace, if_neg h, if_neg h]
    have hlong : ∃ s ∈ i.text?, wordLimit ≤ (textBody s).length := by
      simpa [Fits] using h
    obtain ⟨s, hs, hlong⟩ := hlong
    cases i with
    | number n => cases hs
    | text t =>
      cases hs
      change _ = (_, bs ++ [])
      rw [List.append_nil]
      exact result_putText_of_long hlong bs
    | optionalText t? =>
      cases hs
      change ((putBytes [1] >>= fun _ => putText s) : Put Unit).result bs = _
      rw [Put.result_bind, writes_putBytes]
      exact result_putText_of_long hlong _

theorem exists_verdict_eq_error_iff {i : Item} :
    (∃ e, i.verdict = .error e) ↔ ∃ s, i.text? = some s ∧ 2 ^ 32 ≤ s.utf8ByteSize := by
  have hlong : ¬ i.Fits ↔ ∃ s, i.text? = some s ∧ 2 ^ 32 ≤ s.utf8ByteSize := by
    simp [Fits, wordLimit, length_textBody]
  rw [← hlong]
  unfold verdict
  split_ifs with h <;> simp [h]

/-- A write that ends well has appended the item, and one that fails its remnant. -/
theorem trace_of_verdict (i : Item) :
    (i.verdict = .ok () → i.trace = i.form) ∧
      ∀ e, i.verdict = .error e → i.trace = i.remnant := by
  unfold verdict trace
  split_ifs with h <;> simp

theorem remnant_eq_nil_iff {i : Item} : i.remnant = [] ↔ ∀ s?, i ≠ .optionalText s? := by
  cases i <;> simp [remnant]

end Item

/-! ## Any number of writes -/

/-- The bytes of a writer after the writes, whatever became of each of them. -/
def writeOn : List Item → Bytes → Bytes
  | [], bs => bs
  | i :: items, bs => writeOn items (i.put.result bs).2

/-- The writes leave their traces, one behind the other. -/
theorem writeOn_eq (items : List Item) (bs : Bytes) :
    writeOn items bs = bs ++ items.flatMap Item.trace := by
  induction items generalizing bs with
  | nil => simp [writeOn]
  | cons i items ih =>
    rw [writeOn, ih, Item.result_put]
    simp

/-- A write is refused exactly if its text has `2 ^ 32` bytes or more. A write that is not
refused appends the item. A write that is refused leaves the bytes as they were exactly if it
is none of an optional text; otherwise it leaves a flag behind them. Any number of writes, some
of which may be refused, keep what was written before. -/
theorem put_keeps_written (i : Item) (bs : Bytes) :
    ((∃ e after, i.put.result bs = (.error e, after)) ↔
        ∃ s, i.text? = some s ∧ 2 ^ 32 ≤ s.utf8ByteSize) ∧
      (∀ after, i.put.result bs = (.ok (), after) → after = bs ++ i.form) ∧
      (∀ e after, i.put.result bs = (.error e, after) →
        after = bs ++ i.remnant ∧ (after = bs ↔ ∀ s?, i ≠ .optionalText s?)) ∧
      ∀ items, bs <+: writeOn items bs := by
  rw [Item.result_put]
  obtain ⟨hok, herror⟩ := i.trace_of_verdict
  refine ⟨?_, ?_, ?_, fun items => ?_⟩
  · rw [← Item.exists_verdict_eq_error_iff]
    simp
  · intro after h
    obtain ⟨hverdict, rfl⟩ := Prod.mk.inj h
    rw [hok hverdict]
  · intro e after h
    obtain ⟨hverdict, rfl⟩ := Prod.mk.inj h
    rw [herror e hverdict, ← Item.remnant_eq_nil_iff]
    simp
  · rw [writeOn_eq]
    exact List.prefix_append _ _

theorem utf8ByteSize_replicate (n : ℕ) :
    (String.ofList (List.replicate n 'a')).utf8ByteSize = n := by
  rw [← length_textBody, textBody, String.toList_ofList]
  induction n with
  | zero => rfl
  | succ n ih =>
    rw [List.replicate_succ, Utf8.encode_cons, List.length_append, ih, Nat.add_comm]
    rfl

/-- An optional text of `2 ^ 32` letters is refused, and its flag is left. -/
theorem refused_optional_text_leaves_flag :
    let s := String.ofList (List.replicate (2 ^ 32) 'a')
    (putOptionalText (some s)).result [] = (.error (.textTooLong (2 ^ 32)), [1]) := by
  intro s
  have hsize : s.utf8ByteSize = 2 ^ 32 := utf8ByteSize_replicate _
  have hlong : ¬ (Item.optionalText (some s)).Fits := by
    simp [Item.Fits, Item.text?, length_textBody, hsize, wordLimit]
  have h := Item.result_put (.optionalText (some s)) []
  rw [Item.verdict, Item.trace, if_neg hlong, if_neg hlong] at h
  simpa [Item.put, Item.text?, Item.remnant, length_textBody, hsize] using h

end OffchainSeal.Wire
