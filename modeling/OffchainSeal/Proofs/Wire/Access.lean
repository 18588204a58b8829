import OffchainSeal.Proofs.Content.Stream

/-!
# Accesses to the bytes

The readers again, over bytes at which an access can fail: taking the first byte needs a byte,
and splitting off some needs as many. The checks are those of the readers, and they are
enough: on any bytes, with any announced length, every access of a reader finds its bytes and
the outcome is the reader's own.

* `Access`: readers that have no outcome once they access a byte behind the end.
* `safe_item`: no reader does.
-/

namespace OffchainSeal.Wire

variable {α β : Type}

/-- A step that takes from the unread bytes and may fail, or access bytes that are not there:
then there is nothing, neither a value nor a fault. -/
abbrev Access := ExceptT Fault (StateT Bytes Option)

namespace Access

/-- An access to bytes that are not there. -/
def behindEnd : Access α :=
  ExceptT.lift (StateT.lift none)

/-- Takes the first byte, which has to be there. -/
def first : Access UInt8 := do
  match ← get with
  | [] => behindEnd
  | b :: rest =>
    set rest
    return b

/-- The first `n` bytes, all of which have to be there, and those behind them. -/
def split (n : ℕ) : Access (Bytes × Bytes) := do
  let bs ← get
  if n ≤ bs.length then return (bs.take n, bs.drop n) else behindEnd

/-- Takes one byte. -/
def byte (what : String) : Access UInt8 := do
  if (← get).length = 0 then throw (.endOfData what) else first

/-- Takes at most `left` more bytes of a number. -/
def varuintFrom : ℕ → ℕ → ℕ → Access UInt32
  | 0, _, _ => throw .varuintTooLong
  | left + 1, weight, value => do
    let b ← byte "varuint32"
    let value := value + weight * (b.toNat % 128)
    if b < 128 then
      if value < wordLimit then return UInt32.ofNat value else throw .varuintOverflow
    else varuintFrom left (128 * weight) value

/-- Takes a number of at most five bytes. -/
def varuint : Access UInt32 :=
  varuintFrom 5 1 0

/-- Takes a text. -/
def text (field : String) : Access String := do
  let length := (← varuint).toNat
  let unread ← get
  if unread.length < length then throw (.lengthExceeds field length unread.length)
  else
    let (body, rest) ← split length
    match Utf8.decode body with
    | .error fault => throw (.notUtf8 field fault)
    | .ok s =>
      set rest
      return String.ofList s

/-- Takes a presence byte, and the text if there is one. -/
def optionalText (field : String) : Access (Option String) := do
  let flag ← byte field
  if flag = 0 then return none
  else if flag = 1 then return some (← text field)
  else throw (.badFlag field flag)

/-- Takes an item of a shape. -/
def item (field : String) : Item.Shape → Access Item
  | .number => return .number (← varuint)
  | .text => return .text (← text field)
  | .optionalText => return .optionalText (← optionalText field)

/-- The outcome on the unread bytes and the bytes left, unless an access has failed. -/
def result (c : Access α) (bs : Bytes) : Option (Except Fault α × Bytes) :=
  c.run.run bs

/-- On the unread bytes `bs` every access finds its bytes, and the outcome is that of `g`. -/
def SafeAt (c : Access α) (g : Get α) (bs : Bytes) : Prop :=
  c.result bs = some (g.result bs)

/-! ## Steps -/

theorem result_bind (c : Access α) (f : α → Access β) (bs : Bytes) :
    (c >>= f).result bs = (c.result bs).bind fun
      | (.ok a, mid) => (f a).result mid
      | (.error e, mid) => some (.error e, mid) := by
  change (c.result bs).bind (fun p => (ExceptT.bindCont f p.1).run p.2) = _
  refine congrArg _ (funext fun p => ?_)
  rcases p with ⟨_ | _, _⟩ <;> rfl

theorem safe_pure (a : α) (bs : Bytes) : SafeAt (pure a) (pure a) bs := rfl

theorem safe_throw (e : Fault) (bs : Bytes) : SafeAt (throw e : Access α) (throw e) bs := rfl

/-- Behind a safe step it is enough to look at what that step takes. -/
theorem safe_bind {c : Access α} {g : Get α} {c' : α → Access β} {g' : α → Get β} {bs : Bytes}
    (h : SafeAt c g bs) (h' : ∀ a mid, g.Takes bs a mid → SafeAt (c' a) (g' a) mid) :
    SafeAt (c >>= c') (g >>= g') bs := by
  unfold SafeAt at h ⊢
  rw [result_bind, Get.result_bind, h, Option.bind_some]
  rcases hr : g.result bs with ⟨e | a, mid⟩
  · rfl
  · exact h' a mid hr

theorem safe_get_bind {c : Bytes → Access β} {g : Bytes → Get β} {bs : Bytes}
    (h : SafeAt (c bs) (g bs) bs) : SafeAt (get >>= c) (get >>= g) bs :=
  h

theorem safe_set_bind {next : Bytes} {c : Unit → Access β} {g : Unit → Get β} {bs : Bytes}
    (h : SafeAt (c ()) (g ()) next) : SafeAt (set next >>= c) (set next >>= g) bs :=
  h

/-- As many bytes as there are can be split off. -/
theorem safe_split_bind {n : ℕ} {c : Bytes × Bytes → Access β} {g : Get β} {bs : Bytes}
    (hn : n ≤ bs.length) (h : SafeAt (c (bs.take n, bs.drop n)) g bs) :
    SafeAt (split n >>= c) g bs := by
  have hsplit : (split n).result bs = some (.ok (bs.take n, bs.drop n), bs) := by
    change (if n ≤ bs.length then pure (bs.take n, bs.drop n) else behindEnd :
      Access (Bytes × Bytes)).result bs = _
    rw [if_pos hn]
    rfl
  unfold SafeAt
  rw [result_bind, hsplit]
  exact h

/-! ## Readers -/

theorem safe_byte (what : String) (bs : Bytes) : SafeAt (byte what) (getByte what) bs := by
  cases bs with
  | nil => rfl
  | cons b rest => rfl

theorem safe_varuintFrom (left weight value : ℕ) (bs : Bytes) :
    SafeAt (varuintFrom left weight value) (getVaruintFrom left weight value) bs := by
  induction left generalizing weight value bs with
  | zero => exact safe_throw _ _
  | succ left ih =>
    rw [varuintFrom, getVaruintFrom]
    refine safe_bind (safe_byte _ _) fun b mid _ => ?_
    dsimp only
    split_ifs
    · exact safe_pure _ _
    · exact safe_throw _ _
    · exact ih _ _ _

theorem safe_varuint (bs : Bytes) : SafeAt varuint getVaruint bs :=
  safe_varuintFrom 5 1 0 bs

/-- The announced bytes are split off only where there are as many. -/
theorem safe_text (field : String) (bs : Bytes) : SafeAt (text field) (getText field) bs := by
  refine safe_bind (safe_varuint bs) fun v mid _ => safe_get_bind ?_
  split_ifs with hlen
  · exact safe_throw _ _
  · refine safe_split_bind (Nat.le_of_not_lt hlen) ?_
    dsimp only
    cases Utf8.decode (mid.take v.toNat) with
    | error fault => exact safe_throw _ _
    | ok s => exact safe_set_bind (safe_pure _ _)

theorem safe_optionalText (field : String) (bs : Bytes) :
    SafeAt (optionalText field) (getOptionalText field) bs := by
  refine safe_bind (safe_byte field bs) fun flag mid _ => ?_
  split_ifs
  · exact safe_pure _ _
  · exact safe_bind (safe_text field mid) fun s rest _ => safe_pure _ _
  · exact safe_throw _ _

/-- No reader accesses a byte behind the end, whatever the bytes announce. -/
theorem safe_item (field : String) (shape : Item.Shape) (bs : Bytes) :
    SafeAt (item field shape) (Item.get field shape) bs := by
  cases shape with
  | number => exact safe_bind (safe_varuint bs) fun n rest _ => safe_pure _ _
  | text => exact safe_bind (safe_text field bs) fun s rest _ => safe_pure _ _
  | optionalText => exact safe_bind (safe_optionalText field bs) fun s? rest _ => safe_pure _ _

end Access

end OffchainSeal.Wire
