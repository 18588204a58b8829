import OffchainSeal.Wire.Fault

/-!
# Reading the binary form

A reader is a step on the unread bytes. Every access is checked against the end
of the bytes. A step that fails leaves the state it had reached: the bytes of a
flag or of a number stay consumed, the bytes of a text do not.
-/

namespace OffchainSeal.Wire

/-- A step that takes from the unread bytes and may fail. -/
abbrev Get := ExceptT Fault (StateM Bytes)

/-- Takes one byte. -/
def getByte (what : String) : Get UInt8 := do
  match ← get with
  | [] => throw (.endOfData what)
  | b :: rest =>
    set rest
    return b

/-- Takes at most `left` more bytes of a number. The next byte counts `weight`,
those before it make `value`. -/
def getVaruintFrom : Nat → Nat → Nat → Get UInt32
  | 0, _, _ => throw .varuintTooLong
  | left + 1, weight, value => do
    let b ← getByte "varuint32"
    let value := value + weight * (b.toNat % 128)
    if b < 128 then
      if value < wordLimit then return UInt32.ofNat value else throw .varuintOverflow
    else getVaruintFrom left (128 * weight) value

/-- Takes a number of at most five bytes. -/
def getVaruint : Get UInt32 :=
  getVaruintFrom 5 1 0

/-- Takes a text. -/
def getText (field : String) : Get String := do
  let length := (← getVaruint).toNat
  let rest ← get
  if rest.length < length then throw (.lengthExceeds field length rest.length)
  else
    match Utf8.decode (rest.take length) with
    | .error fault => throw (.notUtf8 field fault)
    | .ok s =>
      set (rest.drop length)
      return String.ofList s

/-- Takes a presence byte, and the text if there is one. -/
def getOptionalText (field : String) : Get (Option String) := do
  let flag ← getByte field
  if flag = 0 then return none
  else if flag = 1 then return some (← getText field)
  else throw (.badFlag field flag)

/-- Succeeds at the end of the bytes only. -/
def finish : Get Unit := do
  match ← get with
  | [] => return ()
  | rest => throw (.trailing rest.length)

/-- What a reader makes of `bs`, all of which it has to take. -/
def Get.ofBytes {α : Type} (g : Get α) (bs : Bytes) : Except Fault α :=
  ((do let a ← g; finish; return a : Get α).run.run bs).1

end OffchainSeal.Wire
