import OffchainSeal.Curve.Point
import OffchainSeal.Key.Checked
import OffchainSeal.Text.Blank

/-!
# Public keys

A public key is a finite point of the curve. Its compressed form has a byte for
the parity of the second coordinate and the thirty-two bytes of the first. As a
text it carries the tag `FIO` or the typed tag `PUB_K1_`, and a checksum.
-/

namespace OffchainSeal

open Curve

/-- A finite point of the curve. -/
structure PublicKey where
  x : FieldElement
  y : FieldElement
  onCurve : OnCurve x y
  deriving DecidableEq

namespace PublicKey

/-- The key as a point. -/
def toPoint (p : PublicKey) : Point :=
  .affine p.x p.y

/-- The key at a point, if the point is finite and on the curve. -/
def ofPoint? : Point → Option PublicKey
  | .infinity => none
  | .affine x y => if h : OnCurve x y then some ⟨x, y, h⟩ else none

/-- The base point as a key. -/
def base : PublicKey :=
  ⟨baseX, baseY, onCurve_base⟩

/-! ## The compressed form -/

/-- The compressed form: 2 or 3 for the parity of `y`, then `x`. -/
def toBytes (p : PublicKey) : Bytes :=
  (if p.y.isOdd then 3 else 2) :: Bytes.ofNat 32 p.x.val

/-- The point with first coordinate `x` whose second coordinate is odd as told. -/
def lift? (x : Nat) (odd : Bool) : Option PublicKey :=
  if x < fieldPrime then
    let x := Fin.ofNat fieldPrime x
    match FieldElement.sqrt? (cubic x) with
    | none => none
    | some r => ofPoint? (.affine x (if r.isOdd = odd then r else -r))
  else none

/-- The point of a compressed form. The byte 5 tells the compact form, which is
the one with an even second coordinate. -/
def ofBytes (bs : Bytes) : Except Key.Fault PublicKey :=
  if bs.length ≠ 33 then .error (.pointLength bs.length)
  else
    let x := Bytes.toNat (bs.drop 1)
    let key? :=
      match bs.head? with
      | some 2 => lift? x false
      | some 3 => lift? x true
      | some 5 => lift? x false
      | _ => none
    match key? with
    | some p => .ok p
    | none => .error .offCurve

/-! ## Texts -/

/-- The tag of the plain form. -/
def plainTag : List Char := "FIO".toList

/-- The tag of the typed form. -/
def typedTag : List Char := "PUB_K1_".toList

/-- What all typed forms begin with. -/
def anyTypedTag : List Char := "PUB_".toList

/-- The plain form. -/
def toPlain (p : PublicKey) : List Char :=
  plainTag ++ Key.encodeChecked p.toBytes []

/-- The typed form. -/
def toTyped (p : PublicKey) : List Char :=
  typedTag ++ Key.encodeChecked p.toBytes Key.curveTag

/-- The key that a text stands for, blanks around it aside. -/
def decode (text : List Char) : Except Key.Fault PublicKey :=
  let s := Text.trim text
  match Text.after? typedTag s with
  | some body => do ofBytes (← Key.decodeChecked body 33 Key.curveTag)
  | none =>
    match Text.after? plainTag s with
    | some body => do ofBytes (← Key.decodeChecked body 33 [])
    | none =>
      match Text.after? anyTypedTag s with
      | some rest => .error (.otherCurve (rest.takeWhile (· ≠ '_')))
      | none => .error .untaggedPublic

/-- The key that a string stands for. -/
def ofString (s : String) : Except Key.Fault PublicKey :=
  decode s.toList

instance : ToString PublicKey := ⟨fun p => String.ofList p.toPlain⟩

/-- The key in reports. -/
def describe (p : PublicKey) : String :=
  s!"PublicKey({p})"

end PublicKey
end OffchainSeal
