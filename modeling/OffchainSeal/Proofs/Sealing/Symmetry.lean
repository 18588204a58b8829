import OffchainSeal.Proofs.Command.Session
import OffchainSeal.Proofs.Key.Agreement

/-!
# The two parties are alike

What a party computes from the own private and the other's public key is what the other
computes with the roles exchanged. Multiples are computed by doubling; on the points of keys
they are repeated additions, and so they commute.

* `PublicKey.multiple_succ`, `PublicKey.multiple_comm`: the laws of multiples.
* `openBytes_comm`, `sealBytesWith_comm`: either party opens and seals the same.
* `secret_symmetry`: all of this, and the same key material in reports.
-/

namespace OffchainSeal

open Curve

/-! ## Multiples -/

namespace PublicKey

variable (key : PublicKey)

/-- The multiples of the point of a key are repeated additions. -/
theorem multiple_succ (n : ℕ) :
    Point.multiple (n + 1) key.toPoint = Point.multiple n key.toPoint + key.toPoint := by
  obtain ⟨P, -, hP⟩ := key.exists_group
  rw [← hP, multiple_ofGroup, multiple_ofGroup, succ_nsmul, ofGroup_add]

theorem multiple_zero : Point.multiple 0 key.toPoint = .infinity := by
  rw [Point.multiple, if_pos rfl]

theorem multiple_multiple (k n : ℕ) :
    Point.multiple k (Point.multiple n key.toPoint) = Point.multiple (k * n) key.toPoint := by
  obtain ⟨P, -, hP⟩ := key.exists_group
  rw [← hP, multiple_ofGroup, multiple_ofGroup, multiple_ofGroup, mul_nsmul']

theorem multiple_comm (k n : ℕ) :
    Point.multiple k (Point.multiple n key.toPoint) =
      Point.multiple n (Point.multiple k key.toPoint) := by
  rw [multiple_multiple, multiple_multiple, Nat.mul_comm]

end PublicKey

/-! ## Byte strings -/

section

variable (a b : PrivateKey)

theorem agree_comm : agree a b.publicKey = agree b a.publicKey := by
  unfold agree
  rw [SharedSecret.derive?_comm]

theorem openBytes_comm (framed : Bytes) :
    openBytes a b.publicKey framed = openBytes b a.publicKey framed := by
  unfold openBytes openEnvelope
  rw [agree_comm]

theorem sealBytesWith_comm (iv : Cipher.Block) (text : Bytes) :
    sealBytesWith a b.publicKey iv text = sealBytesWith b a.publicKey iv text := by
  unfold sealBytesWith
  rw [agree_comm]

end

/-! ## Main result -/

/-- Two parties have one common point and one secret; they open and seal byte strings alike,
and report the same key material, each from any text of the other's key. -/
theorem secret_symmetry {m : Type → Type} [Monad m] [LawfulMonad m] (a b : PrivateKey) :
    (∀ (key : PublicKey) (k n : ℕ),
        Point.multiple 0 key.toPoint = .infinity ∧
        Point.multiple (n + 1) key.toPoint = Point.multiple n key.toPoint + key.toPoint ∧
        Point.multiple k (Point.multiple n key.toPoint) =
          Point.multiple n (Point.multiple k key.toPoint)) ∧
      Point.multiple a.scalar b.publicKey.toPoint =
        Point.multiple b.scalar a.publicKey.toPoint ∧
      agree a b.publicKey = agree b a.publicKey ∧
      (∀ framed, openBytes a b.publicKey framed = openBytes b a.publicKey framed) ∧
      (∀ iv text, sealBytesWith a b.publicKey iv text = sealBytesWith b a.publicKey iv text) ∧
      ∀ sA sB, PublicKey.ofString sA = .ok a.publicKey →
        PublicKey.ofString sB = .ok b.publicKey → ∃ secret,
          SharedSecret.derive? a b.publicKey = some secret ∧
          (secretReport a sB : Session m Report) = pure (secret.report b.publicKey) ∧
          (secretReport b sA : Session m Report) = pure (secret.report a.publicKey) := by
  refine ⟨fun key k n => ⟨key.multiple_zero, key.multiple_succ n, key.multiple_comm k n⟩,
    multiple_publicKey_comm a b, agree_comm a b, openBytes_comm a b, sealBytesWith_comm a b, ?_⟩
  intro sA sB hA hB
  obtain ⟨secret, hab, hba⟩ := SharedSecret.exists_common a b
  exact ⟨secret, hab, secretReport_of_secret hB hab, secretReport_of_secret hA hba⟩

/-- The holders of the private keys 1 and 2, from a plain and a typed text. -/
theorem secret_symmetry_one_two :
    let a : PrivateKey := ⟨1, by decide, by decide⟩
    let b : PrivateKey := ⟨2, by decide, by decide⟩
    let sA := "FIO5p78kHbL33Rn3JWkTWRE2B9uz6gy4r1KbfAKLNQGE3ovMBS5bu"
    let sB := String.ofList b.publicKey.toTyped ++ " "
    PublicKey.ofString sA = .ok a.publicKey ∧ PublicKey.ofString sB = .ok b.publicKey ∧
      ∃ secret : SharedSecret,
        (secretReport a sB : Session Id Report) = pure (secret.report b.publicKey) ∧
        (secretReport b sA : Session Id Report) = pure (secret.report a.publicKey) := by
  intro a b sA sB
  obtain ⟨hA, hB⟩ : PublicKey.ofString sA = .ok a.publicKey ∧
      PublicKey.ofString sB = .ok b.publicKey := by
    decide +kernel
  obtain ⟨-, -, -, -, -, hreports⟩ := secret_symmetry (m := Id) a b
  obtain ⟨secret, -, ha, hb⟩ := hreports sA sB hA hB
  exact ⟨hA, hB, secret, ha, hb⟩

end OffchainSeal
