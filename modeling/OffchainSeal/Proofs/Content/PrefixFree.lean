import OffchainSeal.Proofs.Sealing.RoundTrip
import OffchainSeal.Proofs.Wire.Cut

/-!
# No binary form begins another

The bytes of content end where its last field ends, and the reader finds that place from
the bytes in front of it. So of two byte strings that both read as content of one kind
neither begins the other.

* `needsAll_getRow`: the reader of rows needs all it takes.
* `Isolated`: the byte strings that begin with a given one, and those it begins with, are
  rejected with `serialization`.
* `accepted_prefix_free`: whatever is accepted is isolated, and so is whatever is written.
-/

namespace OffchainSeal

open Wire

/-! ## Rows -/

namespace Content

theorem needsAll_getValue (name : String) (p : Presence) : (Row.getValue name p).NeedsAll := by
  cases p with
  | required => exact needsAll_getText name
  | optional => exact needsAll_getOptionalText name

theorem needsAll_getRow (fs : Schema) : (Row.get fs).NeedsAll := by
  induction fs with
  | nil => exact needsAll_pure _
  | cons f fs ih =>
    refine needsAll_bind (needsAll_getValue f.name f.presence) fun value => ?_
    exact needsAll_bind ih fun row => needsAll_pure _

end Content

/-! ## Isolated byte strings -/

variable {α β : Type}

/-- Every proper prefix of the bytes is rejected because there are not enough, and
everything that goes on behind them because there are too many. -/
structure Isolated (read : Bytes → Except Failure α) (bs : Bytes) : Prop where
  cut : ∀ cut, cut <+: bs → cut ≠ bs →
    ∃ fault : Fault, fault.IsShortage ∧ read cut = .error (.serialization fault.message)
  extend : ∀ extra, extra ≠ [] →
    read (bs ++ extra) = .error (.serialization (Fault.trailing extra.length).message)

/-- All that is accepted is isolated. -/
def PrefixFree (read : Bytes → Except Failure α) : Prop :=
  ∀ bs a, read bs = .ok a → Isolated read bs

/-- Of what is accepted nothing begins anything else. -/
theorem PrefixFree.eq_of_begins {read : Bytes → Except Failure α} (h : PrefixFree read)
    {bs bs' : Bytes} {a a' : α} (ha : read bs = .ok a) (ha' : read bs' = .ok a')
    (hbegins : bs <+: bs') : bs = bs' := by
  by_contra hne
  obtain ⟨fault, -, hcut⟩ := (h bs' a' ha').cut bs hbegins hne
  rw [ha] at hcut
  cases hcut

/-- A reader that needs all it takes isolates what it accepts, whatever is then made of
the value. -/
theorem prefixFree_of_needsAll {g : Get α} (hg : g.NeedsAll) (f : α → β) :
    PrefixFree fun bs => ((g.ofBytes bs).map f).mapError Failure.ofWire := by
  intro bs b h
  obtain ⟨a, ha, -⟩ := Except.map_eq_ok_iff.mp (Except.mapError_eq_ok_iff.mp h)
  constructor
  · rintro cut ⟨missing, rfl⟩ hne
    have hmissing : missing ≠ [] := fun e => hne (by rw [e, List.append_nil])
    obtain ⟨fault, hshort, hfault⟩ := hg.ofBytes_cut ha hmissing
    exact ⟨fault, hshort, by rw [hfault]; rfl⟩
  · intro extra hne
    rw [hg.ofBytes_append ha hne]
    rfl

/-! ## Payloads and content -/

theorem Payload.prefixFree [Payload α] :
    PrefixFree fun bs => (Payload.ofBytes bs : Except Fault α).mapError Failure.ofWire :=
  prefixFree_of_needsAll (Content.needsAll_getRow _) Payload.ofRow

namespace Content

theorem ofBytes_eq_map (kind : Kind) (bs : Bytes) :
    ofBytes kind bs = ((Row.get kind.schema).ofBytes bs).map (ofRow kind) := by
  cases kind <;> exact Except.map_map

theorem prefixFree (kind : Kind) :
    PrefixFree fun bs => (ofBytes kind bs).mapError Failure.ofWire := by
  simp only [ofBytes_eq_map]
  exact prefixFree_of_needsAll (needsAll_getRow _) (ofRow kind)

/-- Among the byte strings that read as content of a kind none begins another one. Cut
short anywhere they are rejected with `serialization` because there are not enough bytes,
and with anything behind them because there are too many; so it is with the bytes that are
written for content, and with the two types of payloads. -/
theorem accepted_prefix_free (kind : Kind) :
    (∀ bs bs' c c', (ofBytes kind bs).mapError Failure.ofWire = .ok c →
        (ofBytes kind bs').mapError Failure.ofWire = .ok c' → bs <+: bs' → bs = bs') ∧
      (∀ bs c, (ofBytes kind bs).mapError Failure.ofWire = .ok c →
        Isolated (fun bs => (ofBytes kind bs).mapError Failure.ofWire) bs) ∧
      (∀ (c : Content) bs, c.kind = kind → c.toBytes = .ok bs →
        Isolated (fun bs => (ofBytes kind bs).mapError Failure.ofWire) bs) ∧
      PrefixFree (fun bs =>
        (Payload.ofBytes bs : Except Fault FundsRequest).mapError Failure.ofWire) ∧
      PrefixFree (fun bs =>
        (Payload.ofBytes bs : Except Fault TransferRecord).mapError Failure.ofWire) := by
  have hfree := prefixFree kind
  refine ⟨fun bs bs' c c' h h' hbegins => hfree.eq_of_begins h h' hbegins, hfree, ?_,
    Payload.prefixFree, Payload.prefixFree⟩
  intro c bs hk h
  have hread := ofBytes_of_toBytes h
  rw [hk] at hread
  exact hfree bs c (Except.mapError_eq_ok_iff.mpr hread)

end Content
end OffchainSeal
