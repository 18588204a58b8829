import OffchainSeal.Command.Line
import OffchainSeal.Proofs.Bytes.Hex
import OffchainSeal.Proofs.Key.Public

/-!
# Lines that ask to seal and to open

The texts of keys and of envelopes do not begin with a dash, also with blanks in front of
them, so a command line takes them for what they are.

* `Word.ofString_of_key`, `Word.ofString_of_envelope`: such texts are plain words.
* `parse_encrypt`, `parse_decrypt`: the lines of the two commands with their options in the
  usual order.
-/

namespace OffchainSeal.CommandLine

/-! ## Plain words -/

theorem Word.ofString_of_head {s : String} (h : s.toList.head? ≠ some '-') :
    Word.ofString s = .plain := by
  unfold Word.ofString
  generalize s.toList = cs at h
  split
  · exact absurd rfl h
  · exact absurd rfl h
  · exact absurd rfl h
  · rfl

/-- A word is as plain as it is without the blanks around it. -/
theorem Word.ofString_of_trim {s : String} {c : Char} {cs : List Char}
    (h : Text.trim s.toList = c :: cs) (hc : c ≠ '-') : Word.ofString s = .plain := by
  apply Word.ofString_of_head
  intro hdash
  obtain ⟨rest, hs⟩ := List.head?_eq_some_iff.mp hdash
  have hlead := Text.trim_prefix s.toList
  rw [h, hs, List.dropWhile_cons_of_neg (by decide)] at hlead
  exact hc (List.cons_prefix_cons.mp hlead).1

theorem Word.ofString_of_key {s : String} {key : PublicKey} (h : PublicKey.ofString s = .ok key) :
    Word.ofString s = .plain := by
  obtain ⟨typed, bs, -, htrim⟩ := PublicKey.decode_eq_ok_iff.mp h
  cases typed with
  | false => exact Word.ofString_of_trim htrim (by decide)
  | true => exact Word.ofString_of_trim htrim (by decide)

theorem ne_dash_of_isDigit {c : Char} {n : ℕ} (h : Hex.IsDigit c n) : c ≠ '-' := by
  have hn := h.lt
  rcases h with h | h <;> interval_cases n <;> cases h <;> decide

theorem Word.ofString_of_envelope {s : String} {bs : Bytes}
    (h : Hex.Denotes (Text.trim s.toList) bs) (hbs : bs ≠ []) : Word.ofString s = .plain := by
  rcases htrim : Text.trim s.toList with _ | ⟨c, cs⟩
  · rw [htrim] at h
    cases h
    exact absurd rfl hbs
  · obtain ⟨n, hn⟩ := h.isDigit c (htrim ▸ List.mem_cons_self)
    exact Word.ofString_of_trim htrim (ne_dash_of_isDigit hn)

theorem Word.ofString_of_kind (kind : Content.Kind) : Word.ofString kind.name = .plain := by
  cases kind <;> rfl

/-! ## Lines -/

namespace Progress

variable {verb : Verb} {p : Progress} {a : String} {rest : List String}

/-- Behind the command, every argument is read by its looks. -/
theorem readAll_under :
    readAll (.under verb) false p (a :: rest) =
      match Word.ofString a with
      | .terminator => readAll (.under verb) true p rest
      | .long name value =>
        p.readLong (.under verb) name value >>= (readAll (.under verb) false · rest)
      | .letters cs => readLetters (.under verb) p cs >>= (readAll (.under verb) false · rest)
      | .plain => p.readPlain (.under verb) a >>= (readAll (.under verb) false · rest) := by
  rfl

/-- An option and its value; the value is settled when the next argument comes. -/
theorem readAll_option {name value : String} {slot : Slot}
    (ha : Word.ofString a = .long name none) (hslot : (Level.under verb).slot? name = some slot)
    (hvalue : Word.ofString value = .plain) {g : Given} (hsettle : p.settle = .ok g) :
    readAll (.under verb) false p (a :: value :: rest) =
      readAll (.under verb) false ⟨g, some (slot, some value)⟩ rest := by
  have hlong : p.readLong (.under verb) name none = .ok ⟨g, some (slot, none)⟩ := by
    unfold readLong
    rw [hslot, hsettle]
    rfl
  rw [readAll_under, ha]
  dsimp only
  rw [hlong, Except.ok_bind, readAll_under, hvalue]
  rfl

end Progress

theorem ofString_name (kind : Content.Kind) : Content.Kind.ofString kind.name = .ok kind := by
  have hnames : Content.Kind.ofString "new_funds_content" = .ok .fundsRequest ∧
      Content.Kind.ofString "record_obt_data_content" = .ok .transferRecord := by
    decide +kernel
  cases kind with
  | fundsRequest => exact hnames.1
  | transferRecord => exact hnames.2

theorem put_kind (g : Given) (kind : Content.Kind) (h : g.kind = none) :
    g.put .kind kind.name = .ok { g with kind := some kind } := by
  unfold Given.put once
  dsimp only
  rw [h, ofString_name]
  rfl

section

variable (environment : Option String) (kind : Content.Kind)

/-- The kind of content and the text of the other party's key. -/
theorem readAll_parties (verb : Verb) {option name text : String} {slot : Slot}
    (hkind : (Level.under verb).slot? "type" = some .kind)
    (hoption : Word.ofString option = .long name none)
    (hslot : (Level.under verb).slot? name = some slot) (htext : Word.ofString text = .plain)
    (rest : List String) :
    Progress.readAll (.under verb) false .start ("--type" :: kind.name :: option :: text :: rest) =
      Progress.readAll (.under verb) false
        ⟨{ Given.nothing with kind := some kind }, some (slot, some text)⟩ rest := by
  have htype : Word.ofString "--type" = .long "type" none := rfl
  rw [Progress.readAll_option htype hkind (Word.ofString_of_kind kind) rfl]
  exact Progress.readAll_option hoption hslot htext (put_kind _ kind rfl)

theorem parse_encrypt {recipient : String} (h : Word.ofString recipient = .plain) :
    parse environment ["encrypt", "--type", kind.name, "--to", recipient] =
      .ok ⟨.encrypt kind recipient .standard, ⟨none, false, false, none, environment, none⟩⟩ := by
  have hread := readAll_parties kind .encrypt rfl
    (rfl : Word.ofString "--to" = .long "to" none) rfl h []
  show invocation .start .encrypt _ environment = _
  unfold invocation
  rw [hread]
  cases environment <;> rfl

theorem parse_decrypt {sender envelope : String}
    (hsender : Word.ofString sender = .plain) (henvelope : Word.ofString envelope = .plain) :
    parse environment ["decrypt", "--type", kind.name, "--from", sender, envelope] =
      .ok ⟨.decrypt kind sender (.text envelope),
        ⟨none, false, false, none, environment, none⟩⟩ := by
  have hread := readAll_parties kind .decrypt rfl
    (rfl : Word.ofString "--from" = .long "from" none) rfl hsender [envelope]
  rw [@Progress.readAll_under _ _ envelope, henvelope] at hread
  show invocation .start .decrypt _ environment = _
  unfold invocation
  rw [hread]
  cases environment <;> rfl

end
end OffchainSeal.CommandLine
