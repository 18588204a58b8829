import OffchainSeal.Proofs.Command.Session
import OffchainSeal.Proofs.Utf8

/-!
# What a run reads

A command reads the text of the own key, a text from its input and a vector from the random
source. Each of them may be missing, and a text is missing too if its bytes are not UTF-8.

* `Readings`: what a command found in its surroundings.
* `Command.readings_encrypt` and its like: the readings of a command from the answers.
* `Identity.loadKey_run`, `Input.read_run`, `EnvelopeSource.read_run`: the readers of the
  program give what was found, or end the run.
* `EnvelopeSource.Delivers`: an argument, a file or the standard input holds a text.
-/

namespace OffchainSeal

/-! ## Readings -/

section

variable {m : Type → Type} [Monad m] (host : Host m)

/-- The text of the own key. -/
def Identity.keyText? (identity : Identity) : m (Option String) :=
  match identity.privateKey, identity.keyFile with
  | some text, _ => return some text
  | none, some path => return (← host.readText path).toOption
  | none, none => return none

/-- The text of an input. -/
def Input.text? : Input → m (Option String)
  | .standard => return (← host.readInputText).toOption
  | .file path => return (← host.readText path).toOption

/-- The text of an envelope. -/
def EnvelopeSource.text? : EnvelopeSource → m (Option String)
  | .text envelope => return some envelope
  | .input place => place.text? host

/-- What a command found in its surroundings. -/
structure Readings where
  keyText? : Option String
  input? : Option String
  vector? : Option Cipher.Block

/-- What a command reads, one after the other. -/
def Command.readings (identity : Identity) : Command → m Readings
  | .keygen => return ⟨none, none, none⟩
  | .pubkey | .secret _ => return ⟨← identity.keyText? host, none, none⟩
  | .encrypt _ _ input =>
    return ⟨← identity.keyText? host, ← input.text? host, ← host.newVector⟩
  | .decrypt _ _ source => return ⟨← identity.keyText? host, ← source.text? host, none⟩

end

section

variable {σ : Type} {host : Host (StateM σ)} {identity : Identity} {s s₁ s₂ s₃ : σ}
  {key? text? : Option String}

theorem Command.readings_pubkey (hkey : (identity.keyText? host).run s = (key?, s₁)) :
    ((Command.pubkey.readings host identity).run s).1 = ⟨key?, none, none⟩ := by
  unfold Command.readings
  rw [StateT.run_bind, hkey]
  rfl

theorem Command.readings_secret (peer : String)
    (hkey : (identity.keyText? host).run s = (key?, s₁)) :
    (((Command.secret peer).readings host identity).run s).1 = ⟨key?, none, none⟩ := by
  unfold Command.readings
  rw [StateT.run_bind, hkey]
  rfl

theorem Command.readings_encrypt (kind : Content.Kind) (recipient : String) {input : Input}
    {vector? : Option Cipher.Block} (hkey : (identity.keyText? host).run s = (key?, s₁))
    (hinput : (input.text? host).run s₁ = (text?, s₂))
    (hvector : host.newVector.run s₂ = (vector?, s₃)) :
    (((Command.encrypt kind recipient input).readings host identity).run s).1 =
      ⟨key?, text?, vector?⟩ := by
  unfold Command.readings
  rw [StateT.run_bind, hkey]
  show ((input.text? host >>= fun text? => host.newVector >>= fun vector? =>
    pure (⟨key?, text?, vector?⟩ : Readings)).run s₁).1 = _
  rw [StateT.run_bind, hinput]
  show ((host.newVector >>= fun vector? => pure (⟨key?, text?, vector?⟩ : Readings)).run s₂).1 = _
  rw [StateT.run_bind, hvector]
  rfl

theorem Command.readings_decrypt (kind : Content.Kind) (sender : String) {source : EnvelopeSource}
    (hkey : (identity.keyText? host).run s = (key?, s₁))
    (hinput : (source.text? host).run s₁ = (text?, s₂)) :
    (((Command.decrypt kind sender source).readings host identity).run s).1 =
      ⟨key?, text?, none⟩ := by
  unfold Command.readings
  rw [StateT.run_bind, hkey]
  show ((source.text? host >>= fun text? => pure (⟨key?, text?, none⟩ : Readings)).run s₁).1 = _
  rw [StateT.run_bind, hinput]
  rfl

end

/-! ## The readers of the program -/

section

variable {σ : Type} {host : Host (StateM σ)} {s s' : σ}

/-- A question to the host, and what comes after its answer. -/
theorem run_lift_bind {α β : Type} {question : StateM σ α} {a : α}
    (h : question.run s = (a, s')) (next : α → ExceptT Trouble (StateM σ) β) :
    (ExceptT.lift question >>= next).run.run s = (next a).run.run s' := by
  show ((question >>= fun a => pure (Except.ok a)) >>= ExceptT.bindCont next).run s = _
  rw [bind_assoc, StateT.run_bind, h]
  rfl

/-- How the loading of the own key ends, given the text that was found. -/
def KeyResult (text? : Option String) (result : Except Trouble PrivateKey) : Prop :=
  match text?.map PrivateKey.ofString with
  | none => ∃ t, result = .error t ∧ t.exit = .generalError
  | some (.error _) => ∃ t, result = .error t ∧ t.exit = .invalidKey
  | some (.ok own) => result = .ok own

theorem keyResult_parseKey (context text : String) :
    KeyResult (some text) (Identity.parseKey context text) := by
  unfold KeyResult Identity.parseKey
  rw [Option.map_some]
  rcases PrivateKey.ofString text with fault | own
  · exact ⟨_, rfl, rfl⟩
  · rfl

theorem Identity.loadKey_run {identity : Identity} {text? : Option String}
    (h : (identity.keyText? host).run s = (text?, s')) :
    ∃ result, (identity.loadKey host).run.run s = (result, s') ∧ KeyResult text? result := by
  obtain ⟨key, file⟩ := identity
  rcases key with _ | text
  · rcases file with _ | path
    · cases h
      exact ⟨_, rfl, _, rfl, rfl⟩
    · rcases hread : (host.readText path).run s with ⟨answer, s₁⟩
      have hrun : (Identity.loadKey host ⟨none, some path⟩).run.run s = _ :=
        run_lift_bind hread _
      have htext : (Identity.keyText? host ⟨none, some path⟩).run s = (answer.toOption, s₁) := by
        unfold Identity.keyText?
        rw [StateT.run_bind, hread]
        rfl
      rw [h, Prod.mk.injEq] at htext
      obtain ⟨rfl, rfl⟩ := htext
      rw [hrun]
      rcases answer with fault | text
      · exact ⟨_, rfl, _, rfl, rfl⟩
      · exact ⟨_, rfl, keyResult_parseKey _ text⟩
  · cases h
    exact ⟨_, rfl, keyResult_parseKey _ text⟩

/-- How the reading of a text ends, given the text that was found. -/
def TextResult (text? : Option String) (result : Except Trouble String) : Prop :=
  match text? with
  | none => ∃ t, result = .error t ∧ t.exit = .generalError
  | some text => result = .ok text

/-- A text is asked for, and a fault is trouble in some context. -/
theorem run_readWithin {question : StateM σ (Except FileFault String)} {text? : Option String}
    (h : (question >>= fun answer => pure answer.toOption).run s = (text?, s'))
    (context : String) :
    ∃ result, (ExceptT.lift question >>= fun
        | .ok text => pure text
        | .error fault => throw ((Trouble.ofCause (.file fault)).within context) :
          ExceptT Trouble (StateM σ) String).run.run s = (result, s') ∧
      TextResult text? result := by
  rcases hread : question.run s with ⟨answer, s₁⟩
  rw [StateT.run_bind, hread] at h
  cases h
  rw [run_lift_bind hread]
  rcases answer with fault | text
  · exact ⟨_, rfl, _, rfl, rfl⟩
  · exact ⟨_, rfl, rfl⟩

theorem Input.read_run {input : Input} {text? : Option String}
    (h : (input.text? host).run s = (text?, s')) :
    ∃ result, (input.read host).run.run s = (result, s') ∧ TextResult text? result := by
  cases input with
  | standard => exact run_readWithin h "reading stdin"
  | file path => exact run_readWithin h s!"reading {path}"

theorem EnvelopeSource.read_run {source : EnvelopeSource} {text? : Option String}
    (h : (source.text? host).run s = (text?, s')) :
    ∃ result, (source.read host).run.run s = (result, s') ∧ TextResult text? result := by
  cases source with
  | text envelope =>
    cases h
    exact ⟨_, rfl, rfl⟩
  | input place =>
    obtain ⟨result, hrun, hresult⟩ := Input.read_run h
    refine ⟨result.mapError (Trouble.within "reading envelope"), ?_, ?_⟩
    · show ((place.read host).run >>= fun r => pure (r.mapError _)).run s = _
      rw [StateT.run_bind, hrun]
      rfl
    · cases text? with
      | none =>
        obtain ⟨t, rfl, hexit⟩ := hresult
        exact ⟨_, rfl, hexit⟩
      | some text =>
        have hok : result = .ok text := hresult
        rw [hok]
        exact rfl

end

/-! ## Delivery -/

section

variable {σ : Type} (host : Host (StateM σ)) (s : σ) (text : String)

/-- Asked in the state `s`, an input holds the bytes of a text; the answer leaves a state. -/
inductive Input.Delivers : Input → σ → Prop
  | standard {s' : σ} : host.inputBytes.run s = (.ok (Utf8.encode text.toList), s') →
      Delivers .standard s'
  | file {path : String} {s' : σ} :
      (host.bytesAt path).run s = (.ok (Utf8.encode text.toList), s') → Delivers (.file path) s'

/-- An argument is a text, or an input holds its bytes. -/
inductive EnvelopeSource.Delivers : EnvelopeSource → σ → Prop
  | text : Delivers (.text text) s
  | input {place : Input} {s' : σ} : place.Delivers host s text s' → Delivers (.input place) s'

variable {host s text} {s' : σ}

theorem textOfBytes_encode : textOfBytes (Utf8.encode text.toList) = .ok text := by
  unfold textOfBytes
  rw [Utf8.decode_encode]
  exact congrArg Except.ok String.ofList_toList

theorem Input.Delivers.text?_run {input : Input} (h : input.Delivers host s text s') :
    (input.text? host).run s = (some text, s') := by
  have hfound : ((Except.ok (Utf8.encode text.toList)).bind textOfBytes).toOption = some text := by
    show (textOfBytes (Utf8.encode text.toList)).toOption = some text
    rw [textOfBytes_encode]
    rfl
  cases h with
  | standard h =>
    show (host.readInputText >>= fun answer => pure answer.toOption).run s = _
    unfold Host.readInputText
    rw [StateT.run_bind, StateT.run_bind, h]
    exact congrArg (·, s') hfound
  | file h =>
    show (host.readText _ >>= fun answer => pure answer.toOption).run s = _
    unfold Host.readText
    rw [StateT.run_bind, StateT.run_bind, h]
    exact congrArg (·, s') hfound

theorem EnvelopeSource.Delivers.text?_run {source : EnvelopeSource}
    (h : source.Delivers host s text s') : (source.text? host).run s = (some text, s') := by
  cases h with
  | text => rfl
  | input h => exact h.text?_run

end

end OffchainSeal
