import Mathlib
import OffchainSeal.Command.Run
import OffchainSeal.Proofs.Sealing.Opening

/-!
# How parts of a run end

The parts of a run are put together by bind. Over surroundings with a state, which every
answer may change, a part ends with a value or at its trouble and leaves a state behind;
the notes it writes do not matter for that.

* `check_ok`, `throw_bind` and their like: parts of a run as equations, for any monad.
* `Ends`: how a part of a run ends.
* `Ends.bind_ok`, `Ends.bind_error`: a run goes on after a value and stops at trouble.
* `secretReport_of_secret`: what is reported of a secret.
* `sealContentFrom_of_ready`, `sealContentFrom_of_fault`: the host is asked for a vector exactly
  if the content has a binary form and the recipient a key.
* `Invocation.run_of_fault`, `Invocation.run_of_settings`: the outcome of a whole run.
-/

namespace OffchainSeal

namespace Session

/-! ## Equations -/

section

variable {m : Type → Type} [Monad m] {α β : Type}

theorem check_ok (a : α) : (check (.ok a) : Session m α) = pure a := rfl

theorem check_error (f : Failure) : (check (.error f) : Session m α) = throw (.ofFailure f) := rfl

theorem checkWithin_ok (context : String) (a : α) :
    (checkWithin context (.ok a) : Session m α) = pure a := rfl

/-- Nothing comes after trouble. -/
theorem throw_bind [LawfulMonad m] (t : Trouble) (next : α → Session m β) :
    (throw t : Session m α) >>= next = throw t := by
  apply ExceptT.ext
  rw [ExceptT.run_bind, ExceptT.run_throw, pure_bind]
  rfl

theorem run_ok_bind {ε : Type} [LawfulMonad m] (a : α) (next : α → ExceptT ε m β) :
    (liftM (Except.ok a : Except ε α) >>= next).run = (next a).run := by
  show (pure (Except.ok a) >>= ExceptT.bindCont next) = _
  rw [pure_bind]
  rfl

theorem run_error_bind {ε : Type} [LawfulMonad m] (e : ε) (next : α → ExceptT ε m β) :
    (liftM (Except.error e : Except ε α) >>= next).run = pure (.error e) := by
  show (pure (Except.error e) >>= ExceptT.bindCont next) = _
  rw [pure_bind]
  rfl

end

/-! ## Runs with a state -/

variable {σ α β : Type}

/-- Begun in the state `s`, whatever has been noted, the part ends with the result and
leaves the state `s'`. -/
def Ends (part : Session (StateM σ) α) (s : σ) (result : Except Trouble α) (s' : σ) : Prop :=
  ∀ notes, ∃ notes', (part.run.run notes).run s = ((result, notes'), s')

theorem ends_pure (a : α) (s : σ) : Ends (pure a) s (.ok a) s :=
  fun notes => ⟨notes, rfl⟩

theorem ends_throw (t : Trouble) (s : σ) : Ends (throw t : Session (StateM σ) α) s (.error t) s :=
  fun notes => ⟨notes, rfl⟩

theorem ends_ofExcept (result : Except Trouble α) (s : σ) :
    Ends (ofExcept result : Session (StateM σ) α) s result s := by
  cases result with
  | error t => exact ends_throw t s
  | ok a => exact ends_pure a s

theorem ends_note (line : String) (s : σ) : Ends (note line) s (.ok ()) s :=
  fun notes => ⟨notes ++ [line], rfl⟩

theorem ends_quiet {part : ExceptT Trouble (StateM σ) α} {s s' : σ} {result : Except Trouble α}
    (h : part.run.run s = (result, s')) : Ends (quiet part) s result s' := by
  intro notes
  refine ⟨notes, ?_⟩
  show (part.run >>= fun result => pure (result, notes)).run s = _
  rw [StateT.run_bind, h]
  rfl

theorem ends_quietWithin {part : ExceptT Failure (StateM σ) α} {s s' : σ}
    {result : Except Failure α} (context : String) (h : part.run.run s = (result, s')) :
    Ends (quietWithin context part) s
      (result.mapError fun f => (Trouble.ofFailure f).within context) s' := by
  apply ends_quiet
  show (part.run >>= fun result => pure (result.mapError _)).run s = _
  rw [StateT.run_bind, h]
  rfl

theorem ends_ask {question : StateM σ α} {s s' : σ} {a : α} (h : question.run s = (a, s')) :
    Ends (ask question) s (.ok a) s' := by
  apply ends_quiet
  show (question >>= fun a => pure (Except.ok a)).run s = _
  rw [StateT.run_bind, h]
  rfl

theorem Ends.bind_ok {part : Session (StateM σ) α} {next : α → Session (StateM σ) β}
    {s s' s'' : σ} {a : α} {result : Except Trouble β} (h : Ends part s (.ok a) s')
    (hnext : Ends (next a) s' result s'') : Ends (part >>= next) s result s'' := by
  intro notes
  obtain ⟨notes', hpart⟩ := h notes
  obtain ⟨notes'', hrest⟩ := hnext notes'
  refine ⟨notes'', ?_⟩
  rw [ExceptT.run_bind, StateT.run_bind, StateT.run_bind, hpart]
  exact hrest

theorem Ends.bind_error {part : Session (StateM σ) α} {next : α → Session (StateM σ) β}
    {s s' : σ} {t : Trouble} (h : Ends part s (.error t) s') :
    Ends (part >>= next) s (.error t) s' := by
  intro notes
  obtain ⟨notes', hpart⟩ := h notes
  refine ⟨notes', ?_⟩
  rw [ExceptT.run_bind, StateT.run_bind, StateT.run_bind, hpart]
  rfl

end Session

/-! ## Key material -/

/-- The report of the key material shared with a peer. -/
def SharedSecret.report (peer : PublicKey) (secret : SharedSecret) : Report :=
  .secret (String.ofList peer.toPlain) (Hex.encodeText secret.cipherKey.toList)
    (Hex.encodeText secret.tagKey.toList)

theorem secretReport_of_secret {m : Type → Type} [Monad m] [LawfulMonad m] {own : PrivateKey}
    {peer : String} {key : PublicKey} {secret : SharedSecret}
    (hkey : PublicKey.ofString peer = .ok key)
    (hsecret : SharedSecret.derive? own key = some secret) :
    (secretReport own peer : Session m Report) = pure (secret.report key) := by
  have hpeer : (PublicKey.ofString peer).mapError Failure.ofKey = .ok key :=
    Except.mapError_eq_ok_iff.mpr hkey
  unfold secretReport
  rw [hpeer, Session.checkWithin_ok, pure_bind, agree_of_some hsecret, Session.check_ok, pure_bind]
  rfl

/-! ## Sealing with a vector of the host -/

section

variable {m : Type → Type} [Monad m] [LawfulMonad m] {host : Host m} {c : Content}
  {own : PrivateKey} {recipient : String}

/-- Where the content has a binary form and the recipient a key, the host is asked for a vector,
and content is sealed under it. -/
theorem sealContentFrom_of_ready {text : Bytes} {key : PublicKey} (htext : c.toBytes = .ok text)
    (hkey : PublicKey.ofString recipient = .ok key) :
    (sealContentFrom host c own recipient).run =
      host.newVector >>= fun iv? => pure (sealContent c own recipient iv?) := by
  have htext' : c.toBytes.mapError Failure.ofWire = .ok text :=
    Except.mapError_eq_ok_iff.mpr htext
  have hkey' : (PublicKey.ofString recipient).mapError Failure.ofKey = .ok key :=
    Except.mapError_eq_ok_iff.mpr hkey
  unfold sealContentFrom sealContent sealHex
  rw [htext', hkey', Session.run_ok_bind, Session.run_ok_bind, ExceptT.run_bind, ExceptT.run_lift,
    bind_map_left]
  refine bind_congr fun iv? => ?_
  rw [Except.ok_bind, Except.ok_bind]
  dsimp only
  cases sealBytes own key iv? text with
  | error failure => exact Session.run_error_bind failure _
  | ok framed => exact Session.run_ok_bind framed _

/-- Where one of the two is missing, sealing fails as it does with any vector, and the host is not
asked. -/
theorem sealContentFrom_of_fault
    (h : (∃ fault, c.toBytes = .error fault) ∨ ∃ fault, PublicKey.ofString recipient = .error fault)
    (iv? : Option Cipher.Block) :
    (sealContentFrom host c own recipient).run = pure (sealContent c own recipient iv?) := by
  unfold sealContentFrom sealContent sealHex
  rcases htext : c.toBytes with fault | text
  · exact Session.run_error_bind (Failure.ofWire fault) _
  · rcases hkey : PublicKey.ofString recipient with fault | key
    · exact (Session.run_ok_bind text _).trans (Session.run_error_bind (Failure.ofKey fault) _)
    · obtain ⟨fault, h⟩ | ⟨fault, h⟩ := h
      · cases htext.symm.trans h
      · cases hkey.symm.trans h

end

/-- Whether the host is asked or not, its answer decides how sealing ends. -/
theorem sealContentFrom_run {σ : Type} {host : Host (StateM σ)} {s s' : σ}
    {iv? : Option Cipher.Block} (h : host.newVector.run s = (iv?, s')) (c : Content)
    (own : PrivateKey) (recipient : String) :
    ∃ s'', (sealContentFrom host c own recipient).run.run s =
      (sealContent c own recipient iv?, s'') := by
  by_cases hfault : (∃ fault, c.toBytes = .error fault) ∨
      ∃ fault, PublicKey.ofString recipient = .error fault
  · exact ⟨s, by rw [sealContentFrom_of_fault hfault iv?]; rfl⟩
  · rw [not_or, Except.exists_error_iff, Except.exists_error_iff] at hfault
    push Not at hfault
    obtain ⟨⟨text, htext⟩, key, hkey⟩ := hfault
    refine ⟨s', ?_⟩
    rw [sealContentFrom_of_ready htext hkey, StateT.run_bind, h]
    rfl

/-! ## Whole runs -/

section

variable {σ : Type} {host : Host (StateM σ)} {i : Invocation} {s s₁ s₂ : σ}

/-- Without settings the run is over: nothing more is asked. -/
theorem Invocation.run_of_fault {fault : Settings.Fault}
    (h : (Settings.loadFrom host i.options.config).run s = (.error fault, s₁)) :
    (i.run host).run s = (.ofSettingsFault fault, s₁) := by
  unfold Invocation.run
  rw [StateT.run_bind, h]
  rfl

/-- With settings, the outcome tells how the command ended. -/
theorem Invocation.run_of_settings {file : Settings}
    (h : (Settings.loadFrom host i.options.config).run s = (.ok file, s₁))
    {result : Except Trouble Report}
    (hends : let settings := file.override i.options.overrides
      (i.command.perform host settings.identity
        (i.options.verbose && Report.Format.ofStringD settings.format = .table)).Ends
          s₁ result s₂) :
    ∃ time notes s₃, (i.run host).run s =
      (.ofResult (.ofStringD (file.override i.options.overrides).format) time notes result,
        s₃) := by
  obtain ⟨notes, hcommand⟩ := hends []
  let format := Report.Format.ofStringD (file.override i.options.overrides).format
  let answer := (format.time host).run s₂
  refine ⟨answer.1, notes, answer.2, ?_⟩
  unfold Invocation.run
  rw [StateT.run_bind, h]
  show (i.runWith host (file.override i.options.overrides)).run s₁ = _
  unfold Invocation.runWith
  rw [StateT.run_bind, hcommand]
  rfl

end

end OffchainSeal
