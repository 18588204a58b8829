import OffchainSeal.Proofs.Command.Reading
import OffchainSeal.Proofs.Sealing.RoundTrip

/-!
# The stages of a command

A command with settings looks at one thing after the other, and the first of them that is
wrong decides the exit. What each of them is wrong at is said in terms of what the command
read, and not of how it looks at it.

* `Stage`, `Command.stages`: the stages of the commands, and the status of each.
* `Readings.Fails`: when a stage fails.
* `StopsWith`: the first of some stages that fails, with its status.
* `Readings.HasSecret.exists_iff`: what is said of the secret of the input.
* `checks_of_ends`: the stages of a computation whose failures are trouble.
* `Checks.bind`: two parts of a run, one after the other, check the stages of both.
* `Command.perform_checks`: a command checks its stages, and what it reports if none fails.
-/

namespace OffchainSeal

/-! ## Stages -/

/-- What may be wrong in the run of a command. -/
inductive Stage where
  /-- There is no own key, or its file cannot be read as a text. -/
  | keySource
  /-- The text of the own key is none. -/
  | ownKey
  /-- The text of the other party's key is none. -/
  | otherKey (text : String)
  /-- The input cannot be read as a text. -/
  | input
  /-- The input is no document of content of the kind. -/
  | document (kind : Content.Kind)
  /-- A text of the content is too long. -/
  | sizes (kind : Content.Kind)
  /-- The random source fails. -/
  | vector
  /-- The input is not hexadecimal, or of no length that an envelope has. -/
  | envelope
  /-- The tag is not the right one. -/
  | tag (sender : String)
  /-- The last byte of the plain text names an impossible padding. -/
  | padding (sender : String)
  /-- The plain text is no content of the kind. -/
  | content (kind : Content.Kind) (sender : String)

/-- The number that a run ends with if the stage fails. -/
def Stage.status : Stage → ℕ
  | keySource | input | vector => 1
  | tag _ => 2
  | ownKey | otherKey _ => 3
  | envelope | padding _ => 4
  | document _ | sizes _ | content .. => 5

/-- The statuses of stages are the numbers from one to five. -/
theorem Stage.status_range (stage : Stage) : 0 < stage.status ∧ stage.status < 6 := by
  cases stage <;> simp [Stage.status]

/-- The stages of a command in their order. -/
def Command.stages : Command → List Stage
  | keygen => []
  | pubkey => [.keySource, .ownKey]
  | secret peer => [.keySource, .ownKey, .otherKey peer]
  | encrypt kind recipient _ =>
    [.keySource, .ownKey, .input, .document kind, .sizes kind, .otherKey recipient, .vector]
  | decrypt kind sender _ =>
    [.keySource, .ownKey, .input, .envelope, .otherKey sender, .tag sender, .padding sender,
      .content kind sender]

namespace Readings

variable (r : Readings)

/-- The own key is read. -/
def HasKey (own : PrivateKey) : Prop :=
  ∃ text, r.keyText? = some text ∧ PrivateKey.ofString text = .ok own

/-- The input is a document of the content. -/
def HasContent (kind : Content.Kind) (c : Content) : Prop :=
  ∃ document, r.input? = some document ∧ Content.ofJson kind document = .ok c

/-- The input is an envelope of these bytes. -/
def HasEnvelope (bs : Bytes) : Prop :=
  ∃ text, r.input? = some text ∧ IsEnvelopeText text bs

/-- The input is an envelope of these bytes, both parties have keys, and this is their secret. -/
def HasSecret (sender : String) (bs : Bytes) (secret : SharedSecret) : Prop :=
  ∃ text own, r.input? = some text ∧ r.HasKey own ∧ Reaches text own sender bs secret

/-- The stage fails. -/
def Fails : Stage → Prop
  | .keySource => r.keyText? = none
  | .ownKey => ∀ own, ¬ r.HasKey own
  | .otherKey text => ∀ key, PublicKey.ofString text ≠ .ok key
  | .input => r.input? = none
  | .document kind => ∀ c, ¬ r.HasContent kind c
  | .sizes kind => ∃ c, r.HasContent kind c ∧ ¬ c.toRow.Fits
  | .vector => r.vector? = none
  | .envelope => ∀ bs, ¬ r.HasEnvelope bs
  | .tag sender => ∃ bs secret, r.HasSecret sender bs secret ∧ ¬ TagVerifies secret bs
  | .padding sender => ∃ bs secret, r.HasSecret sender bs secret ∧ WrongPadding secret bs
  | .content kind sender => ∃ bs secret, r.HasSecret sender bs secret ∧
      ∀ c, Content.ofBytes kind (unpaddedText secret bs) ≠ .ok c

variable {r}

theorem HasKey.unique {own own' : PrivateKey} (h : r.HasKey own) (h' : r.HasKey own') :
    own = own' := by
  obtain ⟨text, htext, hown⟩ := h
  obtain ⟨text', htext', hown'⟩ := h'
  obtain rfl := Option.some.inj (htext.symm.trans htext')
  exact Except.ok.inj (hown.symm.trans hown')

theorem HasKey.readable {own : PrivateKey} (h : r.HasKey own) : ¬ r.Fails .keySource := by
  obtain ⟨text, htext, -⟩ := h
  intro hnone
  cases htext.symm.trans hnone

theorem HasContent.readable {kind : Content.Kind} {c : Content} (h : r.HasContent kind c) :
    ¬ r.Fails .input := by
  obtain ⟨text, htext, -⟩ := h
  intro hnone
  cases htext.symm.trans hnone

theorem HasContent.unique {kind : Content.Kind} {c c' : Content} (h : r.HasContent kind c)
    (h' : r.HasContent kind c') : c = c' := by
  obtain ⟨text, htext, hc⟩ := h
  obtain ⟨text', htext', hc'⟩ := h'
  obtain rfl := Option.some.inj (htext.symm.trans htext')
  exact Except.ok.inj (hc.symm.trans hc')

theorem HasSecret.unique {sender : String} {bs bs' : Bytes} {secret secret' : SharedSecret}
    (h : r.HasSecret sender bs secret) (h' : r.HasSecret sender bs' secret') :
    bs = bs' ∧ secret = secret' := by
  obtain ⟨text, own, htext, hown, hreach⟩ := h
  obtain ⟨text', own', htext', hown', hreach'⟩ := h'
  obtain rfl := Option.some.inj (htext.symm.trans htext')
  obtain rfl := hown.unique hown'
  exact hreach.unique hreach'

section

variable {sender : String} {bs : Bytes} {secret : SharedSecret}

/-- The input has one secret at most, so whatever is said of some secret of it is said of
this one. -/
theorem HasSecret.exists_iff (h : r.HasSecret sender bs secret)
    (p : Bytes → SharedSecret → Prop) :
    (∃ bs' secret', r.HasSecret sender bs' secret' ∧ p bs' secret') ↔ p bs secret := by
  constructor
  · rintro ⟨bs', secret', h', hp⟩
    obtain ⟨rfl, rfl⟩ := h.unique h'
    exact hp
  · intro hp
    exact ⟨bs, secret, h, hp⟩

theorem HasSecret.fails_tag_iff (h : r.HasSecret sender bs secret) :
    r.Fails (.tag sender) ↔ ¬ TagVerifies secret bs :=
  h.exists_iff fun bs secret => ¬ TagVerifies secret bs

theorem HasSecret.fails_padding_iff (h : r.HasSecret sender bs secret) :
    r.Fails (.padding sender) ↔ WrongPadding secret bs :=
  h.exists_iff fun bs secret => WrongPadding secret bs

theorem HasSecret.fails_content_iff (h : r.HasSecret sender bs secret) (kind : Content.Kind) :
    r.Fails (.content kind sender) ↔
      ∀ c, Content.ofBytes kind (unpaddedText secret bs) ≠ .ok c :=
  h.exists_iff fun bs secret => ∀ c, Content.ofBytes kind (unpaddedText secret bs) ≠ .ok c

end

end Readings

/-- What a command reports that found what it asked for. -/
def Command.Tells (r : Readings) : Command → Report → Prop
  | keygen, report => ∃ key : PrivateKey, report = .keys "keygen" (.ofKey key.publicKey (some key))
  | pubkey, report => ∃ own, r.HasKey own ∧ report = .keys "pubkey" (.ofKey own.publicKey none)
  | secret peer, report => ∃ own key secret, r.HasKey own ∧ PublicKey.ofString peer = .ok key ∧
      SharedSecret.derive? own key = some secret ∧ report = secret.report key
  | encrypt kind recipient _, report => ∃ own c envelope, r.HasKey own ∧ r.HasContent kind c ∧
      sealContent c own recipient r.vector? = .ok envelope ∧ report = .sealed kind envelope
  | decrypt kind sender _, report => ∃ own envelope c, r.HasKey own ∧ r.input? = some envelope ∧
      openContent envelope own sender kind = .ok c ∧ report = .opened c

/-! ## The first stage that fails -/

/-- Of the stages in their order, the first that fails has the status; if none fails, the
status is zero. -/
inductive StopsWith (fails : Stage → Prop) : List Stage → ℕ → Prop
  | finished : StopsWith fails [] 0
  | failed (stage : Stage) {rest : List Stage} : fails stage →
      StopsWith fails (stage :: rest) stage.status
  | passed {stage : Stage} {rest : List Stage} {n : ℕ} : ¬ fails stage →
      StopsWith fails rest n → StopsWith fails (stage :: rest) n

namespace StopsWith

variable {fails : Stage → Prop} {stages more : List Stage} {n k : ℕ}

theorem append_of_ne_zero (h : StopsWith fails stages n) (hn : n ≠ 0) :
    StopsWith fails (stages ++ more) n := by
  induction h with
  | finished => exact absurd rfl hn
  | failed stage hfails => exact .failed stage hfails
  | passed hpasses _ ih => exact .passed hpasses (ih hn)

theorem append_of_zero (h : StopsWith fails stages 0) (hmore : StopsWith fails more k) :
    StopsWith fails (stages ++ more) k := by
  generalize hzero : 0 = n at h
  induction h with
  | finished => exact hmore
  | failed stage _ =>
    have := stage.status_range
    omega
  | passed hpasses _ ih => exact .passed hpasses (ih hzero)

/-- The status is zero exactly if no stage fails. -/
theorem eq_zero_iff (h : StopsWith fails stages n) : n = 0 ↔ ∀ stage ∈ stages, ¬ fails stage := by
  induction h with
  | finished => simp
  | failed stage hfails =>
    have := stage.status_range
    constructor
    · omega
    · intro hnone
      exact absurd hfails (hnone stage List.mem_cons_self)
  | passed hpasses _ ih => rw [ih, List.forall_mem_cons, and_iff_right hpasses]

/-- No stage has the status of settings that are wrong. -/
theorem lt_six (h : StopsWith fails stages n) : n < 6 := by
  induction h with
  | finished => omega
  | failed stage _ => exact stage.status_range.2
  | passed _ _ ih => exact ih

/-- Stages that fail alike stop alike. -/
theorem unique (h : StopsWith fails stages n) (h' : StopsWith fails stages k) : n = k := by
  induction h with
  | finished => cases h'; rfl
  | failed stage hfails =>
    cases h' with
    | failed _ _ => rfl
    | passed hpasses _ => exact absurd hfails hpasses
  | passed hpasses _ ih =>
    cases h' with
    | failed _ hfails => exact absurd hfails hpasses
    | passed _ h' => exact ih h'

end StopsWith

/-! ## Parts of a run that check stages -/

/-- The number that the part of a run ends with. -/
def endStatus {α : Type} : Except Trouble α → ℕ
  | .ok _ => 0
  | .error t => t.exit.code

/-- The number that a run ends with at a failure. -/
def failureStatus {α : Type} : Except Failure α → ℕ
  | .ok _ => 0
  | .error f => (Exit.ofFailure f).code

theorem Exit.code_ofFailure_pos (f : Failure) : 0 < (Exit.ofFailure f).code := by
  cases f <;> exact Nat.succ_pos _

theorem Exit.code_ofChain_pos (chain : List Link) : 0 < (Exit.ofChain chain).code := by
  induction chain with
  | nil => exact Nat.succ_pos _
  | cons link behind ih =>
    cases link with
    | failure f => exact Exit.code_ofFailure_pos f
    | settings fault detail => exact Nat.succ_pos _
    | other wording => exact ih

theorem Trouble.code_pos (t : Trouble) : 0 < t.exit.code :=
  Exit.code_ofChain_pos t.chain

section

variable {σ α β : Type} {fails : Stage → Prop} {s s' : σ} {stages more : List Stage}

/-- Begun in the state `s`, the part ends with the status of the first of its stages that
fails; if it ends with a value, `good` holds of it and of the state it leaves. -/
def Checks (fails : Stage → Prop) (part : Session (StateM σ) α) (s : σ) (stages : List Stage)
    (good : α → σ → Prop) : Prop :=
  ∃ result s', part.Ends s result s' ∧ StopsWith fails stages (endStatus result) ∧
    ∀ a, result = .ok a → good a s'

theorem checks_pure {a : α} {good : α → σ → Prop} (h : good a s) :
    Checks fails (pure a) s [] good :=
  ⟨.ok a, s, Session.ends_pure a s, .finished, fun _ ha => Except.ok.inj ha ▸ h⟩

theorem checks_note (line : String) : Checks fails (Session.note line) s [] fun _ s' => s' = s :=
  ⟨.ok (), s, Session.ends_note line s, .finished, fun _ _ => rfl⟩

theorem checks_ask {question : StateM σ α} {a : α} (h : question.run s = (a, s')) :
    Checks fails (Session.ask question) s [] fun b s'' => b = a ∧ s'' = s' :=
  ⟨.ok a, s', Session.ends_ask h, .finished, fun _ hb => ⟨(Except.ok.inj hb).symm, rfl⟩⟩

theorem checks_quiet_ok {part : ExceptT Trouble (StateM σ) α} {a : α}
    (h : part.run.run s = (.ok a, s')) (hstages : StopsWith fails stages 0) :
    Checks fails (Session.quiet part) s stages fun b s'' => b = a ∧ s'' = s' :=
  ⟨.ok a, s', Session.ends_quiet h, hstages, fun _ hb => ⟨(Except.ok.inj hb).symm, rfl⟩⟩

theorem checks_quiet_error {part : ExceptT Trouble (StateM σ) α} {t : Trouble}
    (h : part.run.run s = (.error t, s')) (hstages : StopsWith fails stages t.exit.code)
    (good : α → σ → Prop) : Checks fails (Session.quiet part) s stages good :=
  ⟨.error t, s', Session.ends_quiet h, hstages, fun _ hb => by cases hb⟩

/-- What is known of the value and the state in the end may be weakened. -/
theorem Checks.mono {part : Session (StateM σ) α} {good good' : α → σ → Prop}
    (h : Checks fails part s stages good) (hgood : ∀ a s', good a s' → good' a s') :
    Checks fails part s stages good' := by
  obtain ⟨result, s', hends, hstages, hvalue⟩ := h
  exact ⟨result, s', hends, hstages, fun a ha => hgood a s' (hvalue a ha)⟩

/-- A part that ends as a computation does, whose failures are trouble with their own exit. -/
theorem checks_of_ends {part : Session (StateM σ) α} {result : Except Failure α}
    {f : Failure → Trouble} (hends : part.Ends s (result.mapError f) s')
    (hexit : ∀ failure, (f failure).exit = .ofFailure failure)
    (h : StopsWith fails stages (failureStatus result)) :
    Checks fails part s stages fun a s'' => result = .ok a ∧ s'' = s' := by
  have hstatus : endStatus (result.mapError f) = failureStatus result := by
    rcases result with failure | a
    · exact congrArg Exit.code (hexit failure)
    · rfl
  exact ⟨result.mapError f, s', hends, hstatus ▸ h,
    fun _ ha => ⟨Except.mapError_eq_ok_iff.mp ha, rfl⟩⟩

theorem checks_check {result : Except Failure α}
    (h : StopsWith fails stages (failureStatus result)) :
    Checks fails (Session.check result) s stages fun a s'' => result = .ok a ∧ s'' = s :=
  checks_of_ends (Session.ends_ofExcept _ s) (fun _ => rfl) h

theorem checks_checkWithin {result : Except Failure α} (context : String)
    (h : StopsWith fails stages (failureStatus result)) :
    Checks fails (Session.checkWithin context result) s stages
      fun a s'' => result = .ok a ∧ s'' = s :=
  checks_of_ends (Session.ends_ofExcept _ s) (fun _ => rfl) h

theorem checks_quietWithin {part : ExceptT Failure (StateM σ) α} {result : Except Failure α}
    (context : String) (hpart : part.run.run s = (result, s'))
    (h : StopsWith fails stages (failureStatus result)) :
    Checks fails (Session.quietWithin context part) s stages
      fun a s'' => result = .ok a ∧ s'' = s' :=
  checks_of_ends (Session.ends_quietWithin context hpart) (fun _ => rfl) h

/-- The stages of two parts are checked one after the other. -/
theorem Checks.bind {part : Session (StateM σ) α} {next : α → Session (StateM σ) β}
    {good : α → σ → Prop} {good' : β → σ → Prop} (h : Checks fails part s stages good)
    (hnext : ∀ a s', good a s' → Checks fails (next a) s' more good') :
    Checks fails (part >>= next) s (stages ++ more) good' := by
  obtain ⟨result, s', hends, hstages, hgood⟩ := h
  rcases result with t | a
  · have hpos := t.code_pos
    exact ⟨.error t, s', hends.bind_error, hstages.append_of_ne_zero (Nat.ne_of_gt hpos),
      fun _ hb => by cases hb⟩
  · obtain ⟨result', s'', hends', hmore, hgood'⟩ := hnext a s' (hgood a rfl)
    exact ⟨result', s'', hends.bind_ok hends', hstages.append_of_zero hmore, hgood'⟩

end

/-! ## The stages of opening and sealing -/

section

variable {r : Readings} {own : PrivateKey}

theorem trim_ofList_trim (text : String) :
    Text.trim (String.ofList (Text.trim text.toList)).toList = Text.trim text.toList := by
  rw [String.toList_ofList]
  exact Text.trim_trim _

theorem openContent_trim (envelope : String) (recipient : PrivateKey) (sender : String)
    (kind : Content.Kind) :
    openContent (String.ofList (Text.trim envelope.toList)) recipient sender kind =
      openContent envelope recipient sender kind := by
  have hhex : Envelope.ofHex (String.ofList (Text.trim envelope.toList)).toList =
      Envelope.ofHex envelope.toList := by
    unfold Envelope.ofHex
    rw [trim_ofList_trim]
  unfold openContent openHex
  rw [hhex]

/-- Opening checks the envelope, the key of the sender, the tag, the padding and the
content. -/
theorem openContent_stops {envelope : String} (hinput : r.input? = some envelope)
    (hown : r.HasKey own) (sender : String) (kind : Content.Kind) :
    StopsWith r.Fails
      [.envelope, .otherKey sender, .tag sender, .padding sender, .content kind sender]
      (failureStatus (openContent envelope own sender kind)) := by
  have henvelope : ∀ {bs}, IsEnvelopeText envelope bs → ¬ r.Fails .envelope :=
    fun h hnone => hnone _ ⟨envelope, hinput, h⟩
  have hkey : ∀ {key}, PublicKey.ofString sender = .ok key → ¬ r.Fails (.otherKey sender) :=
    fun h hnone => hnone _ h
  -- An envelope that gets as far as the tag has passed the two stages before it.
  have hreaches : ∀ {bs secret n}, Reaches envelope own sender bs secret →
      StopsWith r.Fails [.tag sender, .padding sender, .content kind sender] n →
      StopsWith r.Fails
        [.envelope, .otherKey sender, .tag sender, .padding sender, .content kind sender] n := by
    intro bs secret n hreach hrest
    obtain ⟨key, hofString, -⟩ := hreach.secret
    exact .passed (henvelope hreach.envelope) (.passed (hkey hofString) hrest)
  have hcase := openHex_case envelope own sender
  unfold openContent
  generalize openHex envelope own sender = opened at hcase
  cases hcase with
  | notEnvelope hnone =>
    apply StopsWith.failed .envelope
    rintro bs ⟨text, htext, hbs⟩
    obtain rfl := Option.some.inj (hinput.symm.trans htext)
    exact hnone bs hbs
  | notKey hbs hnone =>
    exact .passed (henvelope hbs) (StopsWith.failed (.otherKey sender) hnone)
  | @noSecret bs key detail hbs hofString hnone =>
    obtain ⟨secret, hsecret⟩ := SharedSecret.exists_derive? own key
    rw [hnone] at hsecret
    cases hsecret
  | @wrongTag bs secret hreach htag =>
    have hsecret : r.HasSecret sender bs secret := ⟨envelope, own, hinput, hown, hreach⟩
    apply hreaches hreach
    exact StopsWith.failed (.tag sender) (hsecret.fails_tag_iff.mpr htag)
  | @wrongPadding bs secret hreach htag hpadding =>
    have hsecret : r.HasSecret sender bs secret := ⟨envelope, own, hinput, hown, hreach⟩
    have htag' : ¬ r.Fails (.tag sender) := by rwa [hsecret.fails_tag_iff, not_not]
    apply hreaches hreach
    apply StopsWith.passed htag'
    exact StopsWith.failed (.padding sender) (hsecret.fails_padding_iff.mpr hpadding)
  | @opened bs secret hreach htag hpadding =>
    have hsecret : r.HasSecret sender bs secret := ⟨envelope, own, hinput, hown, hreach⟩
    have htag' : ¬ r.Fails (.tag sender) := by rwa [hsecret.fails_tag_iff, not_not]
    have hpadding' : ¬ r.Fails (.padding sender) := by rwa [hsecret.fails_padding_iff]
    apply hreaches hreach
    apply StopsWith.passed htag'
    apply StopsWith.passed hpadding'
    rw [Except.ok_bind]
    rcases hread : Content.ofBytes kind (unpaddedText secret bs) with fault | c
    · have hnone := Except.exists_error_iff.mp ⟨fault, hread⟩
      exact StopsWith.failed (.content kind sender) ((hsecret.fails_content_iff kind).mpr hnone)
    · have hcontent : ¬ r.Fails (.content kind sender) := by
        rw [hsecret.fails_content_iff]
        intro hnone
        exact hnone c hread
      exact StopsWith.passed hcontent .finished

/-- Sealing checks the sizes of the texts, the key of the recipient and the random source. -/
theorem sealContent_stops {kind : Content.Kind} {c : Content} (hcontent : r.HasContent kind c)
    (own : PrivateKey) (recipient : String) :
    StopsWith r.Fails [.sizes kind, .otherKey recipient, .vector]
      (failureStatus (sealContent c own recipient r.vector?)) := by
  by_cases hfits : c.toRow.Fits
  · have hsizes : ¬ r.Fails (.sizes kind) := by
      rintro ⟨c', hcontent', hlong⟩
      obtain rfl := hcontent.unique hcontent'
      exact hlong hfits
    apply StopsWith.passed hsizes
    unfold sealContent sealHex
    rw [Content.toBytes_eq_ok_iff.mpr ⟨hfits, rfl⟩]
    rcases hkey : PublicKey.ofString recipient with fault | key
    · exact StopsWith.failed (.otherKey recipient)
        (Except.exists_error_iff.mp ⟨fault, hkey⟩)
    · have hpasses : ¬ r.Fails (.otherKey recipient) := fun hnone => hnone key hkey
      apply StopsWith.passed hpasses
      rcases hvector : r.vector? with _ | iv
      · exact StopsWith.failed .vector hvector
      · have hpasses : ¬ r.Fails .vector := by
          intro hnone
          cases hvector.symm.trans hnone
        apply StopsWith.passed hpasses
        obtain ⟨secret, hsecret⟩ := SharedSecret.exists_derive? own key
        show StopsWith r.Fails [] (failureStatus
          ((agree own key >>= fun secret => .ok (sealWith secret iv _)) >>= _))
        rw [agree_of_some hsecret]
        exact .finished
  · have hfault : ∃ fault, c.toBytes = .error fault := by
      rw [Except.exists_error_iff]
      intro bs hbs
      exact hfits (Content.toBytes_eq_ok_iff.mp hbs).1
    obtain ⟨fault, hfault⟩ := hfault
    unfold sealContent
    rw [hfault]
    exact StopsWith.failed (.sizes kind) ⟨c, hcontent, hfits⟩

end

/-! ## The stages of commands -/

section

variable {σ : Type} {host : Host (StateM σ)} {r : Readings} {s s' : σ} {own : PrivateKey}

theorem loadKey_checks {identity : Identity}
    (h : (identity.keyText? host).run s = (r.keyText?, s')) :
    Checks r.Fails (Session.quiet (identity.loadKey host)) s [.keySource, .ownKey]
      fun own s'' => r.HasKey own ∧ s'' = s' := by
  obtain ⟨result, hrun, hresult⟩ := Identity.loadKey_run h
  unfold KeyResult at hresult
  rcases htext : r.keyText? with _ | text
  · rw [htext] at hresult
    obtain ⟨t, rfl, hexit⟩ := hresult
    refine checks_quiet_error hrun ?_ _
    rw [hexit]
    exact StopsWith.failed .keySource htext
  · have hsource : ¬ r.Fails .keySource := fun hnone => by cases htext.symm.trans hnone
    rw [htext, Option.map_some] at hresult
    rcases hkey : PrivateKey.ofString text with fault | own
    · rw [hkey] at hresult
      obtain ⟨t, rfl, hexit⟩ := hresult
      refine checks_quiet_error hrun ?_ _
      rw [hexit]
      apply StopsWith.passed hsource
      apply StopsWith.failed .ownKey
      rintro own ⟨text', htext', hown⟩
      obtain rfl := Option.some.inj (htext.symm.trans htext')
      cases hkey.symm.trans hown
    · have hown : r.HasKey own := ⟨text, htext, hkey⟩
      rw [hkey] at hresult
      have hok : result = .ok own := hresult
      rw [hok] at hrun
      have hstages : StopsWith r.Fails [.keySource, .ownKey] 0 :=
        .passed hsource (.passed (fun hnone => hnone own hown) .finished)
      refine (checks_quiet_ok hrun hstages).mono ?_
      rintro own' s'' ⟨rfl, hs''⟩
      exact ⟨hown, hs''⟩

theorem read_checks {part : ExceptT Trouble (StateM σ) String} {result : Except Trouble String}
    (hrun : part.run.run s = (result, s')) (hresult : TextResult r.input? result) :
    Checks r.Fails (Session.quiet part) s [.input]
      fun text s'' => r.input? = some text ∧ s'' = s' := by
  rcases htext : r.input? with _ | text
  · rw [htext] at hresult
    obtain ⟨t, rfl, hexit⟩ := hresult
    refine checks_quiet_error hrun ?_ _
    rw [hexit]
    exact StopsWith.failed .input htext
  · rw [htext] at hresult
    have hok : result = .ok text := hresult
    rw [hok] at hrun
    have hinput : ¬ r.Fails .input := fun hnone => by cases htext.symm.trans hnone
    refine (checks_quiet_ok hrun (.passed hinput .finished)).mono ?_
    rintro text' s'' ⟨rfl, hs''⟩
    exact ⟨rfl, hs''⟩

theorem secretReport_checks (hown : r.HasKey own) (peer : String) :
    Checks r.Fails (secretReport own peer) s [.otherKey peer]
      fun report _ => (Command.secret peer).Tells r report := by
  have hkey : StopsWith r.Fails [.otherKey peer]
      (failureStatus ((PublicKey.ofString peer).mapError Failure.ofKey)) := by
    rcases hkey : PublicKey.ofString peer with fault | key
    · exact .failed (.otherKey peer) (Except.exists_error_iff.mp ⟨fault, hkey⟩)
    · exact .passed (fun hnone => hnone key hkey) .finished
  refine (checks_checkWithin "decoding peer public key" hkey).bind fun key s₁ ⟨hok, _⟩ => ?_
  rw [Except.mapError_eq_ok_iff] at hok
  obtain ⟨secret, hsecret⟩ := SharedSecret.exists_derive? own key
  rw [agree_of_some hsecret]
  exact checks_pure ⟨own, key, secret, hown, hok, hsecret, rfl⟩

theorem sealedReport_checks (hown : r.HasKey own) (kind : Content.Kind) (recipient : String)
    {document : String} (hinput : r.input? = some document)
    (hvector : host.newVector.run s = (r.vector?, s')) (input : Input) :
    Checks r.Fails (sealedReport host own recipient kind document) s
      [.document kind, .sizes kind, .otherKey recipient, .vector]
      fun report _ => (Command.encrypt kind recipient input).Tells r report := by
  have hdocument : StopsWith r.Fails [.document kind]
      (failureStatus ((Content.ofJson kind document).mapError (.ofDocument kind))) := by
    rcases hread : Content.ofJson kind document with fault | c
    · apply StopsWith.failed (.document kind)
      rintro c ⟨document', hinput', hc⟩
      obtain rfl := Option.some.inj (hinput.symm.trans hinput')
      cases hread.symm.trans hc
    · exact .passed (fun hnone => hnone c ⟨document, hinput, hread⟩) .finished
  refine (checks_check hdocument).bind fun c s₁ ⟨hok, hs₁⟩ => ?_
  rw [Except.mapError_eq_ok_iff] at hok
  have hcontent : r.HasContent kind c := ⟨document, hinput, hok⟩
  have hseal := sealContent_stops hcontent own recipient
  obtain ⟨s₂, hrun⟩ := sealContentFrom_run hvector c own recipient
  rw [hs₁]
  refine (checks_quietWithin "encrypting content" hrun hseal).bind fun envelope _ ⟨hsealed, _⟩ => ?_
  exact checks_pure ⟨own, c, envelope, hown, hcontent, hsealed, rfl⟩

theorem openedReport_checks (hown : r.HasKey own) (kind : Content.Kind) (sender : String)
    {envelope : String} (hinput : r.input? = some envelope) (source : EnvelopeSource) :
    Checks r.Fails (openedReport own sender kind envelope) s
      [.envelope, .otherKey sender, .tag sender, .padding sender, .content kind sender]
      fun report _ => (Command.decrypt kind sender source).Tells r report := by
  unfold openedReport
  dsimp only
  rw [openContent_trim]
  have hopen := openContent_stops hinput hown sender kind
  refine (checks_checkWithin "decrypting content" hopen).bind fun c s₁ ⟨hopened, _⟩ => ?_
  exact checks_pure ⟨own, envelope, c, hown, hinput, hopened, rfl⟩

/-- A line about the progress, if one is wanted, checks nothing. -/
theorem noteIf_checks (verbose : Bool) (line : String) {part : Session (StateM σ) Report}
    {stages : List Stage} {good : Report → σ → Prop} (h : Checks r.Fails part s stages good) :
    Checks r.Fails
      (do
        if verbose then Session.note line
        part) s stages good := by
  cases verbose with
  | false => exact h
  | true =>
    refine (checks_note line).bind fun _ s₁ hs₁ => ?_
    rw [hs₁]
    exact h

/-- A command checks its stages in their order, and tells what it found if none fails. -/
theorem Command.perform_checks (host : Host (StateM σ)) (identity : Identity) (verbose : Bool)
    (command : Command) (s : σ) :
    let r := ((command.readings host identity).run s).1
    Checks r.Fails (command.perform host identity verbose) s command.stages
      fun report _ => command.Tells r report := by
  rcases hkey : (identity.keyText? host).run s with ⟨key?, s₁⟩
  cases command with
  | keygen =>
    intro r
    refine (checks_ask (Prod.eta _).symm).bind fun key s₁ _ => ?_
    exact checks_pure ⟨key, rfl⟩
  | pubkey =>
    rw [Command.readings_pubkey hkey]
    intro r
    refine (loadKey_checks hkey).bind fun own s' hown => ?_
    exact checks_pure ⟨own, hown.1, rfl⟩
  | secret peer =>
    rw [Command.readings_secret peer hkey]
    intro r
    exact (loadKey_checks hkey).bind fun own s' hown => secretReport_checks hown.1 peer
  | encrypt kind recipient input =>
    rcases hinput : (input.text? host).run s₁ with ⟨text?, s₂⟩
    rcases hvector : host.newVector.run s₂ with ⟨vector?, s₃⟩
    rw [Command.readings_encrypt kind recipient hkey hinput hvector]
    intro r
    obtain ⟨result, hread, hresult⟩ := Input.read_run hinput
    refine (loadKey_checks hkey).bind fun own s' ⟨hown, hs'⟩ => ?_
    rw [hs']
    apply noteIf_checks
    refine (read_checks hread hresult).bind fun document s'' ⟨hdocument, hs''⟩ => ?_
    rw [hs'']
    exact sealedReport_checks hown kind recipient hdocument hvector input
  | decrypt kind sender source =>
    rcases hinput : (source.text? host).run s₁ with ⟨text?, s₂⟩
    rw [Command.readings_decrypt kind sender hkey hinput]
    intro r
    obtain ⟨result, hread, hresult⟩ := EnvelopeSource.read_run hinput
    refine (loadKey_checks hkey).bind fun own s' ⟨hown, hs'⟩ => ?_
    rw [hs']
    apply noteIf_checks
    refine (read_checks hread hresult).bind fun envelope s'' ⟨henvelope, _⟩ => ?_
    exact openedReport_checks hown kind sender henvelope source

end
end OffchainSeal
