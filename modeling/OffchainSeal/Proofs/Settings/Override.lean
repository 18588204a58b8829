import OffchainSeal.Command.Run
import OffchainSeal.Proofs.Result

/-!
# Settings under the options of a command line

The settings of a file are checked when they are loaded. The options of the command line are
then laid over them, and the result is not checked again: the format of the report and the own
key are taken from it as it stands.

* `Settings.check_eq_ok_iff`: what the check asks for.
* `Settings.check_of_loadFrom`: settings that were loaded pass it.
* `Settings.Consistent.override`: consistent settings stay so under any options.
* `Identity.loadKey_eq`: the own key is loaded from one source, if there is one.
* `Overrides.source?_identity`: a source among the options hides the one in the file.
* `override_invariant`: all this, and that the options can be laid over twice.
-/

namespace OffchainSeal

/-! ## Formats by name -/

theorem Report.Format.ofString_name (f : Report.Format) :
    Report.Format.ofString f.name = .ok f := by
  have hnames : Report.Format.ofString "table" = .ok .table ∧
      Report.Format.ofString "json" = .ok .json ∧
      Report.Format.ofString "quiet" = .ok .quiet := by
    decide +kernel
  cases f with
  | table => exact hnames.1
  | json => exact hnames.2.1
  | quiet => exact hnames.2.2

/-! ## Sources of the own key -/

/-- The place that the own key comes from. -/
inductive KeySource where
  | text (key : String)
  | file (path : String)
  deriving DecidableEq, Repr

namespace KeySource

/-- The source among a text and a path of which each may be missing. A text goes first. -/
def ofGiven? (key path : Option String) : Option KeySource :=
  key.map text <|> path.map file

/-- The identity that names this source only. -/
def identity : KeySource → Identity
  | text key => ⟨some key, none⟩
  | file path => ⟨none, some path⟩

variable {m : Type → Type} [Monad m] (host : Host m)

/-- Loads the own key from its source. -/
def load : Option KeySource → ExceptT Trouble m PrivateKey
  | some (text key) => Identity.parseKey "parsing configured private key" key
  | some (file path) => Identity.loadKeyFile host path
  | none => throw Identity.noKey

end KeySource

namespace Identity

/-- The source that an identity names. -/
def source? (identity : Identity) : Option KeySource :=
  KeySource.ofGiven? identity.privateKey identity.keyFile

/-- The own key is loaded from the source that the identity names. -/
theorem loadKey_eq {m : Type → Type} [Monad m] (host : Host m) (identity : Identity) :
    identity.loadKey host = KeySource.load host identity.source? := by
  obtain ⟨key, path⟩ := identity
  cases key with
  | some key => rfl
  | none => cases path <;> rfl

end Identity

namespace Settings

/-! ## The check -/

/-- The format and the level have names, and there is at most one source of the own key. -/
structure Consistent (s : Settings) : Prop where
  format : ∃ f : Report.Format, f.name = s.format
  level : s.level ∈ levels
  identity : s.identity.privateKey = none ∨ s.identity.keyFile = none

theorem mem_formats_iff {text : String} :
    text ∈ formats ↔ ∃ f : Report.Format, f.name = text := by
  constructor
  · intro h
    have hcases : text = "table" ∨ text = "json" ∨ text = "quiet" := by simpa [formats] using h
    obtain rfl | rfl | rfl := hcases
    · exact ⟨.table, rfl⟩
    · exact ⟨.json, rfl⟩
    · exact ⟨.quiet, rfl⟩
  · rintro ⟨f, rfl⟩
    cases f <;> simp [formats, Report.Format.name]

/-- Settings pass the check exactly if they are consistent. -/
theorem check_eq_ok_iff {s : Settings} : s.check = .ok () ↔ s.Consistent := by
  have hidentity : ¬ (s.identity.privateKey.isSome ∧ s.identity.keyFile.isSome) ↔
      s.identity.privateKey = none ∨ s.identity.keyFile = none := by
    rw [not_and_or, Option.not_isSome_iff_eq_none, Option.not_isSome_iff_eq_none]
  unfold check
  constructor
  · intro h
    split_ifs at h with hformat hlevel htwo
    exact ⟨mem_formats_iff.mp hformat, hlevel, hidentity.mp htwo⟩
  · intro h
    have hformat := mem_formats_iff.mpr h.format
    rw [if_neg (not_not.mpr hformat), if_neg (not_not.mpr h.level),
      if_neg (hidentity.mpr h.identity)]

theorem check_default : default.check = .ok () := rfl

/-! ## Loading -/

/-- A text gives settings only after the check. -/
theorem check_of_ofString {text : String} {s : Settings} (h : ofString text = .ok s) :
    s.check = .ok () := by
  unfold ofString at h
  split at h
  · split at h
    · rw [Except.bind_eq_ok_iff] at h
      obtain ⟨_, hcheck, hs⟩ := h
      cases hs
      exact hcheck
    · cases h
  · cases h

section

variable {σ : Type} {host : Host (StateM σ)} {s s' : σ} {settings : Settings}

theorem check_of_load {path : String}
    (h : (load host path).run s = (.ok settings, s')) : settings.check = .ok () := by
  unfold load at h
  rcases hread : (host.readText path).run s with ⟨fault | text, s₁⟩
  · rw [StateT.run_bind, hread] at h
    cases h
  · rw [StateT.run_bind, hread] at h
    have htext : ofString text = .ok settings := congrArg Prod.fst h
    exact check_of_ofString htext

/-- Whatever the surroundings hold, settings that were loaded pass the check. -/
theorem check_of_loadFrom {path? : Option String}
    (h : (loadFrom host path?).run s = (.ok settings, s')) : settings.check = .ok () := by
  cases path? with
  | some path => exact check_of_load h
  | none =>
    change (loadUsual host).run s = _ at h
    unfold loadUsual at h
    rcases hpath : host.settingsPath with _ | path
    · rw [hpath] at h
      cases h
      exact check_default
    · rw [hpath] at h
      rcases hfound : (host.holds path).run s with ⟨_ | _, s₁⟩
      · dsimp only at h
        rw [StateT.run_bind, hfound] at h
        cases h
        exact check_default
      · dsimp only at h
        rw [StateT.run_bind, hfound] at h
        exact check_of_load h

end

/-! ## Values that go first -/

namespace Overrides

/-- The source that is named to go first. -/
def source? (o : Overrides) : Option KeySource :=
  KeySource.ofGiven? o.privateKey o.keyFile

variable (o : Overrides)

theorem identity_of_none {identity : Identity} (h : o.source? = none) :
    o.identity identity = identity := by
  obtain ⟨format, key, path, verbose, debug⟩ := o
  cases key with
  | some key => cases h
  | none =>
    cases path with
    | some path => cases h
    | none => rfl

/-- A source that is named hides the one of the file. -/
theorem identity_of_some {identity : Identity} {source : KeySource} (h : o.source? = some source) :
    o.identity identity = source.identity := by
  obtain ⟨format, key, path, verbose, debug⟩ := o
  cases key with
  | some key =>
    cases h
    rfl
  | none =>
    cases path with
    | some path =>
      cases h
      rfl
    | none => cases h

theorem source?_identity (identity : Identity) :
    (o.identity identity).source? = (o.source? <|> identity.source?) := by
  rcases h : o.source? with _ | source
  · rw [o.identity_of_none h]
    rfl
  · rw [o.identity_of_some h]
    cases source <;> rfl

theorem identity_exclusive {identity : Identity}
    (h : identity.privateKey = none ∨ identity.keyFile = none) :
    (o.identity identity).privateKey = none ∨ (o.identity identity).keyFile = none := by
  rcases hs : o.source? with _ | source
  · rw [o.identity_of_none hs]
    exact h
  · rw [o.identity_of_some hs]
    cases source with
    | text key => exact .inr rfl
    | file path => exact .inl rfl

theorem level_mem {level : String} (h : level ∈ levels) : o.level level ∈ levels := by
  unfold Overrides.level
  split_ifs
  · simp [levels]
  · simp [levels]
  · exact h

theorem identity_identity (identity : Identity) :
    o.identity (o.identity identity) = o.identity identity := by
  rcases hs : o.source? with _ | source
  · rw [o.identity_of_none hs]
  · rw [o.identity_of_some hs, o.identity_of_some hs]

theorem level_level (level : String) : o.level (o.level level) = o.level level := by
  unfold Overrides.level
  split_ifs <;> rfl

end Overrides

theorem override_override (s : Settings) (o : Overrides) :
    (s.override o).override o = s.override o := by
  have hformat : o.format.getD (o.format.getD s.format) = o.format.getD s.format := by
    cases o.format <;> rfl
  unfold override
  rw [o.identity_identity, o.level_level, hformat]

/-- Consistent settings stay so under the options of a command line. -/
theorem Consistent.override {s : Settings} (h : s.Consistent) (options : Options) :
    (s.override options.overrides).Consistent where
  format := by
    obtain ⟨f, hf⟩ := h.format
    rcases hoption : options.format with _ | g
    · exact ⟨f, by simp [Settings.override, Options.overrides, hoption, hf]⟩
    · exact ⟨g, by simp [Settings.override, Options.overrides, hoption]⟩
  level := options.overrides.level_mem h.level
  identity := options.overrides.identity_exclusive h.identity

end Settings

/-! ## Settings of a run -/

/-- Settings that were loaded pass the check, and settings that pass it still do under the
options of any command line. They then name one source of the own key at most: that of the
options if there is one, and the key is loaded from there, so that a run does not depend on
the identity in the file. Their format is that of the options or else that of the file, and
is one. What no option names stays as it was, and laying the options over once more changes
nothing. -/
theorem override_invariant (options : Options) :
    (∀ (σ : Type) (host : Host (StateM σ)) (path? : Option String) (s s' : σ) (c : Settings),
        (Settings.loadFrom host path?).run s = (.ok c, s') → c.check = .ok ()) ∧
      Settings.default.check = .ok () ∧
      ∀ c : Settings, c.check = .ok () →
        let o := options.overrides
        let c' := c.override o
        (c'.check = .ok () ∧ (c'.identity.privateKey = none ∨ c'.identity.keyFile = none)) ∧
          (c'.identity.source? = (o.source? <|> c.identity.source?) ∧
            ∀ (m : Type → Type) [Monad m] (host : Host m),
              c'.identity.loadKey host = KeySource.load host (o.source? <|> c.identity.source?) ∧
                ∀ (command : Command) (c₂ : Settings), o.source? ≠ none → c₂.format = c.format →
                  (⟨command, options⟩ : Invocation).runWith host (c₂.override o) =
                    (⟨command, options⟩ : Invocation).runWith host c') ∧
          (c'.format = o.format.getD c.format ∧
            ∃ f : Report.Format, f.name = c'.format ∧ Report.Format.ofString c'.format = .ok f ∧
              ∀ g, options.format = some g → f = g) ∧
          ((o.source? = none → c'.identity = c.identity) ∧
            (o.format = none → c'.format = c.format) ∧
            (options.verbose = false → options.debug = false → c'.level = c.level)) ∧
          c'.override o = c' := by
  refine ⟨fun σ host path? s s' c h => Settings.check_of_loadFrom h,
    Settings.check_default, ?_⟩
  intro c h o c'
  have hc : c.Consistent := Settings.check_eq_ok_iff.mp h
  have hc' : c'.Consistent := hc.override options
  have hsource : c'.identity.source? = (o.source? <|> c.identity.source?) :=
    o.source?_identity c.identity
  refine ⟨⟨Settings.check_eq_ok_iff.mpr hc', hc'.identity⟩, ⟨hsource, ?_⟩, ⟨rfl, ?_⟩, ?_,
    c.override_override o⟩
  · intro m _ host
    refine ⟨by rw [Identity.loadKey_eq, hsource], ?_⟩
    intro command c₂ ho hformat
    obtain ⟨source, hs⟩ := Option.ne_none_iff_exists'.mp ho
    have hidentity : (c₂.override o).identity = c'.identity := by
      show o.identity c₂.identity = o.identity c.identity
      rw [o.identity_of_some hs, o.identity_of_some hs]
    have hname : (c₂.override o).format = c'.format := by
      show o.format.getD c₂.format = o.format.getD c.format
      rw [hformat]
    unfold Invocation.runWith
    rw [hidentity, hname]
  · obtain ⟨f, hf⟩ := hc'.format
    have hread : Report.Format.ofString c'.format = .ok f := by
      rw [← hf, Report.Format.ofString_name]
    refine ⟨f, hf, hread, fun g hg => ?_⟩
    have hg' : c'.format = g.name := by
      show (options.format.map (·.name)).getD c.format = g.name
      rw [hg]
      rfl
    rw [hg', Report.Format.ofString_name] at hread
    exact (Except.ok.inj hread).symm
  · refine ⟨o.identity_of_none, ?_, ?_⟩
    · intro hformat
      show o.format.getD c.format = c.format
      rw [hformat]
      rfl
    · intro hverbose hdebug
      show (if options.debug then "debug" else if options.verbose then "info" else c.level) =
        c.level
      rw [hverbose, hdebug]
      rfl

/-- The path of a key among the options hides the key in a file of settings. -/
theorem override_invariant_of_file :
    let c : Settings := ⟨⟨some "5J", none⟩, "json", "trace"⟩
    let options : Options := ⟨none, true, false, none, none, some "other.key"⟩
    let c' := c.override options.overrides
    c.check = .ok () ∧ c'.check = .ok () ∧ c'.identity.source? = some (.file "other.key") ∧
      c'.format = "json" ∧ c'.level = "info" := by
  intro c options c'
  have hc : c.check = .ok () := by decide
  obtain ⟨-, -, h⟩ := override_invariant options
  obtain ⟨⟨hcheck, -⟩, ⟨hsource, -⟩, ⟨hformat, -⟩, -, -⟩ := h c hc
  exact ⟨hc, hcheck, hsource, hformat, rfl⟩

end OffchainSeal
