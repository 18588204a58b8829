import OffchainSeal.Proofs.Command.Stages
import OffchainSeal.Proofs.Json.Render
import OffchainSeal.Proofs.Sealing.Framing

/-!
# How a run ends

* `Report.render_ne_empty`: a report of anything is not the empty text, in any format.
* `Command.Tells.bare_ne_empty`: a command that ends well tells something.
* `run_status`: the status and the output of a run, whatever its surroundings are.
-/

namespace OffchainSeal

/-! ## Reports are not empty -/

theorem String.ofList_ne_empty {cs : List Char} (h : cs ≠ []) : String.ofList cs ≠ "" := by
  intro hempty
  have := congrArg String.toList hempty
  rw [String.toList_ofList] at this
  exact h this

theorem intercalate_cons_ne_nil {α : Type} {sep l : List α} {ls : List (List α)} (h : l ≠ []) :
    sep.intercalate (l :: ls) ≠ [] := by
  intro hnil
  have hall := List.flatten_eq_nil_iff.mp hnil
  cases ls with
  | nil => exact h (hall l (by simp))
  | cons l' ls => exact h (hall l (by simp))

theorem append_ne_empty_left {a b : String} (h : a ≠ "") : a ++ b ≠ "" :=
  fun hempty => h (String.append_eq_empty_iff.mp hempty).1

theorem append_ne_empty_right {a b : String} (h : b ≠ "") : a ++ b ≠ "" :=
  fun hempty => h (String.append_eq_empty_iff.mp hempty).2

theorem Report.Grid.render_ne_empty (g : Report.Grid) : g.render ≠ "" := by
  apply String.ofList_ne_empty
  apply intercalate_cons_ne_nil
  simp [Report.Grid.Rule.draw]

theorem Json.Value.render_object_ne_empty (members : List (String × Json.Value)) :
    (Json.Value.object members).render ≠ "" := by
  apply String.ofList_ne_empty
  rw [Json.Value.renderAt]
  split <;> simp

/-- A report with bare values that are not empty is not empty in any format. -/
theorem Report.render_ne_empty {report : Report} (h : report.bare ≠ "") (format : Report.Format)
    (time : String) : report.render format time ≠ "" := by
  cases format with
  | table =>
    cases report with
    | sealed kind envelope => exact h
    | keys command texts => exact Report.Grid.render_ne_empty _
    | secret peer cipherKey tagKey => exact Report.Grid.render_ne_empty _
    | opened content => exact Report.Grid.render_ne_empty _
  | json => exact Json.Value.render_object_ne_empty _
  | quiet => exact h

theorem Hex.encodeText_ne_empty {bs : Bytes} (h : 0 < bs.length) : Hex.encodeText bs ≠ "" := by
  intro hempty
  have hlen := (Hex.denotes_encodeText bs).length_eq
  rw [hempty, String.toList_empty, List.length_nil] at hlen
  omega

theorem Command.Tells.bare_ne_empty {r : Readings} {command : Command} {report : Report}
    (h : command.Tells r report) : report.bare ≠ "" := by
  cases command with
  | keygen =>
    obtain ⟨key, rfl⟩ := h
    apply append_ne_empty_left
    apply append_ne_empty_right
    decide
  | pubkey =>
    obtain ⟨own, -, rfl⟩ := h
    exact String.ofList_ne_empty (List.cons_ne_nil _ _)
  | secret peer =>
    obtain ⟨own, key, secret, -, -, -, rfl⟩ := h
    apply append_ne_empty_left
    apply Hex.encodeText_ne_empty
    rw [Vector.length_toList]
    decide
  | encrypt kind recipient input =>
    obtain ⟨own, c, envelope, -, -, hsealed, rfl⟩ := h
    obtain ⟨text, -, hhex⟩ := sealContent_eq_ok_iff.mp hsealed
    obtain ⟨key, iv, secret, -, -, -, rfl⟩ := sealHex_eq_ok_iff.mp hhex
    apply Hex.encodeText_ne_empty
    rw [length_sealWith]
    omega
  | decrypt kind sender source =>
    obtain ⟨own, envelope, c, -, -, -, rfl⟩ := h
    exact Json.Value.render_object_ne_empty _

/-! ## Whole runs -/

theorem line_eq_empty_iff (text : String) : line text = "" ↔ text = "" := by
  unfold line
  split_ifs with h
  · simp [h]
  · simp [h]

section

variable {σ : Type} {host : Host (StateM σ)} {i : Invocation} {s s₁ : σ}

theorem runLine_run {environment : Option String} {arguments : List String}
    (hline : CommandLine.parse environment arguments = .ok i) (s : σ) :
    (runLine host environment arguments).run s =
      (.ok ((i.run host).run s).1, ((i.run host).run s).2) := by
  unfold runLine
  rw [hline]
  rfl

/-- The outcome of a part that told something or had trouble: its status, and an output
exactly if there was no trouble. -/
theorem Outcome.ofResult_status (format : Report.Format) (time : String) (notes : List String)
    {result : Except Trouble Report} (h : ∀ report, result = .ok report → report.bare ≠ "") :
    let outcome := Outcome.ofResult format time notes result
    outcome.exit.code = endStatus result ∧ (outcome.output = "" ↔ outcome.exit.code ≠ 0) := by
  rcases result with t | report
  · have hpos := t.code_pos
    exact ⟨rfl, iff_of_true rfl (Nat.ne_of_gt hpos)⟩
  · have hne : line (report.render format time) ≠ "" := by
      rw [Ne, line_eq_empty_iff]
      exact Report.render_ne_empty (h report rfl) format time
    exact ⟨rfl, iff_of_false hne fun hcode => hcode rfl⟩

/-- With settings, a run checks the stages of its command, and what the command tells is
reported. -/
theorem Invocation.run_checks {file : Settings}
    (h : (Settings.loadFrom host i.options.config).run s = (.ok file, s₁)) :
    let r := ((i.command.readings host (file.override i.options.overrides).identity).run s₁).1
    ∃ result time notes s₂, (i.run host).run s =
        (.ofResult (.ofStringD (file.override i.options.overrides).format) time notes result, s₂) ∧
      StopsWith r.Fails i.command.stages (endStatus result) ∧
      ∀ report, result = .ok report → i.command.Tells r report := by
  intro r
  obtain ⟨result, s₂, hends, hstages, htells⟩ := i.command.perform_checks host
    (file.override i.options.overrides).identity (i.options.verbose &&
      Report.Format.ofStringD (file.override i.options.overrides).format = .table) s₁
  obtain ⟨time, notes, s₃, hrun⟩ := Invocation.run_of_settings h hends
  exact ⟨result, time, notes, s₃, hrun, hstages, htells⟩

end

/-- A run that finds no settings ends with the status six and asks for nothing more. With
settings, the status is that of the first stage of the command that fails, and zero if none
does; it is never six. There is an output exactly if the status is zero. -/
theorem run_status {σ : Type} (host : Host (StateM σ)) (environment : Option String)
    (arguments : List String) (i : Invocation)
    (hline : CommandLine.parse environment arguments = .ok i) (s : σ) :
    ∃ outcome s', (runLine host environment arguments).run s = (.ok outcome, s') ∧
      (outcome.output = "" ↔ outcome.exit.code ≠ 0) ∧
      (∀ fault s₁, (Settings.loadFrom host i.options.config).run s = (.error fault, s₁) →
        outcome.exit.code = 6 ∧ s' = s₁) ∧
      (∀ file s₁, (Settings.loadFrom host i.options.config).run s = (.ok file, s₁) →
        let r := ((i.command.readings host (file.override i.options.overrides).identity).run s₁).1
        StopsWith r.Fails i.command.stages outcome.exit.code ∧ outcome.exit.code ≠ 6 ∧
          (outcome.exit.code = 0 ↔ ∀ stage ∈ i.command.stages, ¬ r.Fails stage) ∧
          (i.command = .keygen → outcome.exit.code = 0)) := by
  rw [runLine_run hline]
  rcases hload : (Settings.loadFrom host i.options.config).run s with ⟨fault | file, s₁⟩
  · rw [Invocation.run_of_fault hload]
    refine ⟨_, s₁, rfl, iff_of_true rfl (Nat.succ_ne_zero 5), ?_, ?_⟩
    · rintro _ _ ⟨⟩
      exact ⟨rfl, rfl⟩
    · rintro _ _ ⟨⟩
  · obtain ⟨result, time, notes, s', hrun, hstages, htells⟩ := Invocation.run_checks hload
    obtain ⟨hcode, houtput⟩ := Outcome.ofResult_status
      (.ofStringD (file.override i.options.overrides).format) time notes
      fun report hreport => (htells report hreport).bare_ne_empty
    rw [hrun]
    refine ⟨_, s', rfl, houtput, ?_, ?_⟩
    · rintro _ _ ⟨⟩
    · rintro _ _ ⟨⟩
      rw [hcode]
      refine ⟨hstages, Nat.ne_of_lt hstages.lt_six, hstages.eq_zero_iff, ?_⟩
      intro hkeygen
      rw [hstages.eq_zero_iff, hkeygen]
      exact List.forall_mem_nil _

/-- Surroundings with nothing but an input, and a vector if the random source works. -/
def bareHost (input : Bytes) (vector? : Option Cipher.Block) : Host (StateM Unit) where
  bytesAt _ := return .error .notFound
  holds _ := return false
  inputBytes := return .ok input
  settingsPath := none
  newKey := return ⟨1, by decide, by decide⟩
  newVector := return vector?
  now := return ""

/-- A text that is no key comes before an input that is no text. -/
theorem run_status_of_two_faults :
    CommandLine.parse none ["--key", "x", "encrypt", "--type", "new_funds_content", "--to", "y"] =
        .ok ⟨.encrypt .fundsRequest "y" .standard,
          ⟨none, false, false, none, some "x", none⟩⟩ ∧
      ∃ outcome s', (runLine (bareHost [0xff] none) none
          ["--key", "x", "encrypt", "--type", "new_funds_content", "--to", "y"]).run () =
            (.ok outcome, s') ∧
        outcome.exit.code = 3 ∧ outcome.output = "" := by
  obtain ⟨hline, hfault⟩ : CommandLine.parse none
      ["--key", "x", "encrypt", "--type", "new_funds_content", "--to", "y"] =
        .ok ⟨.encrypt .fundsRequest "y" .standard,
          ⟨none, false, false, none, some "x", none⟩⟩ ∧
      PrivateKey.ofString "x" = .error (.wifLength 1) := by
    decide +kernel
  obtain ⟨outcome, s', hrun, houtput, -, hstages⟩ :=
    run_status (bareHost [0xff] none) none _ _ hline ()
  obtain ⟨hstops, -⟩ := hstages .default () rfl
  have hkey := Except.exists_error_iff.mp ⟨_, hfault⟩
  have hcode : outcome.exit.code = 3 := by
    apply hstops.unique
    apply StopsWith.passed (by rintro ⟨⟩)
    apply StopsWith.failed .ownKey
    rintro own ⟨text, ⟨⟩, hown⟩
    exact hkey own hown
  refine ⟨hline, outcome, s', hrun, hcode, houtput.mpr ?_⟩
  rw [hcode]
  decide

end OffchainSeal
