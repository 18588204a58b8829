import OffchainSeal.Proofs.Command.Line
import OffchainSeal.Proofs.Command.Status
import OffchainSeal.Proofs.Content.Document

/-!
# From one run to the next

What a run seals, another run opens: it takes the output of the first as it is written, with
its line end, or the envelope in it, from an argument, a file or the standard input.

* `Start.Finds`, `Start.Writes`: what a run reads before its work, and what it writes.
* `writes_sealed`, `writes_opened`: runs that seal and that open.
* `pipe_round_trip`: one after the other.
-/

namespace OffchainSeal

/-! ## Responses -/

/-- The member of an object with a name. -/
def Json.Tree.member? (name : String) : Json.Tree → Option Json.Tree
  | .object ms => ms.lookup name.toList
  | _ => none

/-- The content in the data of a response. -/
def Json.Tree.content? (t : Json.Tree) : Option Json.Tree :=
  t.member? "data" >>= Json.Tree.member? "content"

/-- A line end behind a document changes nothing. -/
theorem Json.Denotes.append_newline {cs : List Char} {t : Json.Tree} (h : Json.Denotes cs t) :
    Json.Denotes (cs ++ ['\n']) t := by
  obtain ⟨front, body, back, hfront, hbody, hback, rfl⟩ := h
  refine ⟨front, body, back ++ ['\n'], hfront, hbody, ?_, List.append_assoc _ _ _⟩
  intro c hc
  rcases List.mem_append.mp hc with hc | hc
  · exact hback c hc
  · obtain rfl := List.mem_singleton.mp hc
    exact .inr (.inr (.inl rfl))

/-- The output shows the envelope: alone on its line, or in a response. -/
def ShowsEnvelope (envelope output : String) : Report.Format → Prop
  | .table | .quiet => output = envelope ++ "\n"
  | .json => ∃ t, Json.Denotes output.toList t ∧ t.content? = some (.text envelope.toList)

/-- The output shows the content: as a document on its own, or in a response. -/
def ShowsContent (c : Content) (output : String) : Report.Format → Prop
  | .table => True
  | .quiet => ∃ document, output = document ++ "\n" ∧
      Content.ofJson c.kind document = .ok c ∧ Content.ofJson c.kind output = .ok c
  | .json => ∃ t content, Json.Denotes output.toList t ∧ t.content? = some content ∧
      (∃ document : String, Json.Denotes document.toList content) ∧
      ∀ document : String, Json.Denotes document.toList content →
        Content.ofJson c.kind document = .ok c

theorem line_of_ne_empty {text : String} (h : text ≠ "") : line text = text ++ "\n" :=
  if_neg h

theorem denotes_line_render (v : Json.Value) : Json.Denotes (line v.render).toList v.toTree := by
  unfold line
  split_ifs with h
  · have hv := Json.denotes_render v
    rwa [h] at hv
  · rw [String.toList_append]
    exact (Json.denotes_render v).append_newline

theorem showsEnvelope_render (kind : Content.Kind) {envelope : String} (h : envelope ≠ "")
    (format : Report.Format) (time : String) :
    ShowsEnvelope envelope (line ((Report.sealed kind envelope).render format time)) format := by
  cases format with
  | table => exact line_of_ne_empty h
  | json => exact ⟨_, denotes_line_render _, rfl⟩
  | quiet => exact line_of_ne_empty h

theorem showsContent_render (c : Content) (format : Report.Format) (time : String) :
    ShowsContent c (line ((Report.opened c).render format time)) format := by
  have hread : ∀ document : String, Json.Denotes document.toList (.object c.toRow.members) →
      Content.ofJson c.kind document = .ok c := by
    intro document hdocument
    have hmembers := Content.Row.hasMembers_members (Content.nodup_names c.kind) c.toRow
    exact Content.ofJson_eq_ok_iff.mpr ⟨rfl, _, hdocument, hmembers⟩
  have hwritten : Json.Denotes c.toJson.toList (.object c.toRow.members) := by
    rw [← Content.Row.toTree_toDocument]
    exact Json.denotes_render c.toDocument
  cases format with
  | table => trivial
  | json =>
    refine ⟨_, .object c.toRow.members, denotes_line_render _, ?_, ⟨_, hwritten⟩, hread⟩
    rw [← Content.Row.toTree_toDocument]
    rfl
  | quiet =>
    refine ⟨c.toJson, line_of_ne_empty ?_, hread _ hwritten, ?_⟩
    · exact Json.Value.render_object_ne_empty _
    · apply hread
      rw [← Content.Row.toTree_toDocument]
      exact denotes_line_render c.toDocument

/-! ## Stages that pass -/

section

variable {r : Readings} {own : PrivateKey} {kind : Content.Kind} {c : Content}

theorem Readings.passes_encrypt {recipient envelope : String} (hown : r.HasKey own)
    (hcontent : r.HasContent kind c)
    (hsealed : sealContent c own recipient r.vector? = .ok envelope) (input : Input) :
    ∀ stage ∈ (Command.encrypt kind recipient input).stages, ¬ r.Fails stage := by
  have hseal := sealContent_stops hcontent own recipient
  rw [hsealed] at hseal
  have hlast := hseal.eq_zero_iff.mp rfl
  have hkeySource : ¬ r.Fails .keySource := hown.readable
  have hownKey : ¬ r.Fails .ownKey := fun hnone => hnone own hown
  have hinput : ¬ r.Fails .input := hcontent.readable
  have hdocument : ¬ r.Fails (.document kind) := fun hnone => hnone c hcontent
  unfold Command.stages
  rw [List.forall_mem_cons, List.forall_mem_cons, List.forall_mem_cons, List.forall_mem_cons]
  exact ⟨hkeySource, hownKey, hinput, hdocument, hlast⟩

theorem Readings.passes_decrypt {envelope sender : String} (hown : r.HasKey own)
    (hinput : r.input? = some envelope)
    (hopened : openContent envelope own sender kind = .ok c) (source : EnvelopeSource) :
    ∀ stage ∈ (Command.decrypt kind sender source).stages, ¬ r.Fails stage := by
  have hopen := openContent_stops hinput hown sender kind
  rw [hopened] at hopen
  have hlast := hopen.eq_zero_iff.mp rfl
  have hkeySource : ¬ r.Fails .keySource := hown.readable
  have hownKey : ¬ r.Fails .ownKey := fun hnone => hnone own hown
  have hreadable : ¬ r.Fails .input := by
    intro hnone
    cases hinput.symm.trans hnone
  unfold Command.stages
  rw [List.forall_mem_cons, List.forall_mem_cons, List.forall_mem_cons]
  exact ⟨hkeySource, hownKey, hreadable, hlast⟩

end

/-! ## Runs -/

/-- A run that is about to begin. -/
structure Start (σ : Type) where
  host : Host (StateM σ)
  environment : Option String
  arguments : List String
  state : σ

namespace Start

variable {σ : Type} (start : Start σ)

/-- The line asks for the command. The run finds its settings, which report in the format,
and its own key, and then the text in its place; that leaves a state. -/
def Finds (command : Command) (format : Report.Format) (own : PrivateKey)
    (source : EnvelopeSource) (text : String) (s' : σ) : Prop :=
  ∃ i file keyText s₁ s₂, CommandLine.parse start.environment start.arguments = .ok i ∧
    i.command = command ∧
    (Settings.loadFrom start.host i.options.config).run start.state = (.ok file, s₁) ∧
    Report.Format.ofStringD (file.override i.options.overrides).format = format ∧
    ((file.override i.options.overrides).identity.keyText? start.host).run s₁ =
      (some keyText, s₂) ∧
    PrivateKey.ofString keyText = .ok own ∧ source.Delivers start.host s₂ text s'

/-- The run ends with success and writes the output. -/
def Writes (output : String) : Prop :=
  ∃ outcome s', (runLine start.host start.environment start.arguments).run start.state =
    (.ok outcome, s') ∧ outcome.exit = .success ∧ outcome.output = output

variable {start} {own : PrivateKey} {kind : Content.Kind} {format : Report.Format} {s' : σ}

/-- A run with settings in which no stage fails writes what its command tells. -/
theorem writes_of_readings {i : Invocation} {file : Settings} {s₁ : σ} {r : Readings}
    (hline : CommandLine.parse start.environment start.arguments = .ok i)
    (hload : (Settings.loadFrom start.host i.options.config).run start.state = (.ok file, s₁))
    (hr : ((i.command.readings start.host
      (file.override i.options.overrides).identity).run s₁).1 = r)
    (hpasses : ∀ stage ∈ i.command.stages, ¬ r.Fails stage) :
    ∃ report time, i.command.Tells r report ∧ start.Writes
      (line (report.render (.ofStringD (file.override i.options.overrides).format) time)) := by
  obtain ⟨result, time, notes, s₂, hrun, hstages, htells⟩ := Invocation.run_checks hload
  rw [hr] at hstages htells
  have hstatus := hstages.eq_zero_iff.mpr hpasses
  rcases result with t | report
  · have hpos := t.code_pos
    exact absurd hstatus (Nat.ne_of_gt hpos)
  · refine ⟨report, time, htells report rfl, .ofResult _ time notes (.ok report), s₂, ?_, rfl, rfl⟩
    rw [runLine_run hline, hrun]

/-- A run that seals shows the envelope. -/
theorem Finds.writes_sealed {recipient document : String} {input : Input} {c : Content}
    {key : PublicKey} {iv : Cipher.Block}
    (h : start.Finds (.encrypt kind recipient input) format own (.input input) document s')
    (hdocument : Content.ofJson kind document = .ok c) (hfits : c.toRow.Fits)
    (hkey : PublicKey.ofString recipient = .ok key)
    (hvector : (start.host.newVector.run s').1 = some iv) :
    ∃ envelope output, sealContent c own recipient (some iv) = .ok envelope ∧
      start.Writes output ∧ ShowsEnvelope envelope output format := by
  obtain ⟨⟨command, options⟩, file, keyText, s₁, s₂, hline, hcommand, hload, rfl, hkeyText, hown,
    hsource⟩ := h
  dsimp only at hcommand
  subst hcommand
  obtain ⟨envelope, hsealed⟩ := sealContent_ok_of_fits (a := own) hfits hkey iv
  cases hsource with
  | input hinput =>
    have hr := Command.readings_encrypt kind recipient hkeyText hinput.text?_run
      (Prod.eta (start.host.newVector.run s')).symm
    rw [hvector] at hr
    have hHasKey : Readings.HasKey ⟨some keyText, some document, some iv⟩ own :=
      ⟨keyText, rfl, hown⟩
    have hHasContent : Readings.HasContent ⟨some keyText, some document, some iv⟩ kind c :=
      ⟨document, rfl, hdocument⟩
    obtain ⟨report, time, htells, hwrites⟩ := writes_of_readings hline hload hr
      (Readings.passes_encrypt hHasKey hHasContent hsealed input)
    have hne := htells.bare_ne_empty
    obtain ⟨own', c', envelope', hown', hcontent', hsealed', rfl⟩ := htells
    obtain rfl := hHasKey.unique hown'
    obtain rfl := hHasContent.unique hcontent'
    exact ⟨envelope', _, hsealed', hwrites, showsEnvelope_render kind hne _ time⟩

/-- A run that opens shows the content. -/
theorem Finds.writes_opened {sender envelope : String} {source : EnvelopeSource} {c : Content}
    (h : start.Finds (.decrypt kind sender source) format own source envelope s')
    (hopened : openContent envelope own sender kind = .ok c) :
    ∃ output, start.Writes output ∧ ShowsContent c output format := by
  obtain ⟨⟨command, options⟩, file, keyText, s₁, s₂, hline, hcommand, hload, rfl, hkeyText, hown,
    hsource⟩ := h
  dsimp only at hcommand
  subst hcommand
  have hr := Command.readings_decrypt kind sender hkeyText hsource.text?_run
  have hHasKey : Readings.HasKey ⟨some keyText, some envelope, none⟩ own := ⟨keyText, rfl, hown⟩
  obtain ⟨report, time, htells, hwrites⟩ := writes_of_readings hline hload hr
    (Readings.passes_decrypt hHasKey rfl hopened source)
  obtain ⟨own', envelope', c', hown', ⟨⟩, hopened', rfl⟩ := htells
  obtain rfl := hHasKey.unique hown'
  obtain rfl := Except.ok.inj (hopened.symm.trans hopened')
  exact ⟨_, hwrites, showsContent_render c _ time⟩

end Start

/-! ## Main result -/

/-- An envelope with a line end is one of its spellings. -/
theorem Respelled.append_newline (h : String) : Respelled h (h ++ "\n") := by
  refine ⟨[], h.toList, ['\n'], by simp, List.forall_mem_nil _, ?_, ?_⟩
  · intro c hc
    obtain rfl := List.mem_singleton.mp hc
    decide
  · exact List.forall₂_same.mpr fun c _ => .inl rfl

/-- The line that asks to open an envelope as it may be spelt. -/
theorem parse_decrypt_respelled (environment : Option String) {a : PrivateKey} {key : PublicKey}
    {sA sB h w : String} {c : Content} {iv? : Option Cipher.Block}
    (hA : PublicKey.ofString sA = .ok key) (hsealed : sealContent c a sB iv? = .ok h)
    (hw : Respelled h w) :
    CommandLine.parse environment ["decrypt", "--type", c.kind.name, "--from", sA, w] =
      .ok ⟨.decrypt c.kind sA (.text w), ⟨none, false, false, none, environment, none⟩⟩ := by
  obtain ⟨text, -, hhex⟩ := sealContent_eq_ok_iff.mp hsealed
  obtain ⟨_, iv, secret, -, -, -, rfl⟩ := sealHex_eq_ok_iff.mp hhex
  have hdenotes := trim_respelled (Hex.denotes_encodeText _) hw
  have hne : sealWith secret iv text ≠ [] := by
    rw [← List.length_pos_iff, length_sealWith]
    omega
  exact CommandLine.parse_decrypt environment c.kind (CommandLine.Word.ofString_of_key hA)
    (CommandLine.Word.ofString_of_envelope hdenotes hne)

/-- Let one party seal a document for the other, in a run that gets a vector. The run ends
with success and shows an envelope. Given the envelope, or the output if it is no response,
with blanks around it, from an argument, a file or the standard input, a run of the other
party ends with success and shows the content of the document. -/
theorem pipe_round_trip {σ τ : Type} (a b : PrivateKey) (sA sB : String)
    (hA : PublicKey.ofString sA = .ok a.publicKey) (hB : PublicKey.ofString sB = .ok b.publicKey)
    (kind : Content.Kind) (document : String) (c : Content)
    (hdocument : Content.ofJson kind document = .ok c) (hfits : c.toRow.Fits)
    (first : Start σ) (format : Report.Format) (input : Input) (s' : σ)
    (hfirst : first.Finds (.encrypt kind sB input) format a (.input input) document s')
    (hvector : (first.host.newVector.run s').1 ≠ none) :
    (∀ environment, CommandLine.parse environment ["encrypt", "--type", kind.name, "--to", sB] =
        .ok ⟨.encrypt kind sB .standard, ⟨none, false, false, none, environment, none⟩⟩) ∧
      ∃ h output, first.Writes output ∧ ShowsEnvelope h output format ∧
        (format ≠ .json → Respelled h output) ∧
        ∀ w, Respelled h w →
          (∀ environment,
            CommandLine.parse environment ["decrypt", "--type", kind.name, "--from", sA, w] =
              .ok ⟨.decrypt kind sA (.text w),
                ⟨none, false, false, none, environment, none⟩⟩) ∧
          ∀ (second : Start τ) (format' : Report.Format) (source : EnvelopeSource) (t' : τ),
            second.Finds (.decrypt kind sA source) format' b source w t' →
              ∃ output', second.Writes output' ∧ ShowsContent c output' format' := by
  obtain ⟨iv, hiv⟩ := Option.ne_none_iff_exists'.mp hvector
  obtain ⟨h, output, hsealed, hwrites, hshows⟩ :=
    hfirst.writes_sealed hdocument hfits hB hiv
  obtain ⟨rfl, -⟩ := Content.ofJson_eq_ok_iff.mp hdocument
  refine ⟨fun environment => CommandLine.parse_encrypt environment c.kind
    (CommandLine.Word.ofString_of_key hB), h, output, hwrites, hshows, ?_, ?_⟩
  · intro hformat
    have houtput : output = h ++ "\n" := by
      cases format with
      | table => exact hshows
      | json => exact absurd rfl hformat
      | quiet => exact hshows
    rw [houtput]
    exact .append_newline h
  · intro w hw
    refine ⟨fun environment => parse_decrypt_respelled environment hA hsealed hw, ?_⟩
    intro second format' source t' hsecond
    have hopened := openContent_sealContent (SharedSecret.derive?_comm b a) hA hB hsealed hw
    exact hsecond.writes_opened hopened

/-- The holder of the private key 1 seals, and the holder of the private key 2 opens what is
printed. -/
theorem pipe_round_trip_one_two :
    let keyA := "5HpHagT65TZzG1PH3CSu63k8DbpvD8s5ip4nEB3kEsreAnchuDf"
    let keyB := "5HpHagT65TZzG1PH3CSu63k8DbpvD8s5ip4nEB3kEsreAvUcVfH"
    let sA := "FIO5p78kHbL33Rn3JWkTWRE2B9uz6gy4r1KbfAKLNQGE3ovMBS5bu"
    let sB := "FIO6PhSs6H49U1Lb6vz9GDtUF9RjtpFpkS6Rxm94LumQrnD1YqfSG"
    let document := "[\"purse.alice\", \"1\", \"FIO\", \"FIO\", \"für Bob\"]"
    let c := Content.fundsRequest ⟨"purse.alice", "1", "FIO", "FIO", some "für Bob", none, none⟩
    let first : Start Unit :=
      ⟨bareHost (Utf8.encode document.toList) (some (Vector.replicate 16 0)), none,
        ["--key", keyA, "encrypt", "--type", "request", "--to", sB], ()⟩
    let second (input : String) : Start Unit :=
      ⟨bareHost (Utf8.encode input.toList) none, some keyB,
        ["--output", "quiet", "decrypt", "--type", "request", "--from", sA], ()⟩
    ∃ output, first.Writes output ∧
      ∃ output', (second output).Writes output' ∧ ShowsContent c output' .quiet := by
  intro keyA keyB sA sB document c first second
  let a : PrivateKey := ⟨1, by decide, by decide⟩
  let b : PrivateKey := ⟨2, by decide, by decide⟩
  obtain ⟨hA, hB, hkeyA, hkeyB⟩ : PublicKey.ofString sA = .ok a.publicKey ∧
      PublicKey.ofString sB = .ok b.publicKey ∧ PrivateKey.ofString keyA = .ok a ∧
      PrivateKey.ofString keyB = .ok b := by
    decide +kernel
  obtain ⟨hread, hbytes, htable, hquiet, hlineA, hlineB⟩ :
      (Content.ofJson .fundsRequest document).toOption = some c ∧
        c.toBytes = .ok c.toRow.form ∧
        Report.Format.ofStringD "table" = .table ∧ Report.Format.ofStringD "quiet" = .quiet ∧
        CommandLine.parse none first.arguments = .ok ⟨.encrypt .fundsRequest sB .standard,
          ⟨none, false, false, none, some keyA, none⟩⟩ ∧
        CommandLine.parse (some keyB) (second "").arguments =
          .ok ⟨.decrypt .fundsRequest sA (.input .standard),
            ⟨some .quiet, false, false, none, some keyB, none⟩⟩ := by
    decide +kernel
  have hdocument := Except.toOption_eq_some_iff.mp hread
  have hfits : c.toRow.Fits := (Content.toBytes_eq_ok_iff.mp hbytes).1
  have hfirst : first.Finds (.encrypt .fundsRequest sB .standard) .table a (.input .standard)
      document () :=
    ⟨_, .default, keyA, (), (), hlineA, rfl, rfl, htable, rfl, hkeyA, .input (.standard rfl)⟩
  obtain ⟨-, h, output, hwrites, -, hrespelled, hopens⟩ := pipe_round_trip (τ := Unit) a b sA sB
    hA hB .fundsRequest document c hdocument hfits first .table .standard () hfirst
    (Option.some_ne_none _)
  have hsecond : (second output).Finds (.decrypt .fundsRequest sA (.input .standard)) .quiet b
      (.input .standard) output () :=
    ⟨_, .default, keyB, (), (), hlineB, rfl, rfl, hquiet, rfl, hkeyB, .input (.standard rfl)⟩
  refine ⟨output, hwrites, ?_⟩
  exact (hopens output (hrespelled (by decide))).2 (second output) .quiet _ () hsecond

end OffchainSeal
