import OffchainSeal.Command.Run
import OffchainSeal.Proofs.Json.Render

/-!
# Errors in contexts

A part of a run that passes an error on may put around it what it was doing, and so may the
parts around that one. The exit is looked for along the whole chain, from the outside in. It
does not depend on what was put around the error, and the message tells all of it.

Results:
* `Exit.ofChain_append`: errors without an exit of their own are passed.
* `Trouble.around_eq`: what was put around last is the outermost.
* `exit_through_contexts`: the exit, the message and the document of an error in contexts.
-/

namespace OffchainSeal

/-! ## The exit along a chain -/

theorem Link.exit?_eq_none_iff {link : Link} :
    link.exit? = none ↔ ∃ wording, link = .other wording := by
  cases link <;> simp [Link.exit?]

/-- Errors without an exit of their own are passed. -/
theorem Exit.ofChain_append {front : List Link} (h : ∀ link ∈ front, link.exit? = none)
    (behind : List Link) : Exit.ofChain (front ++ behind) = Exit.ofChain behind := by
  induction front with
  | nil => rfl
  | cons link front ih =>
    have hlink := h link List.mem_cons_self
    rw [List.cons_append, Exit.ofChain, hlink]
    exact ih fun l hl => h l (List.mem_cons_of_mem link hl)

theorem Exit.ofChain_others {chain : List Link}
    (h : ∀ link ∈ chain, ∃ wording, link = .other wording) :
    Exit.ofChain chain = .generalError := by
  have hnone : ∀ link ∈ chain, link.exit? = none :=
    fun link hlink => Link.exit?_eq_none_iff.mpr (h link hlink)
  have happend := Exit.ofChain_append hnone []
  rw [List.append_nil] at happend
  exact happend

/-! ## Contexts around a cause -/

/-- The cause with contexts put around it one after the other. -/
def Trouble.around (cause : Cause) (contexts : List String) : Trouble :=
  contexts.foldl (fun t context => t.within context) (.ofCause cause)

/-- What was put around last is the outermost. -/
theorem Trouble.around_eq (cause : Cause) (contexts : List String) :
    Trouble.around cause contexts = ⟨contexts.reverse, cause⟩ := by
  have hfold : ∀ t : Trouble, contexts.foldl (fun t context => t.within context) t =
      ⟨contexts.reverse ++ t.contexts, t.cause⟩ := by
    induction contexts with
    | nil => intro t; rfl
    | cons context contexts ih =>
      intro t
      rw [List.foldl_cons, ih]
      simp [Trouble.within]
  unfold Trouble.around
  rw [hfold]
  simp [Trouble.ofCause]

theorem Trouble.exit_around (cause : Cause) (contexts : List String) :
    (Trouble.around cause contexts).exit = .ofChain cause.chain := by
  rw [Trouble.around_eq]
  refine Exit.ofChain_append (fun link hlink => ?_) cause.chain
  obtain ⟨context, -, rfl⟩ := List.mem_map.mp hlink
  rfl

theorem Trouble.message_around (cause : Cause) (contexts : List String) :
    (Trouble.around cause contexts).message =
      ": ".intercalate (contexts.reverse ++ cause.chain.map Link.message) := by
  have hmessage : Link.message ∘ Link.other = id := rfl
  rw [Trouble.around_eq, Trouble.message, Trouble.chain, List.map_append, List.map_map, hmessage,
    List.map_id]

/-! ## Causes with an exit -/

/-- The causes of the types that exits are told by: the exit, the wording of the cause, and
those of what lies behind it. -/
inductive Cause.Classified : Cause → Exit → String → List String → Prop
  | failure (f : Failure) : Classified (.failure f) (.ofFailure f) f.message []
  | unreadable (fault : FileFault) (detail : String) :
      Classified (.settings (.unreadable fault) detail) .configurationError
        s!"Failed to read config file: {fault.message}" [fault.message]
  | malformed (detail : String) :
      Classified (.settings .malformed detail) .configurationError
        s!"Failed to parse config file: {detail}" [detail]
  | badFormat (format detail : String) :
      Classified (.settings (.badFormat format) detail) .configurationError
        (Settings.Fault.badFormat format).message []
  | badLevel (level detail : String) :
      Classified (.settings (.badLevel level) detail) .configurationError
        (Settings.Fault.badLevel level).message []
  | twoKeys (detail : String) :
      Classified (.settings .twoKeys detail) .configurationError Settings.Fault.twoKeys.message []

theorem Cause.Classified.chain {cause : Cause} {exit : Exit} {own : String} {behind : List String}
    (h : cause.Classified exit own behind) :
    Exit.ofChain cause.chain = exit ∧ cause.chain.map Link.message = own :: behind := by
  cases h <;> exact ⟨rfl, rfl⟩

/-- However many contexts are put around a failure or a fault of the settings, the exit is its
own. The message is the contexts from the outermost to the innermost, the wording of the cause
and those of what lies behind it; the document has the message and both forms of the exit, and
a run that ends with it ends with this exit. A chain with neither a failure nor a fault of the
settings has the general exit. -/
theorem exit_through_contexts (cause : Cause) (exit : Exit) (own : String) (behind : List String)
    (h : cause.Classified exit own behind) (contexts : List String) :
    let t := Trouble.around cause contexts
    let text := ": ".intercalate (contexts.reverse ++ own :: behind)
    t.exit = exit ∧ t.message = text ∧
      (∀ time, Json.Denotes (t.render .json time).toList
        (.object [("error".toList, .text text.toList),
          ("exit_code".toList, .number (Nat.toDigits 10 exit.code)),
          ("exit_code_name".toList, .text exit.name.toList),
          ("success".toList, .boolean false), ("timestamp".toList, .text time.toList)])) ∧
      (∀ time, t.render .table time = "Error: " ++ text) ∧
      (∀ format time notes, (Outcome.ofResult format time notes (.error t)).exit = exit) ∧
      ∀ chain : List Link, (∀ link ∈ chain, ∃ wording, link = .other wording) →
        Exit.ofChain chain = .generalError := by
  intro t text
  obtain ⟨hchain, hwordings⟩ := h.chain
  have hexit : t.exit = exit := (Trouble.exit_around cause contexts).trans hchain
  have hmessage : t.message = text := by
    show t.message = ": ".intercalate (contexts.reverse ++ own :: behind)
    rw [← hwordings]
    exact Trouble.message_around cause contexts
  refine ⟨hexit, hmessage, fun time => ?_, fun time => ?_, fun format time notes => hexit,
    fun chain hothers => Exit.ofChain_others hothers⟩
  · rw [← hexit, ← hmessage]
    exact Json.denotes_render (t.document time)
  · rw [← hmessage]
    rfl

/-- A tag that is not the right one, found while content was opened for a batch. -/
theorem exit_through_contexts_of_authentication :
    Cause.Classified (.failure .authentication) .authenticationFailed
        "authentication failed: hmac tag mismatch" [] ∧
      (Trouble.around (.failure .authentication) ["decrypting content", "batch"]).exit.code = 2 ∧
      (Trouble.around (.failure .authentication) ["decrypting content", "batch"]).message =
        "batch: decrypting content: authentication failed: hmac tag mismatch" := by
  have h : Cause.Classified (.failure .authentication) .authenticationFailed
      "authentication failed: hmac tag mismatch" [] := .failure .authentication
  obtain ⟨hexit, hmessage, -⟩ := exit_through_contexts _ _ _ _ h ["decrypting content", "batch"]
  refine ⟨h, by rw [hexit]; rfl, ?_⟩
  rw [hmessage]
  decide

end OffchainSeal
