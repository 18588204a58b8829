import OffchainSeal.Text.Width.Letter

/-!
# Columns of a character in its context

A text is measured from its end. What has been measured is remembered as far as the
character in front of it needs it: a character may form one sign with what follows it,
and then takes fewer columns than by itself, or the columns of the sign.
-/

namespace OffchainSeal.Text

/-! ## What follows a character -/

/-- The part of an emoji between a character and the joiner that ties it to the
pictograph behind that joiner. -/
inductive Joined where
  | nothing
  | keycap
  | indicator
  | evenIndicators
  | oddIndicators
  | tagLetters (n : Nat)
  | tagDigits (n : Nat)

/-- What follows a character. -/
inductive Ahead where
  | other
  | modifier
  | indicator
  | indicators
  | pictograph
  | joiner (part : Joined)
  | vowel (v : VowelSign)
  | letter (l : Letter) (joined : Bool)

/-- What follows a character, and the selectors in front of that. -/
structure Context where
  ahead : Ahead
  emojiStyle : Bool
  textStyle : Bool
  wideStyle : Bool

/-- The context without selectors. -/
def Context.of (ahead : Ahead) : Context := ⟨ahead, false, false, false⟩

/-! ## Selectors -/

/-- The context behind the selector of the emoji style. Letters, and a joiner with
nothing or a keycap, are still seen through it. -/
def Context.awaitEmoji (x : Context) : Context :=
  match x.ahead with
  | .letter _ _ | .joiner .nothing | .joiner .keycap => { x with emojiStyle := true }
  | _ => ⟨.other, true, false, false⟩

/-- The context behind the selector of the text style. Letters are still seen through
it. -/
def Context.awaitText (x : Context) : Context :=
  match x.ahead with
  | .letter _ _ => { x with textStyle := true }
  | _ => ⟨.other, false, true, false⟩

/-- The context behind the selector of the wide variant. Letters are still seen
through it. -/
def Context.awaitWide (x : Context) : Context :=
  match x.ahead with
  | .letter _ _ => { x with wideStyle := true }
  | _ => ⟨.other, false, false, true⟩

/-- The context when the character in front of it has no emoji style to select. -/
def Context.dropEmoji (x : Context) : Context :=
  if x.emojiStyle then
    match x.ahead with
    | .letter _ _ => { x with emojiStyle := false }
    | _ => .of .other
  else x

/-- The columns of an emoji in front of its selector: none if a joiner ties it to a
pictograph. -/
def Context.selectedWidth (x : Context) : Int :=
  match x.ahead with
  | .joiner .nothing | .joiner .keycap => 0
  | _ => 2

/-! ## Joining -/

/-- What a character by itself is to the character before it. -/
def Ahead.ofChar (c : Char) : Ahead :=
  if isModifier c then .modifier
  else if isRegionalIndicator c then .indicator
  else if isPictograph c then .pictograph
  else
    match Letter.ofChar? c, VowelSign.ofChar? c with
    | some l, _ => .letter l false
    | none, some v => .vowel v
    | none, none => .other

/-- The columns a character adds to an emoji that a joiner ties to a pictograph, and
what it makes of the context. -/
def Joined.join? (c : Char) : Joined → Option (Int × Ahead)
  | .nothing =>
    if c = keycapMark then some (0, .joiner .keycap)
    else if isRegionalIndicator c then some (1, .joiner .indicator)
    else if isModifier c then some (0, .modifier)
    else if isTagEnd c then some (0, .joiner (.tagLetters 0))
    else if isPictograph c then some (0, .pictograph)
    else none
  | .keycap => none
  | .indicator => if isRegionalIndicator c then some (-1, .joiner .evenIndicators) else none
  | .evenIndicators =>
    if isRegionalIndicator c then some (3, .joiner .oddIndicators)
    else if c = Text.joiner then some (0, .joiner .nothing)
    else none
  | .oddIndicators =>
    if isRegionalIndicator c then some (-1, .joiner .evenIndicators)
    else if c = Text.joiner then some (0, .joiner .nothing)
    else none
  | .tagLetters n =>
    if isTagLetter c && n < 6 then some (0, .joiner (.tagLetters (n + 1)))
    else if isTagDigit c && n ≤ 4 then some (0, .joiner (.tagDigits 1))
    else if isTaggedFlag c && 3 ≤ n then some (0, .pictograph)
    else none
  | .tagDigits n =>
    if isTagDigit c && n < 3 then some (0, .joiner (.tagDigits (n + 1)))
    else if isTaggedFlag c && n = 3 then some (0, .pictograph)
    else none

/-- The columns a character adds if it forms one sign with what follows it, and what
it makes of the context. -/
def Ahead.join? (c : Char) : Ahead → Option (Int × Ahead)
  | .other => none
  | .modifier =>
    if isModifierBase c then some (0, .pictograph)
    else if c = Text.joiner then some (0, .joiner .nothing)
    else none
  | .indicator => if isRegionalIndicator c then some (1, .indicators) else none
  | .indicators =>
    if isRegionalIndicator c then some (1, .indicators)
    else if c = Text.joiner then some (0, .joiner .nothing)
    else none
  | .pictograph => if c = Text.joiner then some (0, .joiner .nothing) else none
  | .joiner part => part.join? c
  | .vowel v => (v.join? c).map fun (n, rest) => (n, rest.elim .other .vowel)
  | .letter l joined =>
    (l.join? joined c).map fun (n, rest) => (n, rest.elim .other (.letter · false))

/-- The columns of a character in front of a context without a selector that concerns
it, and its own context. -/
def Context.push (c : Char) (x : Context) : Int × Context :=
  let alone : Int × Context := (charWidth c, .of (.ofChar c))
  match x.ahead with
  | .letter l joined =>
    if l.isTransparentTo c then (0, { x with ahead := .letter l (joined || c = joiner) })
    else if x.wideStyle then alone
    else ((x.ahead.join? c).map fun (n, a) => (n, Context.of a)).getD alone
  | a => ((a.join? c).map fun (n, a) => (n, Context.of a)).getD alone

/-- The columns of a character in front of a context, and the context of the character
before it. Nothing is joined with a control character or an ASCII one, selected emoji
aside. -/
def Context.step (c : Char) (x : Context) : Int × Context :=
  if x.emojiStyle && hasEmojiStyle c then (x.selectedWidth, .of .pictograph)
  else if c.toNat ≤ 0xa0 then (1, .of .other)
  else
    let x := x.dropEmoji
    if c = emojiSelector then (0, x.awaitEmoji)
    else if c = textSelector then (0, x.awaitText)
    else if c = wideSelector then (0, x.awaitWide)
    else if x.textStyle then
      if hasTextStyle c then (1, .of .other) else push c { x with textStyle := false }
    else if x.wideStyle then
      if hasWideStyle c then (2, .of .other) else push c { x with wideStyle := false }
    else push c x

end OffchainSeal.Text
