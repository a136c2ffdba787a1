/-
The number of terminal columns a line takes. Mostly each character takes its
own, but some are drawn as one with what follows: emoji with their selectors,
skin tones and joiners, flags, and the ligatures of some scripts. So a line is
read from its end, and each character is counted in the light of what stands
to the right of it.
-/
import WorkedEquations.Text.EmojiTable
import WorkedEquations.Text.Ligature

namespace WorkedEquations
namespace Text
namespace Columns

/-- What stands to the right of a character, as far as the character may be drawn as one with
it. -/
inductive Context where
  /-- Nothing of the kind. -/
  | plain
  /-- An emoji. -/
  | emoji
  /-- A skin tone. -/
  | tone
  /-- One flag letter. -/
  | flagLetter
  /-- Flag letters, two at least. -/
  | flagLetters
  /-- A joiner and an emoji. -/
  | joinedEmoji
  /-- The frame of a key, a joiner and an emoji. -/
  | joinedKey
  /-- One flag letter, a joiner and an emoji. -/
  | joinedFlagLetter
  /-- Flag letters, a joiner and an emoji; two letters at least, and an even number of them or
  not. -/
  | joinedFlagLetters (even : Bool)
  /-- Invisible letters, so many, the end of a region, a joiner and an emoji. -/
  | joinedTagLetters (count : Nat)
  /-- Invisible digits, so many, with perhaps letters behind them, then as before. -/
  | joinedTagDigits (count : Nat)
  /-- Kirat Rai e. -/
  | kiratE
  /-- Kirat Rai ai. -/
  | kiratAi
  /-- Arabic alef. -/
  | alef
  /-- Hebrew lamed, with a joiner before it or not. -/
  | lamed (joined : Bool)
  /-- Buginese ya, with a joiner before it or not. -/
  | ya (joined : Bool)
  /-- Buginese i, a joiner and ya. -/
  | vowelYa
  /-- A Tifinagh consonant, with a joiner before it or not. -/
  | tifinagh (joined : Bool)
  /-- The consonant joiner and a Tifinagh consonant. -/
  | joinedTifinagh
  /-- The second of two Lisu tone letters. -/
  | secondTone
  /-- Old Turkic i, with a joiner before it or not. -/
  | orkhonI (joined : Bool)
  /-- A Khmer letter that has a form below the line. -/
  | khmer
deriving DecidableEq

namespace Context

/-- Part of a ligature of letters. Selectors do not disturb it. -/
def isLetter : Context → Bool
  | alef | lamed _ | ya _ | vowelYa | tifinagh _ | joinedTifinagh | secondTone | orkhonI _
  | khmer => true
  | _ => false

/-- The context after a joiner, for letters outside Arabic. -/
def join : Context → Context
  | lamed _ => lamed true
  | ya _ => ya true
  | tifinagh _ => tifinagh true
  | orkhonI _ => orkhonI true
  | c => c

end Context

/-- How the character before it is to be drawn. -/
inductive Selector where
  | emoji
  | text
  /-- As a wide quotation mark. -/
  | wideQuote
deriving DecidableEq

/-- What is known of the right-hand side of a character: the nearest selector, if it comes at
once, and the context behind it. -/
structure State where
  context : Context
  selector : Option Selector
deriving DecidableEq

/-- Nothing to the right that matters. -/
def State.plain : State := ⟨.plain, none⟩

/-- The state before a selector. Emoji that follow a joiner bear the emoji selector only. -/
def State.select (s : State) (sel : Selector) : State :=
  if s.context.isLetter then { s with selector := some sel }
  else if sel = .emoji ∧ (s = ⟨.joinedEmoji, none⟩ ∨ s = ⟨.joinedKey, none⟩) then
    { s with selector := some sel }
  else ⟨.plain, some sel⟩

/-- The context that is left when the selector has no effect. -/
def State.remaining (s : State) : Context :=
  if s.selector = none ∨ s.context.isLetter then s.context else .plain

/-- The character that joins its two neighbours. -/
def joiner : Char := '\u200d'

/-- What a character comes to if it is drawn as one with its context: the columns it adds, or
takes back, and the context that it makes. -/
def combine (c : Char) : Context → Option (Int × Context)
  | .plain => none
  | .emoji => if c = joiner then some (0, .joinedEmoji) else none
  | .tone =>
    if Emoji.isTonable c then some (0, .emoji)
    else if c = joiner then some (0, .joinedEmoji)
    else none
  | .flagLetter => if Emoji.isFlagLetter c then some (1, .flagLetters) else none
  | .flagLetters =>
    if Emoji.isFlagLetter c then some (1, .flagLetters)
    else if c = joiner then some (0, .joinedEmoji)
    else none
  | .joinedEmoji =>
    if c = Emoji.keyFrame then some (0, .joinedKey)
    else if Emoji.isFlagLetter c then some (1, .joinedFlagLetter)
    else if Emoji.isTone c then some (0, .tone)
    else if c = Emoji.tagEnd then some (0, .joinedTagLetters 0)
    else if Emoji.isPicture c then some (0, .emoji)
    else none
  | .joinedKey => none
  | .joinedFlagLetter =>
    if Emoji.isFlagLetter c then some (-1, .joinedFlagLetters true) else none
  | .joinedFlagLetters even =>
    if Emoji.isFlagLetter c then some (if even then 3 else -1, .joinedFlagLetters !even)
    else if c = joiner then some (0, .joinedEmoji)
    else none
  | .joinedTagLetters n =>
    if Emoji.isTagLetter c ∧ n < 6 then some (0, .joinedTagLetters (n + 1))
    else if Emoji.isTagDigit c ∧ n ≤ 4 then some (0, .joinedTagDigits 1)
    else if c = Emoji.regionFlag ∧ 3 ≤ n then some (0, .emoji)
    else none
  | .joinedTagDigits n =>
    if Emoji.isTagDigit c ∧ n < 3 then some (0, .joinedTagDigits (n + 1))
    else if c = Emoji.regionFlag ∧ n = 3 then some (0, .emoji)
    else none
  | .kiratE =>
    if c.toNat = 0x16D63 ∨ c.toNat = 0x16D69 then some (0, .plain)
    else if c.toNat = 0x16D67 then some (0, .kiratAi)
    else if c.toNat = 0x16D68 then some (1, .kiratE)
    else none
  | .kiratAi => if c.toNat = 0x16D63 then some (0, .plain) else none
  | .alef =>
    if Ligature.isLam c then some (0, .plain)
    else if Ligature.isJoiningTransparent c then some (0, .alef)
    else none
  | .lamed joined => if joined ∧ c.toNat = 0x5D0 then some (0, .plain) else across (.lamed joined)
  | .ya joined => if joined ∧ c.toNat = 0x1A17 then some (0, .vowelYa) else across (.ya joined)
  | .vowelYa => if c.toNat = 0x1A15 then some (0, .plain) else across .vowelYa
  | .tifinagh joined =>
    if c.toNat = 0x2D7F then some (1, .joinedTifinagh)
    else if joined ∧ Ligature.isTifinaghConsonant c then some (0, .plain)
    else across (.tifinagh joined)
  | .joinedTifinagh =>
    if Ligature.isTifinaghConsonant c then some (-1, .plain) else across .joinedTifinagh
  | .secondTone => if Ligature.isFirstTone c then some (0, .plain) else across .secondTone
  | .orkhonI joined =>
    if joined ∧ c.toNat = 0x10C32 then some (0, .plain) else across (.orkhonI joined)
  | .khmer => if c.toNat = 0x17D2 then some (-1, .plain) else across .khmer
where
  /-- Joiners and invisible marks leave the ligature whole. -/
  across (context : Context) : Option (Int × Context) :=
    if c = joiner then some (0, context.join)
    else if Ligature.isInvisibleMark c then some (0, context)
    else none

/-- What a character comes to on its own. -/
def alone (c : Char) : Int × Context :=
  (charColumns c, context)
where
  /-- The context that the character makes. -/
  context : Context :=
    if Emoji.isFlagLetter c then .flagLetter
    else if Emoji.isTone c then .tone
    else if Emoji.isPicture c then .emoji
    else if c.toNat = 0x16D67 then .kiratE
    else if c.toNat = 0x16D68 then .kiratAi
    else if Ligature.isAlef c then .alef
    else if c.toNat = 0x5DC then .lamed false
    else if c.toNat = 0x1A10 then .ya false
    else if Ligature.isTifinaghConsonant c then .tifinagh false
    else if Ligature.isSecondTone c then .secondTone
    else if c.toNat = 0x10C03 then .orkhonI false
    else if Ligature.isKhmerSubscript c then .khmer
    else .plain

/-- The selector that a character is. -/
def selector? (c : Char) : Option Selector :=
  if c.toNat = 0xFE0F then some .emoji
  else if c.toNat = 0xFE0E then some .text
  else if c.toNat = 0xFE01 then some .wideQuote
  else none

/-- What a character comes to under the selector that follows it, if that has an effect. -/
def selected (c : Char) (s : State) : Option (Int × Context) :=
  match s.selector with
  | none => none
  | some .emoji =>
    if Emoji.isSelectable c then
      some (if s.context = .joinedEmoji ∨ s.context = .joinedKey then 0 else 2, .emoji)
    else none
  | some .text => if Emoji.isNarrowable c then some (1, .plain) else none
  | some .wideQuote => if Ligature.isCurlyQuote c then some (2, .plain) else none

/-- The columns that a character adds to what stands to the right of it, and the state before
it. -/
def step (c : Char) (s : State) : Int × State :=
  match selector? c with
  | some sel => (0, s.select sel)
  | none =>
    let (n, context) := ((selected c s).or (combine c s.remaining)).getD (alone c)
    (n, ⟨context, none⟩)

end Columns

/-- Terminal columns of a line. -/
def columns (line : List Char) : Nat :=
  (line.foldr
    (fun c (total, state) =>
      let (n, state) := Columns.step c state
      (total + n, state))
    ((0 : Int), Columns.State.plain)).1.toNat

end Text
end WorkedEquations
