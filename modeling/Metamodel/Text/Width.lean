import Metamodel.Text.Case
import Metamodel.Text.WidthTable

/-!
How many columns text takes on a terminal.

A character has a width of its own: none when it is invisible or combines with the one before
it, two when it is wide in East Asian typography or an emoji shown as one, one otherwise.
Every character up to U+00A0 takes one column, controls included, except the line feed, which
takes none (and so does a carriage return before it). Khmer BEYYAL takes three.

Some sequences are drawn as one glyph and take the columns of one:

* an emoji with the emoji presentation selector takes two; an emoji shown as emoji by default
  with the text presentation selector takes one;
* emoji joined by zero-width joiners, an emoji with a skin tone modifier, and a keycap take
  two; a pair of regional indicators (a flag) takes two;
* Arabic lam with alef takes one, and so do a few ligatures of other scripts: Hebrew alef
  with lamed, Buginese a-i-ya, Tifinagh consonants joined by the consonant joiner, Lisu tone
  letters, an Old Turkic pair, Kirat Rai vowel signs, and a Khmer consonant below a coeng.

The width of a text is found from its end: what the characters after a position have begun
(an `After`) decides how the character there counts, and `step` gives its columns (a
negative count takes back a column already counted) and what it begins in turn.
-/

namespace Metamodel.Text

/-- The sequence that the characters after a position have begun, as far as it decides the
width of the character before them. -/
inductive Tail where
  | plain
  | lineFeed
  | alef
  | hebrewLamed
  | bugineseYa
  | bugineseIYa
  | tifinagh
  | tifinaghJoiner
  | lisuTone
  | oldTurkicI
  | khmerLetter
  | kiratE
  | kiratAI
  | emoji
  | emojiModifier
  | regional
  | severalRegional
  | zwjEmoji
  | keycapZwjEmoji
  | regionalZwj
  | evenRegionalZwj
  | oddRegionalZwj
  | tagEnd
  | tagLetters
deriving DecidableEq, Repr, Inhabited

namespace Tail

/-- The tails of a ligature of letters: a presentation selector ends them. -/
def isLigature : Tail → Bool
  | .alef | .hebrewLamed | .bugineseYa | .bugineseIYa | .tifinagh | .tifinaghJoiner
  | .lisuTone | .oldTurkicI | .khmerLetter => true
  | _ => false

/-- The ligature tails that zero-width joiners and default-ignorable marks pass through. -/
def passesMarks : Tail → Bool
  | .hebrewLamed | .bugineseYa | .bugineseIYa | .tifinagh | .tifinaghJoiner | .lisuTone
  | .oldTurkicI | .khmerLetter => true
  | _ => false

/-- The tails of emoji joined by a zero-width joiner. -/
def isZwjEmoji : Tail → Bool
  | .zwjEmoji | .keycapZwjEmoji => true
  | _ => false

end Tail

/-- What the characters after a position have begun: the sequence, whether a zero-width
joiner stands inside a ligature, and whether a presentation selector follows. -/
structure After where
  tail : Tail := .plain
  joined : Bool := false
  emojiSelector : Bool := false
  textSelector : Bool := false
deriving DecidableEq, Repr, Inhabited

namespace After

/-- Nothing begun: the end of the text. -/
def none : After := {}

/-- Only the tail. -/
def only (tail : Tail) : After := { tail }

/-- An emoji presentation selector in front of what follows. -/
def withEmojiSelector (a : After) : After := { a with emojiSelector := true }

/-- A text presentation selector in front of what follows; it ends a ligature. -/
def withTextSelector (a : After) : After :=
  if a.tail.isLigature then { textSelector := true } else { a with textSelector := true }

/-- What follows when a pending emoji selector turns out to select nothing: a ligature ends. -/
def dropEmojiSelector (a : After) : After :=
  if a.tail.isLigature then none else { a with emojiSelector := false }

end After

/-- The zero-width joiner. -/
def zeroWidthJoiner : Char := '‍'

/-- Letters of the Arabic joining group Alef. -/
def isAlef (n : Nat) : Bool :=
  n == 0x622 || n == 0x623 || n == 0x625 || n == 0x627 || (0x671 ≤ n && n ≤ 0x673) ||
    n == 0x675 || n == 0x773 || n == 0x774 || (0x870 ≤ n && n ≤ 0x882)

/-- Khmer letters that may stand below a coeng sign. -/
def isKhmerCoengLetter (n : Nat) : Bool :=
  (0x1780 ≤ n && n ≤ 0x17A2) || n == 0x17A7 || n == 0x17AB || n == 0x17AC || n == 0x17AF

/-- Tifinagh consonants that join by the consonant joiner. -/
def isTifinaghConsonant (n : Nat) : Bool :=
  (0x2D31 ≤ n && n ≤ 0x2D65) || n == 0x2D6F

/-- Regional indicator symbols, the letters of flags. -/
def isRegionalIndicator (n : Nat) : Bool := 0x1F1E6 ≤ n && n ≤ 0x1F1FF

/-- Emoji skin tone modifiers. -/
def isSkinTone (n : Nat) : Bool := 0x1F3FB ≤ n && n ≤ 0x1F3FF

/-- The columns of a character above U+00A0 on its own, and the sequence it begins. -/
def ownWidth (c : Char) : Nat × After :=
  let n := c.toNat
  if n == 0x5DC then (1, .only .hebrewLamed)
  else if isAlef n then (1, .only .alef)
  else if isKhmerCoengLetter n then (1, .only .khmerLetter)
  else if n == 0x17D8 then (3, .none)
  else if n == 0x1A10 then (1, .only .bugineseYa)
  else if 0x2D31 ≤ n && n ≤ 0x2D6F then (1, .only .tifinagh)
  else if n == 0xA4FC || n == 0xA4FD then (1, .only .lisuTone)
  else if n == 0xFE0E then (0, After.none.withTextSelector)
  else if n == 0xFE0F then (0, After.none.withEmojiSelector)
  else if n == 0x10C03 then (1, .only .oldTurkicI)
  else if n == 0x16D67 then (1, .only .kiratE)
  else if n == 0x16D68 then (1, .only .kiratAI)
  else if isRegionalIndicator n then (1, .only .regional)
  else if isSkinTone n then (2, .only .emojiModifier)
  else if inRanges WidthTable.emojiPresentation n then (2, .only .emoji)
  else if inRanges WidthTable.zeroWidth n then (0, .none)
  else if inRanges WidthTable.wide n then (2, .none)
  else (1, .none)

/-- How a character counts inside a sequence begun after it, when it does not count on its
own; `none` when it does. -/
def joinedWidth (c : Char) (a : After) : Option (Int × After) :=
  let n := c.toNat
  match a.tail with
  | .alef =>
    if n == 0x644 then some (0, .none)
    else if inRanges WidthTable.joiningTransparent n then some (0, .only .alef)
    else Option.none
  | .hebrewLamed => if a.joined && n == 0x5D0 then some (0, .none) else Option.none
  | .khmerLetter => if n == 0x17D2 then some (-1, .none) else Option.none
  | .bugineseYa => if a.joined && n == 0x1A17 then some (0, .only .bugineseIYa) else Option.none
  | .bugineseIYa => if n == 0x1A15 then some (0, .none) else Option.none
  | .tifinagh => if n == 0x2D7F then some (1, .only .tifinaghJoiner) else Option.none
  | .tifinaghJoiner => if isTifinaghConsonant n then some (-1, .none) else Option.none
  | .lisuTone => if 0xA4F8 ≤ n && n ≤ 0xA4FB then some (0, .none) else Option.none
  | .oldTurkicI => if a.joined && n == 0x10C32 then some (0, .none) else Option.none
  | .kiratE =>
    if n == 0x16D67 then some (0, .only .kiratAI)
    else if n == 0x16D63 then some (0, .none)
    else Option.none
  | .kiratAI => if n == 0x16D63 then some (0, .none) else Option.none
  | .emojiModifier =>
    if inRanges WidthTable.modifierBase n then some (0, .only .emoji)
    else if c == zeroWidthJoiner then some (0, .only .zwjEmoji)
    else Option.none
  | .regional => if isRegionalIndicator n then some (1, .only .severalRegional) else Option.none
  | .severalRegional =>
    if isRegionalIndicator n then some (1, .only .severalRegional)
    else if c == zeroWidthJoiner then some (0, .only .zwjEmoji)
    else Option.none
  | .emoji | .evenRegionalZwj | .oddRegionalZwj =>
    if c == zeroWidthJoiner then some (0, .only .zwjEmoji)
    else if isRegionalIndicator n then
      match a.tail with
      | .evenRegionalZwj => some (3, .only .oddRegionalZwj)
      | .oddRegionalZwj => some (-1, .only .evenRegionalZwj)
      | _ => Option.none
    else Option.none
  | .regionalZwj => if isRegionalIndicator n then some (-1, .only .evenRegionalZwj) else Option.none
  | .zwjEmoji =>
    if n == 0x20E3 then some (0, .only .keycapZwjEmoji)
    else if isRegionalIndicator n then some (1, .only .regionalZwj)
    else if isSkinTone n then some (0, .only .emojiModifier)
    else if n == 0xE007F then some (0, .only .tagEnd)
    else if (ownWidth c).2.tail == .emoji then some (0, .only .emoji)
    else Option.none
  | .tagEnd | .tagLetters =>
    if (0xE0030 ≤ n && n ≤ 0xE0039) || (0xE0061 ≤ n && n ≤ 0xE007A) then some (0, .only .tagLetters)
    else if n == 0x1F3F4 then some (0, .only .emoji)
    else Option.none
  | _ => Option.none

/-- The columns a character adds, given what the characters after it have begun, and what
it begins in turn. -/
def step (c : Char) (a : After) : Int × After :=
  let n := c.toNat
  -- an emoji presentation selector after the character
  if a.emojiSelector && inRanges WidthTable.emojiStyleBase n then
    (if a.tail.isZwjEmoji then 0 else 2, .only .emoji)
  else
    let a := if a.emojiSelector then a.dropEmojiSelector else a
    if n ≤ 0xA0 then
      if c == '\n' then (0, .only .lineFeed)
      else if c == '\r' && a == .only .lineFeed then (0, .none)
      else (1, .none)
    else if a == .none then ((ownWidth c).1, (ownWidth c).2)
    else if n == 0xFE0F then (0, a.withEmojiSelector)
    else if n == 0xFE0E then (0, a.withTextSelector)
    else if a.textSelector && inRanges WidthTable.textStyleBase n then (1, .none)
    else
      let a := { a with textSelector := false }
      if a.tail.passesMarks && c == zeroWidthJoiner then (0, { a with joined := true })
      else if a.tail.passesMarks && inRanges WidthTable.ligatureTransparent n then (0, a)
      else
        match joinedWidth c a with
        | some r => r
        | Option.none => ((ownWidth c).1, (ownWidth c).2)

/-- The columns of characters followed by what `a` records, counted from the last. -/
def widthFrom : List Char → Int × After
  | [] => (0, .none)
  | c :: more =>
    let (total, a) := widthFrom more
    let (columns, a') := step c a
    (total + columns, a')

/-- The columns a text takes. -/
def width (text : String) : Nat :=
  (widthFrom text.toList).1.toNat

/-- The text followed by blanks up to `columns` columns; a wider text is left as it is. -/
def padRight (text : String) (columns : Nat) : String :=
  text ++ String.ofList (List.replicate (columns - width text) ' ')

end Metamodel.Text
