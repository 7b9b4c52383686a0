import TemplateMetrics.Text.Ranges
import TemplateMetrics.Text.WidthTable

/-!
Columns a text takes on a terminal.

Most characters have a width of their own. Some sequences count as one symbol: emoji with a skin
tone, emoji joined by U+200D, a symbol followed by a variation selector, a carriage return before a
line feed, and the ligatures of a few scripts. The text is read from its end, so that each character
knows what follows it. A character may take back a column that was counted to its right.
-/

namespace TemplateMetrics.Text

/-! ### What stands to the right -/

/-- Letters that can form a ligature with what stands before them. Where it takes U+200D to do so,
`joined` tells that it was read. -/
inductive Ligature where
  /-- An Arabic alef, for a lam. -/
  | alef
  /-- A Hebrew lamed, for an alef. -/
  | lamed (joined : Bool)
  /-- A Buginese ya, for a vowel sign i. -/
  | ya (joined : Bool)
  /-- The vowel sign i before such a ya, for a letter a. -/
  | vowelYa
  /-- A Tifinagh consonant, for another one. -/
  | consonant (joined : Bool)
  /-- A consonant joiner before such a consonant. -/
  | joinerConsonant
  /-- A Lisu tone letter of the second half, for one of the first. -/
  | tone
  /-- An Old Turkic i, for an ec. -/
  | orkhonI (joined : Bool)
  /-- A Khmer letter that is written below the one before it. -/
  | subscript
deriving Repr, DecidableEq

def Ligature.join : Ligature → Ligature
  | .lamed _ => .lamed true
  | .ya _ => .ya true
  | .consonant _ => .consonant true
  | .orkhonI _ => .orkhonI true
  | l => l

/-- What the characters to the right begin with. A tag sequence is known by how many of its letters
or digits were read. -/
inductive Following where
  | plain
  | lineFeed
  | emoji
  | skinTone
  | flagLetter
  | flagLetters
  | joinedEmoji
  | joinedKeycap
  | joinedFlagLetter
  | joinedFlags
  | joinedFlagsAndLetter
  | tagLetters (n : Nat)
  | tagDigits (n : Nat)
  /-- A Kirat Rai vowel sign e, for the vowels that are written with it. -/
  | vowelE
  /-- A Kirat Rai vowel sign ai. -/
  | vowelAi
  | ligature (l : Ligature)
deriving Repr, DecidableEq

/-- What follows, and the variation selectors that stand between. -/
structure Right where
  following : Following
  emojiStyle : Bool
  textStyle : Bool
  /-- The selector that makes a quotation mark wide. -/
  wideStyle : Bool
deriving Repr, DecidableEq

namespace Right

def of (f : Following) : Right := ⟨f, false, false, false⟩

def plain : Right := of .plain

/-- Selectors do not break a ligature or a joined emoji; anything else they hide. -/
def withEmojiStyle (r : Right) : Right :=
  match r.following with
  | .ligature _ | .joinedEmoji | .joinedKeycap => { r with emojiStyle := true }
  | _ => { plain with emojiStyle := true }

def withTextStyle (r : Right) : Right :=
  match r.following with
  | .ligature _ => { r with textStyle := true }
  | _ => { plain with textStyle := true }

def withWideStyle (r : Right) : Right :=
  match r.following with
  | .ligature _ => { r with wideStyle := true }
  | _ => { plain with wideStyle := true }

/-- The emoji selector was of no use to the character before it. -/
def withoutEmojiStyle (r : Right) : Right :=
  if r.emojiStyle then
    match r.following with
    | .ligature _ => { r with emojiStyle := false }
    | _ => plain
  else r

end Right

/-! ### Classes of characters -/

def isSkinTone (n : Nat) : Bool := 0x1F3FB ≤ n && n ≤ 0x1F3FF

def isFlagLetter (n : Nat) : Bool := 0x1F1E6 ≤ n && n ≤ 0x1F1FF

def isTagLetter (n : Nat) : Bool := 0xE0061 ≤ n && n ≤ 0xE007A

def isTagDigit (n : Nat) : Bool := 0xE0030 ≤ n && n ≤ 0xE0039

def isQuotationMark (n : Nat) : Bool :=
  n = 0x2018 || n = 0x2019 || n = 0x201C || n = 0x201D

def isAlef (n : Nat) : Bool :=
  inRanges n [(0x622, 0x623), (0x625, 0x625), (0x627, 0x627), (0x671, 0x673), (0x675, 0x675),
    (0x773, 0x774), (0x870, 0x882)]

def isLam (n : Nat) : Bool :=
  inRanges n [(0x644, 0x644), (0x6B5, 0x6B8), (0x76A, 0x76A), (0x8A6, 0x8A6), (0x8C7, 0x8C7)]

def isConsonant (n : Nat) : Bool := 0x2D31 ≤ n && n ≤ 0x2D65 || n = 0x2D6F

/-- Khmer letters that take no column of their own as a subscript. -/
def hasSubscript (n : Nat) : Bool :=
  inRanges n [(0x1780, 0x1782), (0x1784, 0x1787), (0x1789, 0x178C), (0x178E, 0x1793),
    (0x1795, 0x1798), (0x179B, 0x179D), (0x17A0, 0x17A0), (0x17A2, 0x17A2), (0x17A7, 0x17A7),
    (0x17AB, 0x17AC), (0x17AF, 0x17AF)]

/-- Ignorable marks, which may stand inside every ligature. -/
def isIgnorableMark (n : Nat) : Bool :=
  inRanges n [(0x34F, 0x34F), (0x17B4, 0x17B5), (0x180B, 0x180D), (0x180F, 0x180F),
    (0x200D, 0x200D), (0xFE00, 0xFE0F), (0xE0100, 0xE01EF)]

def isTransparent (n : Nat) : Bool := inRanges n zeroWidthRanges && !inRanges n opaqueRanges

/-! ### Widths -/

/-- The width of a character above U+00A0 by itself, and what it is to its left neighbour. -/
def ownWidth (n : Nat) : Int × Right :=
  if isSkinTone n then (2, .of .skinTone)
  else if isFlagLetter n then (1, .of .flagLetter)
  else if inRanges n emojiRanges then (2, .of .emoji)
  else if isAlef n then (1, .of (.ligature .alef))
  else if n = 0x5DC then (1, .of (.ligature (.lamed false)))
  else if n = 0x1A10 then (1, .of (.ligature (.ya false)))
  else if isConsonant n then (1, .of (.ligature (.consonant false)))
  else if n = 0xA4FC ∨ n = 0xA4FD then (1, .of (.ligature .tone))
  else if n = 0x10C03 then (1, .of (.ligature (.orkhonI false)))
  else if hasSubscript n then (1, .of (.ligature .subscript))
  else if n = 0x16D67 then (1, .of .vowelE)
  else if n = 0x16D68 then (1, .of .vowelAi)
  else if n = 0x17D8 then (3, .plain)
  else if inRanges n zeroWidthRanges then (0, .plain)
  else if inRanges n wideRanges then (2, .plain)
  else (1, .plain)

/-- The width of a character before a letter with which it may form a ligature. -/
def ligatureWidth (n : Nat) (l : Ligature) : Int × Right :=
  if l = .alef then
    if isLam n then (0, .plain)
    else if isTransparent n then (0, .of (.ligature .alef))
    else ownWidth n
  else if n = 0x200D then (0, .of (.ligature l.join))
  else if isIgnorableMark n then (0, .of (.ligature l))
  else
    match l with
    | .lamed true => if n = 0x5D0 then (0, .plain) else ownWidth n
    | .ya true => if n = 0x1A17 then (0, .of (.ligature .vowelYa)) else ownWidth n
    | .vowelYa => if n = 0x1A15 then (0, .plain) else ownWidth n
    | .consonant joined =>
      if n = 0x2D7F then (1, .of (.ligature .joinerConsonant))
      else if joined ∧ isConsonant n then (0, .plain)
      else ownWidth n
    | .joinerConsonant => if isConsonant n then (-1, .plain) else ownWidth n
    | .tone => if 0xA4F8 ≤ n ∧ n ≤ 0xA4FB then (0, .plain) else ownWidth n
    | .orkhonI true => if n = 0x10C32 then (0, .plain) else ownWidth n
    | .subscript => if n = 0x17D2 then (-1, .plain) else ownWidth n
    | _ => ownWidth n

/-- The width of a character above U+00A0 before `right`, selectors aside. -/
def joinedWidth (n : Nat) (right : Following) : Int × Right :=
  match right with
  | .plain | .lineFeed | .joinedKeycap => ownWidth n
  | .ligature l => ligatureWidth n l
  | .emoji => if n = 0x200D then (0, .of .joinedEmoji) else ownWidth n
  | .skinTone =>
    if inRanges n modifierBaseRanges then (0, .of .emoji)
    else if n = 0x200D then (0, .of .joinedEmoji)
    else ownWidth n
  | .flagLetter => if isFlagLetter n then (1, .of .flagLetters) else ownWidth n
  | .flagLetters =>
    if isFlagLetter n then (1, .of .flagLetters)
    else if n = 0x200D then (0, .of .joinedEmoji)
    else ownWidth n
  | .joinedEmoji =>
    if n = 0x20E3 then (0, .of .joinedKeycap)
    else if isFlagLetter n then (1, .of .joinedFlagLetter)
    else if isSkinTone n then (0, .of .skinTone)
    else if n = 0xE007F then (0, .of (.tagLetters 0))
    else if inRanges n emojiRanges then (0, .of .emoji)
    else ownWidth n
  | .joinedFlagLetter => if isFlagLetter n then (-1, .of .joinedFlags) else ownWidth n
  | .joinedFlags =>
    if isFlagLetter n then (3, .of .joinedFlagsAndLetter)
    else if n = 0x200D then (0, .of .joinedEmoji)
    else ownWidth n
  | .joinedFlagsAndLetter =>
    if isFlagLetter n then (-1, .of .joinedFlags)
    else if n = 0x200D then (0, .of .joinedEmoji)
    else ownWidth n
  | .tagLetters k =>
    if isTagLetter n ∧ k < 6 then (0, .of (.tagLetters (k + 1)))
    else if isTagDigit n ∧ k < 5 then (0, .of (.tagDigits 1))
    else if n = 0x1F3F4 ∧ 3 ≤ k then (0, .of .emoji)
    else ownWidth n
  | .tagDigits k =>
    if isTagDigit n ∧ k < 3 then (0, .of (.tagDigits (k + 1)))
    else if n = 0x1F3F4 ∧ k = 3 then (0, .of .emoji)
    else ownWidth n
  | .vowelE =>
    if n = 0x16D63 ∨ n = 0x16D69 then (0, .plain)
    else if n = 0x16D67 then (0, .of .vowelAi)
    else if n = 0x16D68 then (1, .of .vowelE)
    else ownWidth n
  | .vowelAi => if n = 0x16D63 then (0, .plain) else ownWidth n

def widthBefore (c : Char) (right : Right) : Int × Right :=
  let n := c.toNat
  if right.emojiStyle ∧ inRanges n emojiStyleRanges then
    (if right.following = .joinedEmoji ∨ right.following = .joinedKeycap then 0 else 2, .of .emoji)
  else
    let right := right.withoutEmojiStyle
    if n ≤ 0xA0 then
      if c = '\n' then (1, .of .lineFeed)
      else if c = '\r' ∧ right = .of .lineFeed then (0, .plain)
      else (1, .plain)
    else if n = 0xFE0F then (0, right.withEmojiStyle)
    else if n = 0xFE0E then (0, right.withTextStyle)
    else if n = 0xFE01 then (0, right.withWideStyle)
    else if right.textStyle ∧ inRanges n textStyleRanges then (1, .plain)
    else if right.wideStyle ∧ isQuotationMark n then (2, .plain)
    else joinedWidth n right.following

def width (cs : List Char) : Nat :=
  (cs.foldr (fun c (sum, right) => let (w, right) := widthBefore c right; (sum + w, right))
    ((0 : Int), Right.plain)).1.toNat

end TemplateMetrics.Text
