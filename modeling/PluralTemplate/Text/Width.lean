import PluralTemplate.Text.Cluster
import PluralTemplate.Text.Width.Data

/-!
# Width on a terminal

A line takes up the columns of its characters: none for a mark, two for a wide East Asian
character, and one for most others. Some sequences are drawn as one: an emoji made of
several characters takes up two columns as a whole, and a few scripts have letters that
melt together.

A line is measured from its end, because the width of a character in such a sequence hangs
on what stands ahead of it. What has been passed is remembered as a sign and perhaps a
selector between the sign and the next character.
-/

set_option autoImplicit false

namespace PluralTemplate.Text.Width

/-! ## Characters by themselves -/

def isSkinTone (c : Char) : Bool := 0x1F3FB ≤ c.toNat && c.toNat ≤ 0x1F3FF

/-- Vowels and trailing consonants of a Hangul syllable are drawn inside it. -/
def isInsideSyllable (c : Char) : Bool :=
  let n := c.toNat
  (0x1160 ≤ n && n ≤ 0x11FF) || (0xD7B0 ≤ n && n ≤ 0xD7C6) || (0xD7CB ≤ n && n ≤ 0xD7FB)

/-- The halfwidth voicing marks extend what they follow, but have a column of their own. -/
def isHalfwidthMark (c : Char) : Bool := c.toNat == 0xFF9E || c.toNat == 0xFF9F

/-- Signs that are drawn under the digits behind them, in columns of their own. -/
def underDigits : Ranges := [(0x600, 0x604), (0x6DD, 0x6DD), (0x110BD, 0x110BD), (0x110CD, 0x110CD)]

/-- Whether a character takes up no column. -/
def isZero (c : Char) : Bool :=
  invisibleRanges.contain c.toNat
    || (Cluster.isExtend c && !isSkinTone c && !isHalfwidthMark c)
    || (Cluster.prependRanges.contain c.toNat && !underDigits.contain c.toNat)
    || isInsideSyllable c || c.toNat == 0xA8FA

/-- The columns of a character by itself. -/
def ofChar (c : Char) : Nat :=
  if c.toNat = 0x115F ∨ c.toNat = 0x17A4 then 2
  else if c.toNat = 0x17D8 then 3
  else if c.toNat = 0x2D7F then 1
  else if isZero c then 0
  else if wideRanges.contain c.toNat then 2
  else 1

/-! ## What stands ahead -/

/-- Characters that ask for the one before them to be drawn in a certain way. -/
inductive Selector where
  | picture
  | text
  | wide
  deriving DecidableEq, Repr

def selector? (c : Char) : Option Selector :=
  if c.toNat = 0xFE0F then some .picture
  else if c.toNat = 0xFE0E then some .text
  else if c.toNat = 0xFE01 then some .wide
  else none

/-- Letters that melt together with one before them. -/
inductive Ligature where
  | hebrewLamed
  | bugineseYa
  /-- The Buginese `ya` with the vowel sign before it. -/
  | bugineseVowelYa
  | tifinagh
  /-- A Tifinagh consonant with the consonant joiner before it. -/
  | tifinaghJoined
  | lisuTone
  | orkhonI
  | khmerLetter
  deriving DecidableEq, Repr

/-- What stands ahead of a character, as far as it matters to its width. -/
inductive Sign where
  | plain
  | skinTone
  | flagLetter
  | flagLetters
  /-- An emoji. -/
  | picture
  /-- A joiner in front of an emoji. -/
  | joined
  /-- A keycap in front of a joiner. -/
  | joinedKeycap
  /-- One flag letter in front of a joiner. -/
  | joinedFlagLetter
  /-- Flags in front of a joiner. -/
  | joinedFlags
  /-- Flags and one more flag letter in front of a joiner. -/
  | joinedFlagsAndLetter
  /-- The end of a region's code in tags, in front of a joiner: so many letters behind so
  many digits. -/
  | tags (digits letters : Nat)
  | kiratE
  | kiratAi
  | arabicAlef
  /-- A letter that can melt, and whether a joiner stands before it. -/
  | ligature (letter : Ligature) (joiner : Bool)
  deriving DecidableEq, Repr

/-- A sign, and a selector before it. -/
structure Ahead where
  sign : Sign
  selector : Option Selector
  deriving DecidableEq, Repr

namespace Ahead

def ofSign (sign : Sign) : Ahead := ⟨sign, none⟩

def plain : Ahead := ofSign .plain

/-- Letters that melt do so across selectors. -/
def isLasting : Sign → Bool
  | .arabicAlef => true
  | .ligature _ _ => true
  | _ => false

/-- The sign as it is seen from before the selector. -/
def release (a : Ahead) : Ahead := ofSign (if isLasting a.sign then a.sign else .plain)

/-- Put a selector before a sign. An emoji that is joined stays in sight of the selector
for pictures. -/
def select (a : Ahead) (selector : Selector) : Ahead :=
  let stays := isLasting a.sign
    || (selector == .picture && (a.sign == .joined || a.sign == .joinedKeycap))
  ⟨if stays then a.sign else .plain, some selector⟩

end Ahead

/-! ## Classes of characters -/

def isPicture (c : Char) : Bool := pictureRanges.contain c.toNat && !isSkinTone c

/-- Whether a character followed by the selector for pictures is an emoji. -/
def isSelectable (c : Char) : Bool :=
  selectableRanges.contain c.toNat || textualRanges.contain c.toNat

/-- Whether a character followed by the selector for text is narrow. The enclosed
ideographs stay wide. -/
def isTextual (c : Char) : Bool :=
  textualRanges.contain c.toNat && !(0x1F200 ≤ c.toNat && c.toNat ≤ 0x1F2FF)

/-- Quotation marks, which a selector can make wide. -/
def isQuote (c : Char) : Bool := [0x2018, 0x2019, 0x201C, 0x201D].contains c.toNat

def isTagLetter (c : Char) : Bool := 0xE0061 ≤ c.toNat && c.toNat ≤ 0xE007A

def isTagDigit (c : Char) : Bool := 0xE0030 ≤ c.toNat && c.toNat ≤ 0xE0039

def isArabicLam (c : Char) : Bool :=
  [0x644, 0x6B5, 0x6B6, 0x6B7, 0x6B8, 0x76A, 0x8A6, 0x8C7].contains c.toNat

def arabicAlefRanges : Ranges :=
  [(0x622, 0x623), (0x625, 0x625), (0x627, 0x627), (0x671, 0x673), (0x675, 0x675),
   (0x773, 0x774), (0x870, 0x882)]

/-- Whether Arabic letters join across a character without width. -/
def isTransparent (c : Char) : Bool := ofChar c == 0 && !blockingRanges.contain c.toNat

/-- Marks that are not displayed. Letters melt across them. -/
def isHiddenMark (c : Char) : Bool := hiddenMarkRanges.contain c.toNat

/-- The Khmer letters that can be put underneath another. -/
def khmerRanges : Ranges :=
  [(0x1780, 0x1782), (0x1784, 0x1787), (0x1789, 0x178C), (0x178E, 0x1793), (0x1795, 0x1798),
   (0x179B, 0x179D), (0x17A0, 0x17A0), (0x17A2, 0x17A2), (0x17A7, 0x17A7), (0x17AB, 0x17AC),
   (0x17AF, 0x17AF)]

def isTifinagh (c : Char) : Bool :=
  (0x2D31 ≤ c.toNat && c.toNat ≤ 0x2D65) || c.toNat == 0x2D6F

/-- The sign that a character is to those before it. -/
def signOf (c : Char) : Sign :=
  let n := c.toNat
  if isSkinTone c then .skinTone
  else if Cluster.isFlagLetter c then .flagLetter
  else if isPicture c then .picture
  else if n = 0x16D67 then .kiratE
  else if n = 0x16D68 then .kiratAi
  else if arabicAlefRanges.contain n then .arabicAlef
  else if n = 0x5DC then .ligature .hebrewLamed false
  else if n = 0x1A10 then .ligature .bugineseYa false
  else if isTifinagh c then .ligature .tifinagh false
  else if n = 0xA4FC ∨ n = 0xA4FD then .ligature .lisuTone false
  else if n = 0x10C03 then .ligature .orkhonI false
  else if khmerRanges.contain n then .ligature .khmerLetter false
  else .plain

/-! ## Sequences -/

/-- How a character melts together with a letter ahead: the columns it adds, and the sign
that the two are. The Khmer subscript sign and the Tifinagh joiner take back a column. -/
def melt? (letter : Ligature) (joiner : Bool) (c : Char) : Option (Int × Sign) :=
  let n := c.toNat
  match letter with
  | .hebrewLamed => if joiner && n == 0x5D0 then some (0, .plain) else none
  | .bugineseYa =>
    if joiner && n == 0x1A17 then some (0, .ligature .bugineseVowelYa true) else none
  | .bugineseVowelYa => if n = 0x1A15 then some (0, .plain) else none
  | .tifinagh =>
    if n = 0x2D7F then some (1, .ligature .tifinaghJoined true)
    else if joiner && isTifinagh c then some (0, .plain)
    else none
  | .tifinaghJoined => if isTifinagh c then some (-1, .plain) else none
  | .lisuTone => if 0xA4F8 ≤ n ∧ n ≤ 0xA4FB then some (0, .plain) else none
  | .orkhonI => if joiner && n == 0x10C32 then some (0, .plain) else none
  | .khmerLetter => if n = 0x17D2 then some (-1, .plain) else none

/-- How a character is joined to an emoji behind a joiner. -/
def joinPicture? (c : Char) : Option (Int × Sign) :=
  if c.toNat = 0x20E3 then some (0, .joinedKeycap)
  else if Cluster.isFlagLetter c then some (1, .joinedFlagLetter)
  else if isSkinTone c then some (0, .skinTone)
  else if c.toNat = 0xE007F then some (0, .tags 0 0)
  else if isPicture c then some (0, .picture)
  else none

/-- How a character goes on with a region's code in tags, which is read from its end: up
to six letters, or three digits with at most four letters behind them. The code belongs to
the black flag before it. -/
def tag? (digits letters : Nat) (c : Char) : Option (Int × Sign) :=
  if isTagLetter c && digits == 0 && decide (letters < 6) then
    some (0, .tags 0 (letters + 1))
  else if isTagDigit c && decide (digits < 3) && decide (letters ≤ 4) then
    some (0, .tags (digits + 1) letters)
  else if c.toNat = 0x1F3F4 ∧ (digits = 3 ∨ (digits = 0 ∧ 3 ≤ letters)) then
    some (0, .picture)
  else none

/-- How a character forms a sequence with a sign ahead, if it does: the columns it adds,
and the sign that they are together. -/
def extend? (sign : Sign) (c : Char) : Option (Int × Sign) :=
  let joins : Option (Int × Sign) := if c = Cluster.joiner then some (0, .joined) else none
  let letter (columns : Int) (sign : Sign) (otherwise : Option (Int × Sign)) :
      Option (Int × Sign) :=
    if Cluster.isFlagLetter c then some (columns, sign) else otherwise
  match sign with
  | .plain => none
  | .skinTone => if tonedRanges.contain c.toNat then some (0, .picture) else joins
  | .flagLetter => letter 1 .flagLetters none
  | .flagLetters => letter 1 .flagLetters joins
  | .picture => joins
  | .joined => joinPicture? c
  | .joinedKeycap => none
  | .joinedFlagLetter => letter (-1) .joinedFlags none
  | .joinedFlags => letter 3 .joinedFlagsAndLetter joins
  | .joinedFlagsAndLetter => letter (-1) .joinedFlags joins
  | .tags digits letters => tag? digits letters c
  | .kiratE =>
    if c.toNat = 0x16D63 ∨ c.toNat = 0x16D69 then some (0, .plain)
    else if c.toNat = 0x16D67 then some (0, .kiratAi)
    else if c.toNat = 0x16D68 then some (1, .kiratE)
    else none
  | .kiratAi => if c.toNat = 0x16D63 then some (0, .plain) else none
  | .arabicAlef =>
    if isArabicLam c then some (0, .plain)
    else if isTransparent c then some (0, .arabicAlef)
    else none
  | .ligature melting joiner =>
    if c = Cluster.joiner then some (0, .ligature melting true)
    else if isHiddenMark c then some (0, .ligature melting joiner)
    else melt? melting joiner c

/-- The columns that a character adds to a line, and what is ahead of the one before it. -/
def step (c : Char) (ahead : Ahead) : Int × Ahead :=
  if ahead.selector = some .picture ∧ isSelectable c then
    (if ahead.sign = .joined ∨ ahead.sign = .joinedKeycap then 0 else 2, .ofSign .picture)
  else if c.toNat ≤ 0xA0 then (1, .plain)
  else
    let seen := if ahead.selector = some .picture then ahead.release else ahead
    match selector? c with
    | some selector => (0, seen.select selector)
    | none =>
      if seen.selector = some .text ∧ isTextual c then (1, .plain)
      else if seen.selector = some .wide ∧ isQuote c then (2, .plain)
      else
        let sign := if seen.selector.isSome then seen.release.sign else seen.sign
        match extend? sign c with
        | some (columns, sign) => (columns, .ofSign sign)
        | none => (ofChar c, .ofSign (signOf c))

/-- The columns of a line. -/
def ofLine (line : List Char) : Nat :=
  (line.foldr (fun c (total : Int × Ahead) =>
    let (columns, ahead) := step c total.2
    (columns + total.1, ahead)) (0, .plain)).1.toNat

end PluralTemplate.Text.Width
