import PluralTemplate.Text.Cluster.Data

/-!
# Grapheme clusters

A grapheme cluster is what a reader takes for one character: a letter with its marks, a
Hangul syllable, an Indic conjunct, a flag, or an emoji made of several.
-/

set_option autoImplicit false

namespace PluralTemplate.Text.Cluster

def joiner : Char := Char.ofNat 0x200D

def nonJoiner : Char := Char.ofNat 0x200C

def isControl (c : Char) : Bool := c == '\r' || c == '\n' || controlRanges.contain c.toNat

def isExtend (c : Char) : Bool := extendRanges.contain c.toNat

/-- Whether a character stays with any cluster before it. -/
def followsAny (c : Char) : Bool :=
  isExtend c || c == joiner || spacingMarkRanges.contain c.toNat

def isPictograph (c : Char) : Bool := pictographRanges.contain c.toNat

def isConsonant (c : Char) : Bool := consonantRanges.contain c.toNat

def isLinker (c : Char) : Bool := linkerRanges.contain c.toNat

/-- Whether a character may stand between the consonants of a conjunct. -/
def staysInConjunct (c : Char) : Bool := c == joiner || (isExtend c && c != nonJoiner)

def isFlagLetter (c : Char) : Bool := 0x1F1E6 ≤ c.toNat && c.toNat ≤ 0x1F1FF

/-- The roles of a character in a Hangul syllable. -/
inductive Hangul where
  | leading
  | vowel
  | trailing
  /-- A precomposed syllable without a trailing consonant. -/
  | openSyllable
  /-- A precomposed syllable with a trailing consonant. -/
  | closedSyllable

def hangul? (c : Char) : Option Hangul :=
  let n := c.toNat
  if 0xAC00 ≤ n ∧ n ≤ 0xD7A3 then
    some (if (n - 0xAC00) % 28 = 0 then .openSyllable else .closedSyllable)
  else if leadingRanges.contain n then some .leading
  else if vowelRanges.contain n then some .vowel
  else if trailingRanges.contain n then some .trailing
  else none

/-- Whether two characters belong to one Hangul syllable. -/
def joinsSyllable (previous next : Char) : Bool :=
  match hangul? previous, hangul? next with
  | some .leading, some .trailing => false
  | some .leading, some _ => true
  | some .openSyllable, some .vowel => true
  | some .openSyllable, some .trailing => true
  | some .vowel, some .vowel => true
  | some .vowel, some .trailing => true
  | some .closedSyllable, some .trailing => true
  | some .trailing, some .trailing => true
  | _, _ => false

/-- Whether a cluster, given backwards, is a consonant with a linker behind it and waits
for another consonant. -/
def opensConjunct (before : List Char) : Bool :=
  (before.takeWhile staysInConjunct).any isLinker
    && ((before.dropWhile staysInConjunct).head?.map isConsonant).getD false

/-- Whether a cluster, given backwards, is a pictograph with a joiner behind it. -/
def opensEmoji (before : List Char) : Bool :=
  before.head? == some joiner
    && ((before.tail.dropWhile isExtend).head?.map isPictograph).getD false

/-- Whether a cluster, given backwards, ends in a flag letter without a partner. -/
def opensFlag (before : List Char) : Bool := (before.takeWhile isFlagLetter).length % 2 == 1

/-- Whether a cluster, given backwards, goes on with a character. -/
def continues (before : List Char) (c : Char) : Bool :=
  match before with
  | [] => true
  | previous :: _ =>
    if previous = '\r' ∧ c = '\n' then true
    else if isControl previous || isControl c then false
    else joinsSyllable previous c || followsAny c || prependRanges.contain previous.toNat
      || (isConsonant c && opensConjunct before)
      || (isPictograph c && opensEmoji before)
      || (isFlagLetter c && opensFlag before)

/-- The cluster that goes on from `before`, which is given backwards, and the rest of the
text. -/
def splitAfter : List Char → List Char → List Char × List Char
  | before, [] => (before.reverse, [])
  | before, c :: rest =>
    if continues before c then splitAfter (c :: before) rest else (before.reverse, c :: rest)

/-- The first cluster of a text and the rest of it. -/
def splitFirst (text : List Char) : List Char × List Char := splitAfter [] text

end PluralTemplate.Text.Cluster
