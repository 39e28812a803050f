import ActivityFeed.Text.CanonicalPair
import ActivityFeed.Text.CombiningClass

/-!
# Composed text

Texts that mean the same have one composed form: every character that stands for two is taken apart,
marks are put into the order of their classes, and letters take up the marks after them that they
have a number with. In the last step a mark of the same or a higher class in between keeps a mark
from the letter.

The syllables of Hangul stand for a leading consonant, a vowel and perhaps a trailing consonant;
which ones follows from their number.
-/

namespace ActivityFeed.Text

/-! ## Hangul -/

namespace Hangul

/-- The first syllable. -/
def syllables : Nat := 0xAC00

/-- The first leading consonant. -/
def leads : Nat := 0x1100

/-- The first vowel. -/
def vowels : Nat := 0x1161

/-- The number before the first trailing consonant. -/
def trails : Nat := 0x11A7

/-- How many leading consonants there are. -/
def leadCount : Nat := 19

/-- How many vowels there are. -/
def vowelCount : Nat := 21

/-- How many trailing consonants there are, with the one that is not there. -/
def trailCount : Nat := 28

/-- Whether a number is that of a syllable. -/
def isSyllable (n : Nat) : Bool :=
  syllables ≤ n && n < syllables + leadCount * vowelCount * trailCount

/-- The letters of a syllable. -/
def letters (n : Nat) : List Nat :=
  let i := n - syllables
  let trail := i % trailCount
  [leads + i / trailCount / vowelCount, vowels + i / trailCount % vowelCount]
    ++ (if trail = 0 then [] else [trails + trail])

/-- The syllable that a consonant and a vowel, or a syllable and a consonant, make. -/
def compose? (a b : Nat) : Option Nat :=
  if leads ≤ a && a < leads + leadCount && vowels ≤ b && b < vowels + vowelCount then
    some (syllables + ((a - leads) * vowelCount + (b - vowels)) * trailCount)
  else if isSyllable a && (a - syllables) % trailCount == 0 && trails < b
      && b < trails + trailCount then
    some (a + (b - trails))
  else none

end Hangul

/-! ## Taking apart -/

/-- What a number stands for, if pairs are nested at most `depth` times in it. -/
def takeApartWithin (depth n : Nat) : List Nat :=
  match depth, canonicalPairs.lookup n with
  | depth + 1, some (a, b) => takeApartWithin depth a ++ [b]
  | _, _ => [n]

/-- How many times pairs are nested at most: no letter takes up more than two marks. -/
def maxDepth : Nat := 2

/-- What a number stands for. -/
def takeApart (n : Nat) : List Nat :=
  if Hangul.isSyllable n then Hangul.letters n else takeApartWithin maxDepth n

/-- A text with all characters taken apart. -/
def decomposed (cs : List Char) : List Char :=
  cs.flatMap fun c => (takeApart c.toNat).map Char.ofNat

/-! ## Order of marks -/

/-- Puts a character before a text in order: behind the marks at the front that have lower
classes. -/
def insertMark (c : Char) : List Char → List Char
  | [] => [c]
  | d :: ds =>
    if 0 < combiningClass d && combiningClass d < combiningClass c then d :: insertMark c ds
    else c :: d :: ds

/-- A text with its marks in order. -/
def ordered (cs : List Char) : List Char :=
  cs.foldr insertMark []

/-! ## Putting together -/

/-- The character that stands for two. -/
def compose? (a b : Char) : Option Char :=
  match Hangul.compose? a.toNat b.toNat with
  | some n => some (Char.ofNat n)
  | none =>
    (canonicalPairs.find? fun e => e.2.1 == a.toNat && e.2.2 == b.toNat).map
      fun e => Char.ofNat e.1

/-- The rest of a text after a letter and the marks `passed`, latest first, which the letter has not
taken up. -/
def composeAfter (letter : Char) (passed : List Char) : List Char → List Char
  | [] => letter :: passed.reverse
  | c :: cs =>
    let isBlocked := passed.head?.any fun p => combiningClass c ≤ combiningClass p
    match if isBlocked then none else compose? letter c with
    | some whole => composeAfter whole passed cs
    | none =>
      if combiningClass c = 0 then letter :: passed.reverse ++ composeAfter c [] cs
      else composeAfter letter (c :: passed) cs

/-- A text that has been taken apart and ordered, with its letters and marks put together. -/
def recomposed : List Char → List Char
  | [] => []
  | c :: cs => if combiningClass c = 0 then composeAfter c [] cs else c :: recomposed cs

/-- The composed form of a text. -/
def composed (cs : List Char) : List Char :=
  recomposed (ordered (decomposed cs))

end ActivityFeed.Text
