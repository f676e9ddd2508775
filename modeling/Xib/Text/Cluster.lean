import Xib.Text.Cluster.Ranges

/-!
# Grapheme clusters

`clusters` cuts a text into what a reader takes for single characters: a letter with its marks, a
conjunct of consonants around a virama, a syllable of joined jamo, a flag of two regional
indicators, a chain of pictographs.
-/

namespace Xib.Text.Cluster

set_option autoImplicit false

inductive Role where
  | carriageReturn
  | lineFeed
  | control
  | extend
  | linker
  | joiner
  | nonJoiner
  | spacing
  | prepend
  | regional
  | leadingJamo
  | vowelJamo
  | trailingJamo
  | openSyllable
  | closedSyllable
  | consonant
  | pictograph
  | other
  deriving Repr, DecidableEq

/-- Skin tones extend the pictograph before them. Precomposed syllables are laid out in blocks of
28, each block led by its open syllable. -/
def Role.ofCode (code : Nat) : Role :=
  if code = 0x0D then .carriageReturn
  else if code = 0x0A then .lineFeed
  else if code = 0x200C then .nonJoiner
  else if code = 0x200D then .joiner
  else if within code controlRanges then .control
  else if within code linkerRanges then .linker
  else if within code markRanges then .extend
  else if 0x1F3FB ≤ code && code ≤ 0x1F3FF then .extend
  else if within code spacingRanges then .spacing
  else if within code prependRanges then .prepend
  else if within code consonantRanges then .consonant
  else if within code pictographRanges then .pictograph
  else if 0x1F1E6 ≤ code && code ≤ 0x1F1FF then .regional
  else if within code leadingJamoRanges then .leadingJamo
  else if within code vowelJamoRanges then .vowelJamo
  else if within code trailingJamoRanges then .trailingJamo
  else if 0xAC00 ≤ code && code ≤ 0xD7A3 then
    if (code - 0xAC00) % 28 = 0 then .openSyllable else .closedSyllable
  else .other

def Role.of (character : Char) : Role :=
  .ofCode character.toNat

def Role.isMark : Role → Bool
  | .extend | .linker | .nonJoiner => true
  | _ => false

def Role.isConjoining : Role → Bool
  | .extend | .linker | .joiner => true
  | _ => false

/-- What the next boundary decision needs to know of the text before it. -/
structure Tail where
  /-- Role of the last character. -/
  last : Role
  /-- The text ends in a pictograph and any number of extending marks. -/
  pictograph : Bool
  /-- The text ends in such a pictograph and one joiner. -/
  tied : Bool
  /-- The text ends in a consonant and any number of conjoining marks. -/
  consonant : Bool
  /-- The text ends in such a consonant, and one of its marks is a linker. -/
  linked : Bool
  /-- The text ends in an odd number of regional indicators. -/
  unpaired : Bool
  deriving Repr, DecidableEq

def Tail.first (role : Role) : Tail where
  last := role
  pictograph := role = .pictograph
  tied := false
  consonant := role = .consonant
  linked := false
  unpaired := role = .regional

def Tail.next (tail : Tail) (role : Role) : Tail where
  last := role
  pictograph := role = .pictograph || (role.isMark && tail.pictograph)
  tied := role = .joiner && tail.pictograph
  consonant := role = .consonant || (role.isConjoining && tail.consonant)
  linked := tail.consonant && (role = .linker || (role.isConjoining && tail.linked))
  unpaired := role = .regional && !tail.unpaired

def Tail.joins (tail : Tail) (next : Role) : Bool :=
  match tail.last, next with
  | .carriageReturn, .lineFeed => true
  | .carriageReturn, _ | .lineFeed, _ | .control, _ => false
  | _, .carriageReturn | _, .lineFeed | _, .control => false
  | _, .extend | _, .linker | _, .joiner | _, .nonJoiner | _, .spacing => true
  | .prepend, _ => true
  | .leadingJamo, .leadingJamo | .leadingJamo, .vowelJamo
  | .leadingJamo, .openSyllable | .leadingJamo, .closedSyllable => true
  | .openSyllable, .vowelJamo | .openSyllable, .trailingJamo
  | .vowelJamo, .vowelJamo | .vowelJamo, .trailingJamo => true
  | .closedSyllable, .trailingJamo | .trailingJamo, .trailingJamo => true
  | _, .consonant => tail.linked
  | _, .pictograph => tail.tied
  | .regional, .regional => tail.unpaired
  | _, _ => false

/-- Clusters of the text after `tail`; the characters that still belong to it come first. -/
def split (tail : Tail) : List Char → List Char × List (List Char)
  | [] => ([], [])
  | character :: rest =>
      let role := Role.of character
      if tail.joins role then
        let (own, others) := split (tail.next role) rest
        (character :: own, others)
      else
        let (own, others) := split (.next tail role) rest
        ([], (character :: own) :: others)

def clusters : List Char → List (List Char)
  | [] => []
  | character :: rest =>
      let (own, others) := split (.first (.of character)) rest
      (character :: own) :: others

/-- Cutting loses nothing: the clusters in order are the text. -/
theorem split_flatten (tail : Tail) (text : List Char) :
    (split tail text).1 ++ (split tail text).2.flatten = text := by
  induction text generalizing tail with
  | nil => rfl
  | cons character rest ih =>
      simp only [split]
      split
      · simpa using ih _
      · simpa using ih _

theorem clusters_flatten (text : List Char) : (clusters text).flatten = text := by
  cases text with
  | nil => rfl
  | cons character rest => simpa [clusters] using split_flatten _ rest

end Xib.Text.Cluster
