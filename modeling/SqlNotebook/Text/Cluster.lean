/-
SqlNotebook/Text/Cluster.lean

The characters of a text as a reader sees them, which Unicode calls extended
grapheme clusters: a letter with its marks, a composed syllable, a flag.

A text is read from the left.  Whether a character joins the cluster before it
depends on its class and on the classes in that cluster (`joins`); if it does
not, it starts the next one.
-/
import SqlNotebook.Text.ClusterTable

namespace SqlNotebook

/-- What matters about a character where clusters meet. -/
inductive ClusterClass
  | carriageReturn
  | lineFeed
  | control
  /-- A mark that joins what stands before it. -/
  | extender
  /-- A mark that links a consonant to the one after it. -/
  | linker
  | consonant
  /-- What keeps letters apart without a cut. -/
  | nonJoiner
  /-- What joins pictographs. -/
  | joiner
  | spacing
  | prepender
  | pictograph
  /-- Half a flag. -/
  | flagLetter
  /-- The first consonant of a Korean syllable. -/
  | leading
  | vowel
  /-- The last consonant of a Korean syllable. -/
  | trailing
  /-- A Korean syllable without a last consonant. -/
  | openSyllable
  /-- A Korean syllable with a last consonant. -/
  | closedSyllable
  | other
deriving DecidableEq, Repr

namespace ClusterClass

/-- The lists of the classes that have one. -/
def tables : List (List (Nat × Nat) × ClusterClass) :=
  [(Text.controlRanges, control), (Text.extenderRanges, extender), (Text.linkerRanges, linker),
    (Text.consonantRanges, consonant), (Text.prependerRanges, prepender),
    (Text.spacingRanges, spacing), (Text.pictographRanges, pictograph),
    (Text.leadingRanges, leading), (Text.vowelRanges, vowel), (Text.trailingRanges, trailing)]

/-- Whether one of the ranges, which are in rising order, holds `n`. -/
def inRanges (n : Nat) : List (Nat × Nat) → Bool
  | [] => false
  | (first, last) :: rest => first ≤ n && (n ≤ last || inRanges n rest)

/-- The class of a composed Korean syllable, by its place among them: every 28th
has no last consonant. -/
def ofSyllable (place : Nat) : ClusterClass :=
  if place % 28 = 0 then openSyllable else closedSyllable

/-- The class of a code point. -/
def ofCode (n : Nat) : ClusterClass :=
  if n = 0x0D then carriageReturn
  else if n = 0x0A then lineFeed
  else if n = 0x200C then nonJoiner
  else if n = 0x200D then joiner
  else if 0xAC00 ≤ n && n ≤ 0xD7A3 then ofSyllable (n - 0xAC00)
  else if 0x1F1E6 ≤ n && n ≤ 0x1F1FF then flagLetter
  else
    match tables.find? fun table => inRanges n table.1 with
    | some (_, result) => result
    | none => other

/-- Whether nothing joins a character, on either side. -/
def standsAlone : ClusterClass → Bool
  | carriageReturn | lineFeed | control => true
  | _ => false

/-- Whether a character joins what stands before it, whatever that is. -/
def extendsAll : ClusterClass → Bool
  | extender | linker | nonJoiner | joiner | spacing => true
  | _ => false

/-- Whether a mark may stand between linked consonants. -/
def isLinkage : ClusterClass → Bool
  | extender | linker | joiner => true
  | _ => false

/-- Whether a mark may stand between a pictograph and what joins it to the next. -/
def isDecoration : ClusterClass → Bool
  | extender | linker | nonJoiner => true
  | _ => false

/-- Whether a consonant and a linker stand at the end, with nothing else behind
the consonant that could keep the next one apart. -/
def endsLinked (before : List ClusterClass) : Bool :=
  (before.takeWhile isLinkage).contains linker
    && (before.dropWhile isLinkage).head? = some consonant

/-- Whether a pictograph stands at the end, with its decoration. -/
def endsInPictograph (before : List ClusterClass) : Bool :=
  (before.dropWhile isDecoration).head? = some pictograph

/-- Whether half a flag at the end waits for the other half. -/
def endsInHalfFlag (before : List ClusterClass) : Bool :=
  (before.takeWhile (· = flagLetter)).length % 2 = 1

/-- Whether two neighbours are parts of one Korean syllable. -/
def shareSyllable : ClusterClass → ClusterClass → Bool
  | leading, leading | leading, vowel | leading, openSyllable | leading, closedSyllable => true
  | openSyllable, vowel | openSyllable, trailing | vowel, vowel | vowel, trailing => true
  | closedSyllable, trailing | trailing, trailing => true
  | _, _ => false

/-- Whether a character of class `next` joins a cluster.  The classes in the
cluster are given from its end. -/
def joins : List ClusterClass → ClusterClass → Bool
  | [], _ => true
  | last :: before, next =>
    if last = carriageReturn && next = lineFeed then true
    else if last.standsAlone || next.standsAlone then false
    else if next.extendsAll || last = prepender || shareSyllable last next then true
    else
      match next with
      | consonant => endsLinked (last :: before)
      | pictograph => last = joiner && endsInPictograph before
      | flagLetter => endsInHalfFlag (last :: before)
      | _ => false

end ClusterClass

namespace Chars

/-- The clusters of a text whose first cluster has already begun, with the
characters in `begun` and their classes in `classes`, both from the end. -/
def clustersFrom (begun : List Char) (classes : List ClusterClass) :
    List Char → List (List Char)
  | [] => [begun.reverse]
  | c :: rest =>
    let next := ClusterClass.ofCode c.toNat
    if ClusterClass.joins classes next then clustersFrom (c :: begun) (next :: classes) rest
    else begun.reverse :: clustersFrom [c] [next] rest

/-- The characters of a text as a reader sees them. -/
def clusters : List Char → List (List Char)
  | [] => []
  | c :: rest => clustersFrom [c] [.ofCode c.toNat] rest

end Chars

end SqlNotebook
