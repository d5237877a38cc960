import WorkspaceConsole.Text.Conjunct
import WorkspaceConsole.Text.Emoji
import WorkspaceConsole.Text.Mark

/-!
# Grapheme clusters

A cluster is what a reader takes for one character: a base with its marks, a Hangul syllable,
consonants linked to a conjunct, an emoji sequence, or a pair of regional indicators. `clusters`
cuts a text into them, looking at each character and at what came before it.
-/

namespace WorkspaceConsole.Text

/-- The part that a character plays in a cluster. -/
inductive ClusterPart where
  | carriageReturn
  | lineFeed
  | control
  | extend
  | joiner
  | spacingMark
  | prepend
  | regional
  | pictograph
  | hangulLead
  | hangulVowel
  | hangulTrail
  | hangulOpen
  | hangulClosed
  | other
deriving DecidableEq, Repr

/-- The part of a Hangul letter or syllable. A syllable is open if it has no final consonant. Some
vowel signs of Kirat Rai are put together like Hangul vowels. -/
def hangulPart? (n : Nat) : Option ClusterPart :=
  if (0x1100 ≤ n ∧ n < 0x1160) ∨ (0xA960 ≤ n ∧ n < 0xA97D) then some .hangulLead
  else if (0x1160 ≤ n ∧ n < 0x11A8) ∨ (0xD7B0 ≤ n ∧ n < 0xD7C7) ∨ n = 0x16D63 ∨
      (0x16D67 ≤ n ∧ n < 0x16D6B) then some .hangulVowel
  else if (0x11A8 ≤ n ∧ n < 0x1200) ∨ (0xD7CB ≤ n ∧ n < 0xD7FC) then some .hangulTrail
  else if 0xAC00 ≤ n ∧ n < 0xD7A4 then
    some (if (n - 0xAC00) % 28 = 0 then .hangulOpen else .hangulClosed)
  else none

/-- The part that a character plays in a cluster. -/
def clusterPart (c : Char) : ClusterPart :=
  let n := c.toNat
  if c = '\r' then .carriageReturn
  else if c = '\n' then .lineFeed
  else if n = 0x200D then .joiner
  else if breaking.contains c then .control
  else if n < 0x7F then .other
  else if extending.contains c || (0x1F3FB ≤ n && n ≤ 0x1F3FF) then .extend
  else if 0x1F1E6 ≤ n && n ≤ 0x1F1FF then .regional
  else if spacing.contains c then .spacingMark
  else if prepended.contains c then .prepend
  else if pictographic.contains c then .pictograph
  else (hangulPart? n).getD .other

/-- The part that a character plays in a conjunct. -/
inductive ConjunctPart where
  | consonant
  | linker
  | transparent
  | other
deriving DecidableEq, Repr

/-- The part that a character plays in a conjunct, given its part in a cluster. -/
def conjunctPart (c : Char) (part : ClusterPart) : ConjunctPart :=
  if conjunctLinker.contains c then .linker
  else if c.toNat ≠ 0x200C && (part = .extend || part = .joiner) then .transparent
  else if conjunctConsonant.contains c then .consonant
  else .other

/-- How far a conjunct has got: after a consonant, or after a linker too. -/
inductive ConjunctProgress where
  | none
  | consonant
  | linked
deriving DecidableEq, Repr

/-- The progress of a conjunct after one more character. -/
def ConjunctProgress.step (p : ConjunctProgress) : ConjunctPart → ConjunctProgress
  | .consonant => .consonant
  | .linker => if p = .none then .none else .linked
  | .transparent => p
  | .other => .none

/-- How far an emoji sequence has got: after a pictograph and its marks, or after a joiner too. -/
inductive EmojiProgress where
  | none
  | base
  | joined
deriving DecidableEq, Repr

/-- What came before a place in a text: the part just before it, the progress of an emoji sequence
and of a conjunct, and whether an odd number of regional indicators stands there. -/
structure ClusterContext where
  last : Option ClusterPart
  emoji : EmojiProgress
  conjunct : ConjunctProgress
  oddRegional : Bool

namespace ClusterContext

/-- The beginning of a text. -/
def start : ClusterContext := ⟨none, .none, .none, false⟩

/-- Whether a part is one that always stands alone. -/
def standsAlone : ClusterPart → Bool
  | .control | .carriageReturn | .lineFeed => true
  | _ => false

/-- Whether the next character continues the cluster. -/
def joins (k : ClusterContext) (next : ClusterPart) (conjunct : ConjunctPart) : Bool :=
  match k.last, next with
  | none, _ => false
  | some .carriageReturn, .lineFeed => true
  | some last, next =>
    if standsAlone last || standsAlone next then false
    else if k.conjunct = .linked && conjunct = .consonant then true
    else match last, next with
      | _, .extend | _, .joiner | _, .spacingMark => true
      | .prepend, _ => true
      | .hangulLead, .hangulLead | .hangulLead, .hangulVowel | .hangulLead, .hangulOpen
      | .hangulLead, .hangulClosed => true
      | .hangulOpen, .hangulVowel | .hangulOpen, .hangulTrail | .hangulVowel, .hangulVowel
      | .hangulVowel, .hangulTrail => true
      | .hangulClosed, .hangulTrail | .hangulTrail, .hangulTrail => true
      | _, .pictograph => k.emoji == .joined
      | .regional, .regional => k.oddRegional
      | _, _ => false

/-- The context after a character. -/
def step (k : ClusterContext) (next : ClusterPart) (conjunct : ConjunctPart) : ClusterContext :=
  { last := some next
    conjunct := k.conjunct.step conjunct
    emoji := match next, k.emoji with
      | .pictograph, _ => .base
      | .extend, .base => .base
      | .joiner, .base => .joined
      | _, _ => .none
    oddRegional := next == .regional && !k.oddRegional }

end ClusterContext

/-- The rest of the cluster that has begun, and the clusters after it. -/
def clustersFrom (k : ClusterContext) : List Char → List Char × List (List Char)
  | [] => ([], [])
  | c :: cs =>
    let part := clusterPart c
    let conjunct := conjunctPart c part
    let (own, more) := clustersFrom (k.step part conjunct) cs
    if k.joins part conjunct then (c :: own, more) else ([], (c :: own) :: more)

/-- The clusters of a text. -/
def clusters (cs : List Char) : List (List Char) :=
  (clustersFrom .start cs).2

/-- Cutting into clusters loses nothing. -/
theorem flatten_clustersFrom (k : ClusterContext) (cs : List Char) :
    (clustersFrom k cs).1 ++ (clustersFrom k cs).2.flatten = cs := by
  induction cs generalizing k with
  | nil => rfl
  | cons c cs ih =>
    simp only [clustersFrom]
    split
    · simpa using ih (k.step (clusterPart c) (conjunctPart c (clusterPart c)))
    · simpa using ih (k.step (clusterPart c) (conjunctPart c (clusterPart c)))

end WorkspaceConsole.Text
