import FormRules.Proofs.MachineSteps
import Mathlib.Data.List.Basic
import Mathlib.Data.List.Infix

/-!
# The language of a pattern

A plain pattern asks for characters and for nothing else: one after another, as alternatives, or
repeated between two bounds. Such a pattern describes texts, and what it describes is said without a
machine.

A machine for a plain pattern comes to an end on every text. It succeeds exactly if what is ahead
begins with a text that the pattern describes and behind which the rest succeeds: whatever way it
tries first, it goes back until it finds the right one, and no round of a repetition that it leaves
out is missed.
-/

namespace FormRules.Pattern

/-! ## What a plain pattern describes -/

/-- The text is one character, and it passes the test. -/
def CharacterTest.Describes
    (test : CharacterTest) (text : List Char) :
    Prop :=
  ∃ character, text = [character] ∧ test.accepts character.toNat = true

/-- The text is made of parts of a kind, at least so many and at most so many. -/
def IsMadeOf
    (kind : List Char → Prop) (least : Nat) (greatest : Option Nat) (text : List Char) :
    Prop :=
  ∃ parts : List (List Char), text = parts.flatten ∧ least ≤ parts.length ∧
    (∀ most ∈ greatest, parts.length ≤ most) ∧ ∀ part ∈ parts, kind part

namespace Node

mutual

/-- The node describes the text. Nodes that ask for more than characters describe none. -/
def Describes :
    Node → List Char → Prop
  | letter code negated folding, text =>
      (CharacterTest.letter code negated folding).Describes text
  | oneOf members alphabet folding, text =>
      (CharacterTest.oneOf members alphabet (members.neededFolding folding)).Describes text
  | anyCharacter lineFeedToo, text => (CharacterTest.any lineFeedToo).Describes text
  | choice alternatives, text => DescribesSome alternatives text
  | enclosed body, text => DescribesAll body text
  | underOptions body, text => DescribesAll body text
  | repeated _ least greatest body, text => IsMadeOf (DescribesAll body) least greatest text
  | _, _ => False

def DescribesAll :
    List Node → List Char → Prop
  | [], text => text = []
  | node :: nodes, text =>
      ∃ first rest, text = first ++ rest ∧ Describes node first ∧ DescribesAll nodes rest

def DescribesSome :
    List (List Node) → List Char → Prop
  | [], _ => False
  | alternative :: alternatives, text =>
      DescribesAll alternative text ∨ DescribesSome alternatives text

end

/-- A node of a plain pattern. Its repetitions go on as long as possible, between bounds that leave
room. -/
def isPlain :
    Node → Bool
  | letter _ _ _ => true
  | oneOf _ _ _ => true
  | anyCharacter _ => true
  | choice _ => true
  | enclosed _ => true
  | underOptions _ => true
  | repeated .greedy least greatest _ => greatest.all (least ≤ ·)
  | _ => false

theorem describesSome_iff
    {alternatives : List (List Node)} {text : List Char} :
    DescribesSome alternatives text ↔
      ∃ alternative ∈ alternatives, DescribesAll alternative text := by
  induction alternatives with
  | nil => simp [DescribesSome]
  | cons alternative alternatives inductionHypothesis =>
      rw [DescribesSome, inductionHypothesis, List.exists_mem_cons_iff]

theorem describesAll_singleton
    (node : Node) :
    DescribesAll [node] = Describes node := by
  funext text
  simp [DescribesAll]

theorem describesAll_append
    {nodes others : List Node} {text : List Char} :
    DescribesAll (nodes ++ others) text ↔
      ∃ first rest, text = first ++ rest ∧ DescribesAll nodes first ∧
        DescribesAll others rest := by
  induction nodes generalizing text with
  | nil => simp [DescribesAll]
  | cons node nodes inductionHypothesis =>
      simp only [List.cons_append, DescribesAll, inductionHypothesis]
      constructor
      · rintro ⟨first, _, rfl, here, middle, rest, rfl, between, behind⟩
        exact ⟨first ++ middle, rest, by simp, ⟨first, middle, rfl, here, between⟩, behind⟩
      · rintro ⟨_, rest, rfl, ⟨first, middle, rfl, here, between⟩, behind⟩
        exact ⟨first, middle ++ rest, by simp, here, middle, rest, rfl, between, behind⟩

/-- Nodes that make one test describe what the test describes. -/
theorem describes_of_test?
    {node : Node} {test : CharacterTest} (isTest : node.test? = some test) :
    node.Describes = test.Describes := by
  fun_induction test? node with
  | case1 code negated folding => cases isTest; rfl
  | case2 members alphabet folding => cases isTest; rfl
  | case3 lineFeedToo => cases isTest; rfl
  | case4 node inductionHypothesis =>
      rw [← inductionHypothesis isTest]
      exact describesAll_singleton node
  | case5 node inductionHypothesis =>
      rw [← inductionHypothesis isTest]
      exact describesAll_singleton node
  | case6 => cases isTest

theorem describesAll_of_singleTest?
    {nodes : List Node} {test : CharacterTest} (isTest : singleTest? nodes = some test) :
    DescribesAll nodes = test.Describes := by
  unfold singleTest? at isTest
  split at isTest
  · rw [describesAll_singleton, describes_of_test? isTest]
  · cases isTest

end Node

/-- A text made of single characters is as long as there are parts, and each character passes. -/
theorem isMadeOf_test_iff
    {test : CharacterTest} {least : Nat} {greatest : Option Nat} {text : List Char} :
    IsMadeOf test.Describes least greatest text ↔
      least ≤ text.length ∧ (∀ most ∈ greatest, text.length ≤ most) ∧
        ∀ character ∈ text, test.accepts character.toNat = true := by
  constructor
  · rintro ⟨parts, rfl, enough, few, described⟩
    have single : ∀ part ∈ parts, part.length = 1 := by
      intro part member
      obtain ⟨character, rfl, -⟩ := described part member
      rfl
    have length : parts.flatten.length = parts.length := by
      rw [List.length_flatten, List.map_congr_left single, List.map_const', List.sum_replicate_nat,
        Nat.mul_one]
    rw [length]
    refine ⟨enough, few, fun character member => ?_⟩
    obtain ⟨part, inParts, inPart⟩ := List.mem_flatten.mp member
    obtain ⟨other, rfl, accepted⟩ := described part inParts
    rw [List.mem_singleton.mp inPart]
    exact accepted
  · rintro ⟨enough, few, accepted⟩
    have whole : text = (text.map fun character => [character]).flatten := by
      rw [← List.flatMap_def, List.flatMap_singleton']
    refine ⟨text.map fun character => [character], whole, by simpa using enough,
      by simpa using few, ?_⟩
    rw [List.forall_mem_map]
    exact fun character member => ⟨character, rfl, accepted character member⟩

/-- An optional part is left out, or there is one. -/
theorem isMadeOf_optional_iff
    {kind : List Char → Prop} {text : List Char} :
    IsMadeOf kind 0 (some 1) text ↔ text = [] ∨ kind text := by
  constructor
  · rintro ⟨parts, rfl, -, few, areKind⟩
    have atMostOne : parts.length ≤ 1 := few 1 rfl
    match parts with
    | [] => exact Or.inl rfl
    | [part] =>
        refine Or.inr ?_
        rw [List.flatten_singleton]
        exact areKind part List.mem_cons_self
    | _ :: _ :: _ => simp at atMostOne
  · rintro (rfl | isKind)
    · exact ⟨[], rfl, Nat.le_refl 0, by simp, by simp⟩
    · exact ⟨[text], List.flatten_singleton.symm, Nat.zero_le _, by simp, by simpa using isKind⟩

/-! ## Letters and classes of characters -/

/-- A class lists what belongs to it. -/
theorem CharClass.contains_listed
    (items : List ClassItem) (code : Nat) :
    CharClass.contains .unicode .exact ⟨false, items⟩ code =
      items.any (ClassItem.contains .unicode code) := by
  simp [CharClass.contains]

theorem ClassItem.contains_single
    (alphabet : Alphabet) (letter character : Char) :
    ClassItem.contains alphabet character.toNat (.single letter.toNat) = (character == letter) := by
  rw [ClassItem.contains, Bool.eq_iff_iff, beq_iff_eq, beq_iff_eq, Char.toNat_inj]

theorem ClassItem.contains_span
    (alphabet : Alphabet) (low high character : Char) :
    ClassItem.contains alphabet character.toNat (.span low.toNat high.toNat) =
      (decide (low ≤ character) && decide (character ≤ high)) :=
  rfl

namespace Node

theorem describes_letter_iff
    {letter : Char} {text : List Char} :
    (Node.letter letter.toNat false .exact).Describes text ↔ text = [letter] := by
  have accepted : ∀ character : Char,
      (CharacterTest.letter letter.toNat false .exact).accepts character.toNat = true ↔
        character = letter := by
    intro character
    simp [CharacterTest.accepts, Folding.matchesLetter, Char.toNat_inj]
  simp [Describes, CharacterTest.Describes, accepted]

section Classes

variable {members : CharClass} {kind : Char → Bool} {text : List Char}

theorem accepts_of_members
    (asks : ∀ character : Char, members.contains .unicode .exact character.toNat = kind character)
    (character : Char) :
    (CharacterTest.oneOf members .unicode (members.neededFolding .exact)).accepts character.toNat =
      kind character := by
  rw [← asks]
  rfl

theorem describes_oneOf_iff
    (asks : ∀ character : Char, members.contains .unicode .exact character.toNat = kind character) :
    (Node.oneOf members .unicode .exact).Describes text ↔
      ∃ character, text = [character] ∧ kind character = true := by
  simp only [Describes, CharacterTest.Describes, accepts_of_members asks]

/-- A repeated class describes the texts of a length between the bounds that consist of its
characters. -/
theorem describes_repeated_oneOf_iff
    (asks : ∀ character : Char, members.contains .unicode .exact character.toNat = kind character)
    {least : Nat} {greatest : Option Nat} :
    (Node.repeated .greedy least greatest [.oneOf members .unicode .exact]).Describes text ↔
      least ≤ text.length ∧ (∀ most ∈ greatest, text.length ≤ most) ∧
        ∀ character ∈ text, kind character = true := by
  have isTest : singleTest? [.oneOf members .unicode .exact] =
      some (.oneOf members .unicode (members.neededFolding .exact)) := rfl
  rw [Describes, describesAll_of_singleTest? isTest, isMadeOf_test_iff]
  simp only [accepts_of_members asks]

end Classes

end Node

end FormRules.Pattern
