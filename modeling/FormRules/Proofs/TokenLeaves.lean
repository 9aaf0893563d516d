import FormRules.Rule.Token
import Mathlib.Data.List.Forall2

/-!
# Groups of tokens

However tokens are grouped, only their leaves count. The descriptors of a token are those of its
leaves in their order, and it is refused for the first leaf that is refused. Two tokens have the
same leaves exactly if one becomes the other when groups are put around tokens, opened, or put in
where they are empty, and such regrouping changes nothing about what is read.
-/

namespace FormRules

namespace Token

/-- What comes of reading leaves one after the other: a descriptor for each, or the refusal of the
first one that is refused. -/
inductive Gives
    (message : Value) :
    List Leaf → Except Refusal (List Descriptor) → Prop
  | all {leaves : List Leaf} {descriptors : List Descriptor}
      (read : List.Forall₂
        (fun single descriptor => (leaf single).descriptor message = .ok descriptor)
        leaves descriptors) :
      Gives message leaves (.ok descriptors)
  | refused (before : List Leaf) {single : Leaf} {refusal : Refusal} (after : List Leaf)
      (readable : ∀ earlier ∈ before,
        ∃ descriptor, (leaf earlier).descriptor message = .ok descriptor)
      (unreadable : (leaf single).descriptor message = .error refusal) :
      Gives message (before ++ single :: after) (.error refusal)

/-- One token becomes the other when groups are put around tokens or opened, at whatever depth. An
empty group that is opened is gone. -/
inductive Regroups :
    Token → Token → Prop
  | refl (token : Token) : Regroups token token
  | symm {first second : Token} (regroups : Regroups first second) : Regroups second first
  | trans {first second third : Token} (regroups : Regroups first second)
      (regroupsToo : Regroups second third) :
      Regroups first third
  | around (grouping : Grouping) (token : Token) : Regroups token (group grouping [token])
  | opened (grouping inner : Grouping) (before tokens after : List Token) :
      Regroups (group grouping (before ++ group inner tokens :: after))
        (group grouping (before ++ (tokens ++ after)))
  | within (grouping : Grouping) (before after : List Token) {first second : Token}
      (regroups : Regroups first second) :
      Regroups (group grouping (before ++ first :: after))
        (group grouping (before ++ second :: after))

/-! ## Reading leaves -/

section Reading

variable {message : Value}

/-- A readable leaf in front gives a descriptor in front. -/
theorem Gives.cons
    {single : Leaf} {descriptor : Descriptor} {leaves : List Leaf}
    {result : Except Refusal (List Descriptor)}
    (read : (leaf single).descriptor message = .ok descriptor)
    (gives : Gives message leaves result) :
    Gives message (single :: leaves) (result.map fun others => descriptor :: others) := by
  cases gives with
  | all readAll => exact .all (.cons read readAll)
  | @refused before later refusal after readable unreadable =>
      refine .refused (single :: before) after ?_ unreadable
      rw [List.forall_mem_cons]
      exact ⟨⟨descriptor, read⟩, readable⟩

/-- Reading leaves one after the other gives what it is to give. -/
theorem gives_mapM
    (message : Value) (leaves : List Leaf) :
    Gives message leaves (leaves.mapM fun single => (leaf single).descriptor message) := by
  induction leaves with
  | nil => exact .all .nil
  | cons single leaves inductionHypothesis =>
      rw [List.mapM_cons]
      cases read : (leaf single).descriptor message with
      | error refusal => exact .refused [] leaves (by simp) read
      | ok descriptor =>
          have given := inductionHypothesis.cons read
          cases readAll : leaves.mapM fun single => (leaf single).descriptor message with
          | error refusal =>
              rw [readAll] at given
              exact given
          | ok descriptors =>
              rw [readAll] at given
              exact given

/-- Leaves give one thing only. -/
theorem Gives.eq_mapM
    {leaves : List Leaf} {result : Except Refusal (List Descriptor)}
    (gives : Gives message leaves result) :
    (leaves.mapM fun single => (leaf single).descriptor message) = result := by
  cases gives with
  | all readAll =>
      induction readAll with
      | nil => rfl
      | cons read _ inductionHypothesis =>
          rw [List.mapM_cons, read, inductionHypothesis]
          rfl
  | @refused before single refusal after readable unreadable =>
      induction before with
      | nil =>
          rw [List.nil_append, List.mapM_cons, unreadable]
          rfl
      | cons earlier before inductionHypothesis =>
          rw [List.forall_mem_cons] at readable
          obtain ⟨⟨descriptor, read⟩, readableToo⟩ := readable
          rw [List.cons_append, List.mapM_cons, read, inductionHypothesis readableToo]
          rfl

theorem leavesOfAll_append
    (tokens others : List Token) :
    leavesOfAll (tokens ++ others) = leavesOfAll tokens ++ leavesOfAll others := by
  induction tokens with
  | nil => rfl
  | cons token tokens inductionHypothesis =>
      rw [List.cons_append, leavesOfAll, leavesOfAll, inductionHypothesis, List.append_assoc]

mutual

/-- The descriptors of a token are read off its leaves. -/
theorem descriptors_eq_mapM
    (message : Value) :
    (token : Token) →
      token.descriptors message =
        token.leaves.mapM fun single => (leaf single).descriptor message
  | leaf single => by
      rw [descriptors, leaves, List.mapM_cons, List.mapM_nil]
      cases read : Descriptor.ofLeaf single message <;> simp only [descriptor, read] <;> rfl
  | group _ tokens => by
      rw [descriptors, leaves]
      exact descriptorsOfAll_eq_mapM message tokens

/-- The descriptors of several tokens are read off their leaves. -/
theorem descriptorsOfAll_eq_mapM
    (message : Value) :
    (tokens : List Token) →
      descriptorsOfAll message tokens =
        (leavesOfAll tokens).mapM fun single => (leaf single).descriptor message
  | [] => rfl
  | token :: tokens => by
      rw [descriptorsOfAll, leavesOfAll, List.mapM_append, descriptors_eq_mapM message token,
        descriptorsOfAll_eq_mapM message tokens]
      cases token.leaves.mapM fun single => (leaf single).descriptor message with
      | error refusal => rfl
      | ok first =>
          cases (leavesOfAll tokens).mapM fun single => (leaf single).descriptor message <;> rfl

end

/-- Reading a token gives what its leaves give, and nothing else. -/
theorem gives_leaves_iff
    {token : Token} {result : Except Refusal (List Descriptor)} :
    Gives message token.leaves result ↔ token.descriptors message = result := by
  rw [descriptors_eq_mapM]
  constructor
  · exact Gives.eq_mapM
  · rintro rfl
    exact gives_mapM message token.leaves

theorem descriptors_eq_of_leaves_eq
    {first second : Token} (same : first.leaves = second.leaves) (message : Value) :
    first.descriptors message = second.descriptors message := by
  rw [descriptors_eq_mapM, descriptors_eq_mapM, same]

end Reading

/-! ## Regrouping -/

namespace Regroups

theorem leaves_eq
    {first second : Token} (regroups : Regroups first second) :
    first.leaves = second.leaves := by
  induction regroups with
  | refl => rfl
  | symm _ inductionHypothesis => exact inductionHypothesis.symm
  | trans _ _ inductionHypothesis inductionHypothesisToo =>
      exact inductionHypothesis.trans inductionHypothesisToo
  | around grouping token => simp only [leaves, leavesOfAll, List.append_nil]
  | opened grouping inner before tokens after =>
      simp only [leaves, leavesOfAll, leavesOfAll_append]
  | within grouping before after _ inductionHypothesis =>
      simp only [leaves, leavesOfAll, leavesOfAll_append, inductionHypothesis]

/-- The kind of a group does not matter: it is put into a group of the other kind and opened. -/
theorem otherKind
    (grouping other : Grouping) (tokens : List Token) :
    Regroups (group grouping tokens) (group other tokens) := by
  have around := Regroups.around other (group grouping tokens)
  have opened := Regroups.opened other grouping [] tokens []
  rw [List.nil_append, List.nil_append, List.append_nil] at opened
  exact around.trans opened

mutual

/-- A token becomes the list of its leaves. -/
theorem flat :
    (token : Token) → Regroups token (group .list (token.leaves.map leaf))
  | leaf single => around .list (leaf single)
  | group grouping tokens => (otherKind grouping .list tokens).trans (flatAll [] tokens)

/-- Behind tokens that stay as they are, tokens become their leaves, from left to right. -/
theorem flatAll
    (before : List Token) :
    (tokens : List Token) →
      Regroups (group .list (before ++ tokens))
        (group .list (before ++ (leavesOfAll tokens).map leaf))
  | [] => .refl _
  | token :: tokens => by
      have first := within .list before tokens (flat token)
      have opened := opened .list .list before (token.leaves.map leaf) tokens
      have others := flatAll (before ++ token.leaves.map leaf) tokens
      rw [List.append_assoc, List.append_assoc, ← List.map_append] at others
      exact (first.trans opened).trans others

end

/-- Regrouping is all that tokens with the same leaves can differ in. -/
theorem of_leaves_eq
    {first second : Token} (same : first.leaves = second.leaves) :
    Regroups first second := by
  have normal := flat first
  rw [same] at normal
  exact normal.trans (flat second).symm

end Regroups

/-- Tokens are read by their leaves: each is given its descriptor, in the order from left to right,
or else the first leaf that is refused is the reason for a refusal. So nothing changes when tokens
are regrouped, which is possible exactly between tokens with the same leaves; and of two groups that
are joined the descriptors are joined. -/
theorem read_by_leaves
    (message : Value) :
    (∀ (token : Token) result,
        Gives message token.leaves result ↔ token.descriptors message = result) ∧
      (∀ first second : Token, Regroups first second ↔ first.leaves = second.leaves) ∧
      (∀ first second : Token, Regroups first second →
        first.descriptors message = second.descriptors message) ∧
      ∀ grouping tokens others descriptors otherDescriptors,
        (group grouping tokens).descriptors message = .ok descriptors →
          (group grouping others).descriptors message = .ok otherDescriptors →
            (group grouping (tokens ++ others)).descriptors message =
              .ok (descriptors ++ otherDescriptors) := by
  refine ⟨fun token result => gives_leaves_iff, fun first second => ?_, ?_, ?_⟩
  · exact ⟨Regroups.leaves_eq, Regroups.of_leaves_eq⟩
  · intro first second regroups
    exact descriptors_eq_of_leaves_eq regroups.leaves_eq message
  · intro grouping tokens others descriptors otherDescriptors read readToo
    rw [descriptors_eq_mapM, leaves] at read readToo ⊢
    rw [leavesOfAll_append, List.mapM_append, read, readToo]
    rfl

end Token

/-! ## A token with groups in groups -/

/-- A token with two expressions, grouped for no reason, and with an empty group between them. -/
def nestedToken :
    Token :=
  .group .tuple
    [.group .list [.group .tuple [.leaf (.expression "required")]], .group .list [],
      .leaf (.expression "between:3, 20")]

def flatToken :
    Token :=
  .group .list [.leaf (.expression "required"), .leaf (.expression "between:3, 20")]

def nicknameDescriptors :
    List Descriptor :=
  [⟨.named "required", [], "required", .null⟩,
    ⟨.named "between", ["3, 20", "3", "20"], "between:3, 20", .null⟩]

/-- A leaf that is no expression behind an expression, and a leaf behind it that is no token. -/
def refusedToken :
    Token :=
  .group .list
    [.group .tuple [.leaf (.expression "required"), .group .list [.leaf (.expression " : 3")]],
      .leaf (.unusable "int")]

/-- The groups of the nested token can be opened, so that it is read as the flat one is, and the two
put into one group are read one behind the other. Of two leaves that are refused the first is
named. -/
theorem nested_read_by_leaves :
    Token.Regroups nestedToken flatToken ∧
      nestedToken.descriptors .null = .ok nicknameDescriptors ∧
      (Token.group .tuple [flatToken, nestedToken]).descriptors .null =
        .ok (nicknameDescriptors ++ nicknameDescriptors) ∧
      refusedToken.descriptors .null = .error (.invalidExpression " : 3") := by
  obtain ⟨given, regroups, unchanged, joined⟩ := Token.read_by_leaves .null
  have flatRead : flatToken.descriptors .null = .ok nicknameDescriptors := by
    rfl
  have same : Token.Regroups nestedToken flatToken := (regroups _ _).mpr rfl
  have nestedRead : nestedToken.descriptors .null = .ok nicknameDescriptors :=
    (unchanged _ _ same).trans flatRead
  refine ⟨same, nestedRead, ?_, ?_⟩
  · have alone : ∀ token : Token, Token.Regroups (.group .tuple [token]) token := fun token =>
      (regroups _ _).mpr (List.append_nil _)
    exact joined .tuple [flatToken] [nestedToken] _ _
      ((unchanged _ _ (alone flatToken)).trans flatRead)
      ((unchanged _ _ (alone nestedToken)).trans nestedRead)
  · rw [← given]
    exact .refused [.expression "required"] [.unusable "int"]
      (by simpa using ⟨_, rfl⟩) rfl

end FormRules
