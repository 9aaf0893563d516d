import FormRules.Proofs.BuiltinDecision
import FormRules.Proofs.NumericText
import Mathlib.Logic.Basic

/-!
# Equality of fields

Equality of values looks through lists, tuples, sets and mappings to any depth, and takes numbers of
every kind as numbers. Loose equality asks first whether a value is null, and then whether both are
numeric. Both are symmetric, so that one field is the same as another exactly if the other is the
same as the one; and of the two rules that compare fields exactly one passes.
-/

namespace FormRules

open FormRules.Number

/-- Each of some elements has an equal among others, and each of the others is an equal of one of
them. -/
def Matched {element : Type}
    (equal : element → element → Bool) (elements others : List element) :
    Prop :=
  (∀ own ∈ elements, ∃ other ∈ others, equal own other = true) ∧
    ∀ other ∈ others, ∃ own ∈ elements, equal own other = true

theorem matched_comm {element : Type}
    {equal : element → element → Bool} {elements : List element}
    (comm : ∀ own ∈ elements, ∀ other, equal own other = equal other own) (others : List element) :
    Matched equal elements others ↔ Matched equal others elements := by
  unfold Matched
  rw [and_comm]
  refine and_congr (forall₂_congr fun other _ => ?_) (forall₂_congr fun own isOwn => ?_)
  · refine exists_congr fun own => and_congr_right fun isOwn => ?_
    rw [comm own isOwn]
  · refine exists_congr fun other => and_congr_right fun _ => ?_
    rw [comm own isOwn]

namespace Value

def isPlain :
    Value → Bool
  | list _ => false
  | tuple _ => false
  | set _ => false
  | mapping _ => false
  | _ => true

/-- What holds of a value as soon as it holds of its elements, holds of every value. The elements of
a mapping are the keys and the values of its entries. -/
@[elab_as_elim]
theorem inductionOnElements
    {motive : Value → Prop}
    (plain : ∀ value : Value, value.isPlain = true → motive value)
    (list : ∀ items, (∀ item ∈ items, motive item) → motive (list items))
    (tuple : ∀ items, (∀ item ∈ items, motive item) → motive (tuple items))
    (set : ∀ members, (∀ member ∈ members, motive member) → motive (set members))
    (mapping : ∀ entries, (∀ entry ∈ entries, motive entry.1 ∧ motive entry.2) →
      motive (mapping entries)) :
    (value : Value) → motive value
  | .list items => list items fun item _ =>
      inductionOnElements plain list tuple set mapping item
  | .tuple items => tuple items fun item _ =>
      inductionOnElements plain list tuple set mapping item
  | .set members => set members fun item _ =>
      inductionOnElements plain list tuple set mapping item
  | .mapping entries => mapping entries fun entry _ =>
      ⟨inductionOnElements plain list tuple set mapping entry.1,
        inductionOnElements plain list tuple set mapping entry.2⟩
  | .null | .boolean _ | .integer _ | .real _ | .text _ | .bytes _ | .moment _ | .object _ _ =>
      plain _ rfl
termination_by value => sizeOf value
decreasing_by
  all_goals
    have smaller := List.sizeOf_lt_of_mem ‹_ ∈ _›
    first
    | cases entry
      simp only [Value.mapping.sizeOf_spec, Prod.mk.sizeOf_spec] at smaller ⊢
      omega
    | simp only [Value.list.sizeOf_spec, Value.tuple.sizeOf_spec, Value.set.sizeOf_spec]
      omega

/-! ## Equality -/

theorem plainEquals_comm
    (left right : Value) :
    left.plainEquals right = right.plainEquals left := by
  unfold plainEquals
  cases left.quantity? with
  | some leftQuantity =>
      cases right.quantity? with
      | some rightQuantity => exact leftQuantity.equals_comm rightQuantity
      | none => rfl
  | none =>
      cases right.quantity? with
      | some rightQuantity => rfl
      | none =>
          cases left with
          | text _ | bytes _ => cases right <;> first | rfl | exact Bool.beq_comm
          | moment moment => cases right <;> first | rfl | exact moment.agrees_comm _
          | object _ _ =>
              cases right with
              | object _ _ => exact congrArg₂ and Bool.beq_comm Bool.beq_comm
              | _ => rfl
          | _ => cases right <;> rfl

def entryEquals
    (left right : Value × Value) :
    Bool :=
  left.1.equals right.1 && left.2.equals right.2

theorem equals_of_isPlain
    {value other : Value} (somePlain : value.isPlain = true ∨ other.isPlain = true) :
    value.equals other = value.plainEquals other := by
  cases value with
  | list _ | tuple _ | set _ | mapping _ =>
      cases other with
      | list _ | tuple _ | set _ | mapping _ =>
          rcases somePlain with isPlain | isPlain <;> cases isPlain
      | _ => simp [equals, plainEquals, quantity?]
  | _ => simp [equals]

theorem equals_comm_of_isPlain
    {left right : Value} (somePlain : left.isPlain = true ∨ right.isPlain = true) :
    left.equals right = right.equals left := by
  rw [equals_of_isPlain somePlain, equals_of_isPlain somePlain.symm, plainEquals_comm]

theorem equalsItems_comm
    {items : List Value} (comm : ∀ item ∈ items, ∀ other, item.equals other = other.equals item)
    (others : List Value) :
    equalsItems items others = equalsItems others items := by
  induction items generalizing others with
  | nil => cases others <;> simp [equalsItems]
  | cons item items inductionHypothesis =>
      rw [List.forall_mem_cons] at comm
      cases others with
      | nil => simp [equalsItems]
      | cons other others =>
          simp only [equalsItems]
          rw [comm.1, inductionHypothesis comm.2]

theorem allMembersIn_eq_true_iff
    {members others : List Value} :
    allMembersIn members others = true ↔
      ∀ member ∈ members, ∃ other ∈ others, member.equals other = true := by
  induction members with
  | nil => simp [allMembersIn]
  | cons member members inductionHypothesis =>
      rw [allMembersIn, Bool.and_eq_true, inductionHypothesis, List.any_eq_true,
        List.forall_mem_cons]

theorem someMemberEquals_eq_true_iff
    {members : List Value} {other : Value} :
    someMemberEquals members other = true ↔ ∃ member ∈ members, member.equals other = true := by
  induction members with
  | nil => simp [someMemberEquals]
  | cons member members inductionHypothesis =>
      rw [someMemberEquals, Bool.or_eq_true, inductionHypothesis, List.exists_mem_cons_iff]

theorem allEntriesIn_eq_true_iff
    {entries others : List (Value × Value)} :
    allEntriesIn entries others = true ↔
      ∀ entry ∈ entries, ∃ other ∈ others, entryEquals entry other = true := by
  induction entries with
  | nil => simp [allEntriesIn]
  | cons entry entries inductionHypothesis =>
      rw [allEntriesIn, Bool.and_eq_true, inductionHypothesis, List.any_eq_true,
        List.forall_mem_cons]
      rfl

theorem someEntryEquals_eq_true_iff
    {entries : List (Value × Value)} {other : Value × Value} :
    someEntryEquals entries other = true ↔ ∃ entry ∈ entries, entryEquals entry other = true := by
  induction entries with
  | nil => simp [someEntryEquals]
  | cons entry entries inductionHypothesis =>
      rw [someEntryEquals, Bool.or_eq_true, inductionHypothesis, List.exists_mem_cons_iff]
      rfl

theorem equals_set_iff
    {members others : List Value} :
    (set members).equals (set others) = true ↔ Matched equals members others := by
  simp only [equals, Bool.and_eq_true, List.all_eq_true, allMembersIn_eq_true_iff,
    someMemberEquals_eq_true_iff, Matched]

theorem equals_mapping_iff
    {entries others : List (Value × Value)} :
    (mapping entries).equals (mapping others) = true ↔ Matched entryEquals entries others := by
  simp only [equals, Bool.and_eq_true, List.all_eq_true, allEntriesIn_eq_true_iff,
    someEntryEquals_eq_true_iff, Matched]

theorem equals_comm
    (left right : Value) :
    left.equals right = right.equals left := by
  induction left using inductionOnElements generalizing right with
  | plain left isPlain => exact equals_comm_of_isPlain (Or.inl isPlain)
  | list items inductionHypothesis =>
      cases right with
      | list others => simp only [equals, equalsItems_comm inductionHypothesis others]
      | tuple _ | set _ | mapping _ => simp only [equals]
      | _ => exact equals_comm_of_isPlain (Or.inr rfl)
  | tuple items inductionHypothesis =>
      cases right with
      | tuple others => simp only [equals, equalsItems_comm inductionHypothesis others]
      | list _ | set _ | mapping _ => simp only [equals]
      | _ => exact equals_comm_of_isPlain (Or.inr rfl)
  | set members inductionHypothesis =>
      cases right with
      | set others =>
          rw [Bool.eq_iff_iff, equals_set_iff, equals_set_iff, matched_comm inductionHypothesis]
      | list _ | tuple _ | mapping _ => simp only [equals]
      | _ => exact equals_comm_of_isPlain (Or.inr rfl)
  | mapping entries inductionHypothesis =>
      cases right with
      | mapping others =>
          have comm : ∀ entry ∈ entries, ∀ other,
              entryEquals entry other = entryEquals other entry := by
            intro entry member other
            obtain ⟨keyComm, valueComm⟩ := inductionHypothesis entry member
            rw [entryEquals, keyComm, valueComm, entryEquals]
          rw [Bool.eq_iff_iff, equals_mapping_iff, equals_mapping_iff, matched_comm comm]
      | list _ | tuple _ | set _ => simp only [equals]
      | _ => exact equals_comm_of_isPlain (Or.inr rfl)

/-! ## Loose equality -/

/-- If the comparison breaks off then it does so at whichever numeral comes first, so only the
answer is the same in both directions. -/
theorem looselyEquals_symm
    {left right : Value} {answer : Bool} (answered : left.looselyEquals right = .ok answer) :
    right.looselyEquals left = .ok answer := by
  rw [← answered]
  unfold looselyEquals at answered ⊢
  rw [Bool.or_comm right.isNull, Bool.and_comm right.isNumeric, Bool.and_comm (!right.isTrue),
    right.equals_comm]
  cases someNull : left.isNull || right.isNull with
  | true => rfl
  | false =>
      cases bothNumeric : left.isNumeric && right.isNumeric with
      | false => rfl
      | true =>
          simp only [someNull, bothNumeric, Bool.false_eq_true, ↓reduceIte] at answered ⊢
          cases ownRead : left.toQuantity with
          | error fault => simp [ownRead] at answered
          | ok own =>
              cases otherRead : right.toQuantity with
              | error fault => simp [ownRead, otherRead] at answered
              | ok other =>
                  cases own with
                  | none => cases other <;> rfl
                  | some own =>
                      cases other with
                      | none => rfl
                      | some other => exact congrArg Except.ok (other.equals_comm own)

theorem looselyEquals_comm
    {left right : Value} {answer : Bool} :
    left.looselyEquals right = .ok answer ↔ right.looselyEquals left = .ok answer :=
  ⟨looselyEquals_symm, looselyEquals_symm⟩

/-- To compare a value with itself and with an equal one both read the same numbers. -/
theorem exists_answer_itself
    (value : Value) :
    (∃ answer, value.looselyEqualsItself = .ok answer) ↔
      ∃ answer, value.looselyEquals value = .ok answer := by
  rw [value.readsNumbers_looselyEqualsItself.exists_answer_iff,
    (value.readsNumbers_looselyEquals value).exists_answer_iff]

end Value

/-! ## The rules that compare fields -/

namespace Builtin

variable {fields : Fields} {key other : String} {passed : Bool}

/-- The field is compared with the one that its rule names. -/
def comparesWith
    (fields : Fields) (key other : String) :
    Except Fault Bool :=
  sameAsOther ⟨fields, key, [other, other]⟩

theorem comparesWith_self
    (notEmpty : key ≠ "") :
    comparesWith fields key key = (fields.value key).looselyEqualsItself := by
  have filled : key.isEmpty = false := by simpa using notEmpty
  simp [comparesWith, sameAsOther, option?, filled, Inquiry.value]

theorem comparesWith_of_ne
    (notEmpty : other ≠ "") (distinct : key ≠ other) :
    comparesWith fields key other = (fields.value key).looselyEquals (fields.value other) := by
  have filled : other.isEmpty = false := by simpa using notEmpty
  simp [comparesWith, sameAsOther, option?, filled, distinct.symm, Inquiry.value]

theorem comparesWith_comm
    (notEmpty : key ≠ "") (notEmptyToo : other ≠ "") :
    comparesWith fields key other = .ok passed ↔ comparesWith fields other key = .ok passed := by
  by_cases same : key = other
  · rw [same]
  · rw [comparesWith_of_ne notEmptyToo same, comparesWith_of_ne notEmpty (Ne.symm same),
      Value.looselyEquals_comm]

theorem exists_answer_comparesWith
    (notEmpty : other ≠ "") :
    (∃ answer, comparesWith fields key other = .ok answer) ↔
      ∃ answer, (fields.value key).looselyEquals (fields.value other) = .ok answer := by
  by_cases same : key = other
  · subst same
    rw [comparesWith_self notEmpty, Value.exists_answer_itself]
  · rw [comparesWith_of_ne notEmpty same]

end Builtin

namespace Setting

variable {setting : Setting} {fields : Fields} {key other : String} {passed : Bool}

theorem decides_same_iff
    (isOther : Expression.IsValue other) :
    setting.Decides fields key (Builtin.same.expression other) passed ↔
      Builtin.comparesWith fields key other = .ok passed :=
  decides_expression_of_options (Expression.optionsOf_value isOther)

theorem decides_different_iff
    (isOther : Expression.IsValue other) :
    setting.Decides fields key (Builtin.different.expression other) passed ↔
      Builtin.comparesWith fields key other = .ok (!passed) := by
  rw [decides_expression_of_options (Expression.optionsOf_value isOther)]
  have negated :
      Builtin.different.passes setting.surroundings.present ⟨fields, key, [other, other]⟩ =
        (Builtin.comparesWith fields key other).map (! ·) :=
    rfl
  rw [negated]
  cases Builtin.comparesWith fields key other with
  | error fault => simp [Except.map]
  | ok answer => simp [Except.map, Bool.not_eq_eq_eq_not]

/-- Of the two rules that compare fields one decides as the other does not, and if the values can be
compared then exactly one of them passes. It makes no difference from which of its fields a
comparison starts, for loose equality is symmetric on all values. -/
theorem same_opposed_and_symmetric
    (setting : Setting) (fields : Fields) (isKey : Expression.IsValue key)
    (isOther : Expression.IsValue other) :
    (∀ passed, setting.Decides fields key (Builtin.same.expression other) passed ↔
        setting.Decides fields key (Builtin.different.expression other) (!passed)) ∧
      ((∃ answer, (fields.value key).looselyEquals (fields.value other) = .ok answer) →
        Xor (setting.Decides fields key (Builtin.same.expression other) true)
          (setting.Decides fields key (Builtin.different.expression other) true)) ∧
      (∀ passed, setting.Decides fields key (Builtin.same.expression other) passed ↔
        setting.Decides fields other (Builtin.same.expression key) passed) ∧
      ∀ (left right : Value) answer,
        left.looselyEquals right = .ok answer ↔ right.looselyEquals left = .ok answer := by
  refine ⟨fun passed => ?_, fun comparable => ?_, fun passed => ?_, fun _ _ _ =>
    Value.looselyEquals_comm⟩
  · rw [decides_same_iff isOther, decides_different_iff isOther, Bool.not_not]
  · obtain ⟨answer, answered⟩ :=
      (Builtin.exists_answer_comparesWith isOther.notEmpty).mpr comparable
    rw [decides_same_iff isOther, decides_different_iff isOther, answered]
    cases answer <;> simp [Xor]
  · rw [decides_same_iff isOther, decides_same_iff isKey,
      Builtin.comparesWith_comm isKey.notEmpty isOther.notEmpty]

end Setting

/-! ## Two nested values -/

def wholeOffer :
    Value :=
  .list [.integer 1, .tuple [.boolean false, .mapping []]]

def realOffer :
    Value :=
  .list [.real (.finite false unitsPerOne), .tuple [.integer 0, .mapping []]]

def offerFields :
    Fields :=
  [("asked", wholeOffer), ("given", realOffer)]

/-- The two lists are the same, from whichever of their fields they are compared. -/
theorem offers_same_and_not_different :
    shopSetting.Decides offerFields "asked" (Builtin.same.expression "given") true ∧
      ¬ shopSetting.Decides offerFields "asked" (Builtin.different.expression "given") true ∧
      shopSetting.Decides offerFields "given" (Builtin.same.expression "asked") true := by
  have isKey : Expression.IsValue "asked" := by decide
  have isOther : Expression.IsValue "given" := by decide
  have ones : (Value.integer 1).plainEquals (.real (.finite false unitsPerOne)) = true := by
    decide +kernel
  have zeros : (Value.boolean false).plainEquals (.integer 0) = true := by
    decide +kernel
  have compared : wholeOffer.looselyEquals realOffer = .ok true := by
    simp [wholeOffer, realOffer, Value.looselyEquals, Value.isNull, Value.isNumeric, Value.equals,
      Value.equalsItems, Value.allEntriesIn, ones, zeros]
  obtain ⟨_, exactlyOne, symmetric, _⟩ :=
    Setting.same_opposed_and_symmetric shopSetting offerFields isKey isOther
  have same : shopSetting.Decides offerFields "asked" (Builtin.same.expression "given") true := by
    rw [Setting.decides_same_iff isOther, Builtin.comparesWith_of_ne isOther.notEmpty (by decide)]
    exact compared
  refine ⟨same, ?_, (symmetric true).mp same⟩
  rcases exactlyOne ⟨true, compared⟩ with ⟨_, notDifferent⟩ | ⟨_, notSame⟩
  · exact notDifferent
  · exact absurd same notSame

end FormRules
