import FormRules.Proofs.PatternRefusal
import FormRules.Proofs.RegexRule

/-!
# Patterns that break the search off

A rule that searches for a pattern fails if the pattern is malformed. It breaks off if reading the
pattern does: for a repetition count or for two alphabets. A search that has begun breaks off only for
a group that ends before it begins. How deep groups may be nested is not limited here.
-/

namespace FormRules

namespace Pattern

open FormRules.Number

/-! ## A repeated letter -/

section Repeated

variable {digits : List Char} {refusal : PatternRefusal}

end Repeated

/-- A search breaks off for a crossed group only. -/
theorem crossedGroup_of_search
    {compiled : Compiled} {text : List Char} {fault : Fault}
    (broken : compiled.search text = .error fault) :
    fault = .crossedGroup := by
  unfold Compiled.search at broken
  dsimp only at broken
  generalize (text.map Char.toNat).toArray = codes at broken
  generalize compiled.places codes = count at broken
  generalize 0 = place at broken
  induction count generalizing place with
  | zero => cases broken
  | succ count inductionHypothesis =>
      unfold Compiled.searchFrom at broken
      split at broken
      · dsimp only at broken
        split at broken
        · unfold Compiled.foundBy at broken
          dsimp only at broken
          split at broken
          · cases broken
            rfl
          · cases broken
        · exact inductionHypothesis _ broken
      · exact inductionHypothesis _ broken

end Pattern

namespace Builtin

open FormRules.Pattern

section Passing

variable {inquiry : Inquiry} {shown source : String} {fault : Fault}

/-- In a value without a text nothing is searched for, but the pattern is read. -/
theorem patternPasses_of_unmatched
    (unmatched : inquiry.value.matchedText = .ok none)
    (first : inquiry.options[0]? = some source) (written : source ≠ "") :
    patternPasses inquiry = (Compiled.ofText? source.toList).map fun _ => false := by
  have given : source.isEmpty = false := by simpa using written
  unfold patternPasses option?
  rw [unmatched, first]
  simp only [given, Bool.false_eq_true, if_false]
  cases Compiled.ofText? source.toList with
  | error fault => rfl
  | ok compiled => cases compiled <;> rfl

end Passing

end Builtin

end FormRules
