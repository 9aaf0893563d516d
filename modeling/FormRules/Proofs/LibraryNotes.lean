import FormRules.Journal.Log
import FormRules.Proofs.LatestCheck
import Mathlib.Data.String.Basic

/-!
# Notes of the library

The library notes what it does with its own loggers, which are all below the library's logger. Its
notes come to their loggers directly and have no values.
-/

namespace FormRules

def IsLibraryLogger
    (logger : String) :
    Prop :=
  logger = "fieldcheck" ∨ ∃ below, logger = "fieldcheck." ++ below

/-- The note belongs to the library's logger or one below it, and if it is no event, it has no
values. -/
structure Note.IsOfLibrary
    (note : Note) :
    Prop where
  isLocal : note.isLocal = true
  noValues : note.route = .direct → note.values = []

theorem Note.isLocal_iff
    {note : Note} :
    note.isLocal = true ↔ IsLibraryLogger note.logger := by
  have dotted : rootLogger ++ "." = "fieldcheck." := by decide
  simp only [isLocal, IsLibraryLogger, Bool.or_eq_true, beq_iff_eq, dotted, String.isPrefixOf,
    String.startsWith_string_iff]
  refine or_congr Iff.rfl ⟨?_, ?_⟩
  · rintro ⟨below, same⟩
    have asText : (String.ofList below).toList = below := String.toList_ofList
    refine ⟨String.ofList below, String.toList_injective ?_⟩
    rw [String.toList_append, asText, same]
  · rintro ⟨below, same⟩
    exact ⟨below.toList, by rw [same, String.toList_append]⟩

theorem Note.isOfLibrary_forDebugging
    (part event : String) :
    (forDebugging part event).IsOfLibrary :=
  ⟨isLocal_iff.mpr (Or.inr ⟨part, rfl⟩), fun _ => rfl⟩

/-! ## Operations -/

/-- An operation of the library, with what it works on at that moment. A history is thus free to use
any number of validations, conditions and registries, in any state. -/
inductive LibraryOperation where
  | configure (validation : Validation) (catalog : Catalog) (call : Call)
  | run (validation : Validation) (surroundings : Surroundings) (fields : Fields)
      (bail : Option Bool)
  | validate (validation : Validation) (surroundings : Surroundings) (fields : Fields)
      (bail : Option Bool)
  | useCondition (condition : Condition) (operation : Condition.Operation)
  | register (registry : Registry) (catalog : Catalog) (name : String) (source : HandlerSource)

/-- The notes that an operation makes. To add rules and to record outcomes makes none. -/
def LibraryOperation.notes :
    LibraryOperation → List Note
  | configure validation _ (.attach field token message) =>
      Note.ofAttachment field (validation.attach field token message)
  | configure validation catalog (.register name source) =>
      Note.ofRegistration name (validation.register catalog name source)
  | run validation surroundings fields bail => (validation.run surroundings fields bail).notes
  | validate validation surroundings fields bail => (validation.run surroundings fields bail).notes
  | useCondition condition (.evaluate surroundings registry fields key bail) =>
      (condition.evaluate surroundings registry fields key bail).notes key
  | useCondition condition (.check surroundings registry fields key bail) =>
      (condition.check surroundings registry fields key bail).notes
  | useCondition _ (.addRule _ _) | useCondition _ (.extend _) | useCondition _ (.record _ _) => []
  | register registry catalog name source =>
      Note.ofRegistration name (registry.register catalog name source)

theorem Evaluation.isOfLibrary_of_mem_notes
    {evaluation : Evaluation} {key : String} {note : Note} (member : note ∈ evaluation.notes key) :
    note.IsOfLibrary := by
  obtain ⟨outcome, _, rfl⟩ := List.mem_map.mp member
  exact Note.isOfLibrary_forDebugging _ _

theorem Progress.isOfLibrary_of_mem_notes
    {evaluate : Condition → String → Evaluation} {bail stopped : Bool}
    {conditions : List (String × Condition)} {note : Note}
    (member : note ∈ (ofConditions evaluate bail stopped conditions).notes) :
    note.IsOfLibrary := by
  induction conditions generalizing stopped with
  | nil => cases stopped <;> cases member
  | cons entry rest inductionHypothesis =>
      obtain ⟨key, condition⟩ := entry
      cases stopped with
      | true => exact inductionHypothesis member
      | false =>
          simp only [ofConditions] at member
          split at member
          · exact Evaluation.isOfLibrary_of_mem_notes member
          · rcases List.mem_append.mp member with own | later
            · exact Evaluation.isOfLibrary_of_mem_notes own
            · exact inductionHypothesis later

theorem Validation.isOfLibrary_of_mem_notes
    {validation : Validation} {surroundings : Surroundings} {fields : Fields}
    {bail : Option Bool} {note : Note}
    (member : note ∈ (validation.run surroundings fields bail).notes) :
    note.IsOfLibrary := by
  simp only [run] at member
  split at member
  · exact Progress.isOfLibrary_of_mem_notes member
  · rcases List.mem_append.mp member with found | finished
    · exact Progress.isOfLibrary_of_mem_notes found
    · rw [List.mem_singleton.mp finished]
      exact Note.isOfLibrary_forDebugging _ _

theorem Note.isOfLibrary_of_mem_ofRegistration
    {refusal result : Type} {name : String} {registered : Except refusal result} {note : Note}
    (member : note ∈ ofRegistration name registered) :
    note.IsOfLibrary := by
  cases registered with
  | error _ => cases member
  | ok _ =>
      rw [List.mem_singleton.mp member]
      exact isOfLibrary_forDebugging _ _

theorem Note.isOfLibrary_of_mem_ofAttachment
    {refusal result : Type} {field : String} {attached : Except refusal result} {note : Note}
    (member : note ∈ ofAttachment field attached) :
    note.IsOfLibrary := by
  cases attached with
  | error _ => cases member
  | ok _ =>
      rw [List.mem_singleton.mp member]
      exact isOfLibrary_forDebugging _ _

theorem Condition.isOfLibrary_of_mem_notes
    {condition : Condition} {surroundings : Surroundings} {registry : Registry}
    {fields : Fields} {key : String} {bail : Bool} {note : Note}
    (member : note ∈ (condition.check surroundings registry fields key bail).notes) :
    note.IsOfLibrary := by
  simp only [check] at member
  split at member
  · exact Evaluation.isOfLibrary_of_mem_notes member
  · exact Evaluation.isOfLibrary_of_mem_notes member

theorem LibraryOperation.isOfLibrary_of_mem_notes
    {operation : LibraryOperation} {note : Note} (member : note ∈ operation.notes) :
    note.IsOfLibrary := by
  cases operation with
  | configure validation catalog call =>
      cases call with
      | attach field token message => exact Note.isOfLibrary_of_mem_ofAttachment member
      | register name source => exact Note.isOfLibrary_of_mem_ofRegistration member
  | run validation surroundings fields bail =>
      exact Validation.isOfLibrary_of_mem_notes member
  | validate validation surroundings fields bail =>
      exact Validation.isOfLibrary_of_mem_notes member
  | useCondition condition operation =>
      cases operation with
      | evaluate surroundings registry fields key bail =>
          exact Evaluation.isOfLibrary_of_mem_notes member
      | check surroundings registry fields key bail =>
          exact Condition.isOfLibrary_of_mem_notes member
      | addRule _ _ | extend _ | record _ _ => cases member
  | register registry catalog name source => exact Note.isOfLibrary_of_mem_ofRegistration member

end FormRules
