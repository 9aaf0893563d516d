import FormRules.Validation.Result
import Mathlib.Data.List.Forall2

/-!
# Results of runs

A run hands over its messages as values, and its result holds them as texts. Messages that are texts
are taken over as they are; whatever the messages, a result is fine exactly if there are none.
-/

namespace FormRules

/-- Readings succeed together exactly if each of them does. -/
theorem Lenient.collect_eq_ok_iff {result : Type}
    {readings : List (Lenient result)} {values : List result} :
    collect readings = .ok values ↔
      List.Forall₂ (fun reading value => reading = .ok value) readings values := by
  induction readings generalizing values with
  | nil => cases values <;> simp [collect]
  | cons reading readings inductionHypothesis =>
      cases reading with
      | error issues =>
          unfold collect
          cases collect readings <;> simp [List.forall₂_cons_left_iff]
      | ok first =>
          unfold collect
          cases others : collect readings with
          | error issues =>
              have unreadable : ∀ rest,
                  ¬ List.Forall₂ (fun reading value => reading = .ok value) readings rest := by
                intro rest evaluated
                rw [← inductionHypothesis, others] at evaluated
                cases evaluated
              simp [Except.map, List.forall₂_cons_left_iff, unreadable]
          | ok rest =>
              cases values with
              | nil => simp [Except.map]
              | cons value values =>
                  rw [List.forall₂_cons, ← inductionHypothesis, others]
                  simp [Except.map]

theorem Lenient.map_eq_ok_iff {first second : Type}
    {reading : Lenient first} {change : first → second} {result : second} :
    reading.map change = .ok result ↔ ∃ value, reading = .ok value ∧ change value = result := by
  cases reading <;> simp [Except.map]

/-- The text that a value is read as, wherever it stands. -/
def Value.shownText? :
    Value → Option String
  | text value => some value
  | bytes value => textOfBytes? value
  | _ => none

theorem Value.readText_eq_ok_iff
    {location : List LocationStep} {value : Value} {shown : String} :
    value.readText location = .ok shown ↔ value.shownText? = some shown := by
  cases value with
  | bytes encoded =>
      simp only [readText, shownText?]
      cases textOfBytes? encoded <;> simp [Lenient.fail]
  | _ => simp [readText, shownText?, Lenient.fail]

/-- Texts are read exactly if each of them can be, whatever their places. -/
theorem Value.collect_readText_eq_ok_iff
    {location : Nat → List LocationStep} {values : List Value} {texts : List String} :
    Lenient.collect (values.mapIdx fun index value => value.readText (location index)) =
        .ok texts ↔
      (∀ value ∈ values, value.shownText?.isSome = true) ∧
        texts = values.filterMap Value.shownText? := by
  rw [Lenient.collect_eq_ok_iff]
  induction values generalizing location texts with
  | nil => simp
  | cons value values inductionHypothesis =>
      rw [List.mapIdx_cons, List.forall₂_cons_left_iff, List.forall_mem_cons]
      cases shown : value.shownText? with
      | none => simp [readText_eq_ok_iff, shown]
      | some first =>
          rw [List.filterMap_cons_some shown]
          simp only [readText_eq_ok_iff, shown, Option.some.injEq, Option.isSome_some, true_and]
          constructor
          · rintro ⟨_, rest, rfl, othersRead, rfl⟩
            obtain ⟨readable, rfl⟩ := inductionHypothesis.mp othersRead
            exact ⟨readable, rfl⟩
          · rintro ⟨readable, rfl⟩
            exact ⟨first, _, rfl, inductionHypothesis.mpr ⟨readable, rfl⟩, rfl⟩

def ErrorBag.values
    (errors : ErrorBag) :
    List (String × List Value) :=
  errors.map fun entry => (entry.1, entry.2.map .text)

namespace ValidationResult

theorem readMessages_eq_ok_iff
    {entry : String × List Value} {shown : String × List String} :
    readMessages entry = .ok shown ↔
      (∀ message ∈ entry.2, message.shownText?.isSome = true) ∧
        shown = (entry.1, entry.2.filterMap Value.shownText?) := by
  rw [readMessages, Lenient.map_eq_ok_iff]
  unfold Value.readTexts
  constructor
  · rintro ⟨texts, read, rfl⟩
    obtain ⟨readable, rfl⟩ := Value.collect_readText_eq_ok_iff.mp read
    exact ⟨readable, rfl⟩
  · rintro ⟨readable, rfl⟩
    exact ⟨_, Value.collect_readText_eq_ok_iff.mpr ⟨readable, rfl⟩, rfl⟩

theorem collect_readMessages_eq_ok_iff
    {errors : List (String × List Value)} {shown : ErrorBag} :
    Lenient.collect (errors.map readMessages) = .ok shown ↔
      (∀ entry ∈ errors, ∀ message ∈ entry.2, message.shownText?.isSome = true) ∧
        shown = errors.map fun entry => (entry.1, entry.2.filterMap Value.shownText?) := by
  rw [Lenient.collect_eq_ok_iff, List.forall₂_map_left_iff]
  simp only [readMessages_eq_ok_iff]
  rw [List.forall₂_and_left, eq_comm, ← List.forall₂_eq_eq_eq, List.forall₂_map_left_iff]
  simp only [eq_comm]

/-- A run has a result exactly if its messages can be read as texts, and the result is made of
these. -/
theorem ofRun_eq_ok_iff
    {errors : List (String × List Value)} {checked : List String} {result : ValidationResult} :
    ofRun errors checked = .ok result ↔
      (∀ entry ∈ errors, ∀ message ∈ entry.2, message.shownText?.isSome = true) ∧
        result =
          ⟨errors.isEmpty,
            errors.map fun entry => (entry.1, entry.2.filterMap Value.shownText?), checked⟩ := by
  rw [ofRun, Lenient.map_eq_ok_iff]
  constructor
  · rintro ⟨shown, read, rfl⟩
    obtain ⟨readable, rfl⟩ := collect_readMessages_eq_ok_iff.mp read
    exact ⟨readable, rfl⟩
  · rintro ⟨readable, rfl⟩
    exact ⟨_, collect_readMessages_eq_ok_iff.mpr ⟨readable, rfl⟩, rfl⟩

/-- Messages that are texts are those of the result. -/
theorem ofRun_values
    (errors : ErrorBag) (checked : List String) :
    ofRun errors.values checked = .ok ⟨errors.isEmpty, errors, checked⟩ := by
  have shownAgain : ∀ texts : List String,
      (texts.map Value.text).filterMap Value.shownText? = texts := by
    intro texts
    rw [List.filterMap_map]
    exact List.filterMap_some
  rw [ofRun_eq_ok_iff]
  refine ⟨?_, ?_⟩
  · intro entry inValues message member
    obtain ⟨row, _, rfl⟩ := List.mem_map.mp inValues
    obtain ⟨shown, _, rfl⟩ := List.mem_map.mp member
    rfl
  · simp [ErrorBag.values, Function.comp_def, shownAgain]

theorem ok_of_ofRun
    {errors : List (String × List Value)} {checked : List String} {result : ValidationResult}
    (read : ofRun errors checked = .ok result) :
    result.ok = errors.isEmpty := by
  rw [(ofRun_eq_ok_iff.mp read).2]

/-- The first message of the first field, if it is a text, is the first one of the result. -/
theorem errors_of_ofRun_cons
    {key shown : String} {messages : List Value} {others : List (String × List Value)}
    {checked : List String} {result : ValidationResult}
    (read : ofRun ((key, .text shown :: messages) :: others) checked = .ok result) :
    ∃ more rest, result.errors = (key, shown :: more) :: rest := by
  obtain ⟨_, rfl⟩ := ofRun_eq_ok_iff.mp read
  exact ⟨_, _, rfl⟩

end ValidationResult

end FormRules
