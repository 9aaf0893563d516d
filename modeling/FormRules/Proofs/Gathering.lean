import FormRules.Roster
import Mathlib.Data.List.Induction

/-!
# Rosters gathered from lists

A roster is gathered by setting one name after the other, each to a value made of the one that it
had. Its names are those of the list, each at the place of its first occurrence, and the value under
a name depends only on what the list gives under this name.
-/

namespace FormRules

def givenUnder {given : Type}
    (name : String) (entries : List (String × given)) :
    List given :=
  (entries.filter fun entry => entry.1 == name).map Prod.snd

theorem givenUnder_cons_self {given : Type}
    (name : String) (first : given) (entries : List (String × given)) :
    givenUnder name ((name, first) :: entries) = first :: givenUnder name entries := by
  simp [givenUnder]

theorem givenUnder_cons_of_ne {given : Type}
    {name other : String} (first : given) (entries : List (String × given))
    (different : name ≠ other) :
    givenUnder name ((other, first) :: entries) = givenUnder name entries := by
  simp [givenUnder, different.symm]

theorem givenUnder_ne_nil_iff {given : Type}
    {name : String} {entries : List (String × given)} :
    givenUnder name entries ≠ [] ↔ name ∈ entries.map Prod.fst := by
  rw [givenUnder, Ne, List.map_eq_nil_iff, List.filter_eq_nil_iff]
  simp

/-- A name that comes again does not change the order of first occurrences, and a new one comes
last. -/
theorem eraseDups_append_singleton
    (names : List String) (name : String) :
    (names ++ [name]).eraseDups =
      if name ∈ names then names.eraseDups else names.eraseDups ++ [name] := by
  rw [List.eraseDups_append]
  by_cases present : name ∈ names
  · simp [List.removeAll, present]
  · simp [List.removeAll, present, List.eraseDups_cons]

namespace Roster

variable {value given : Type}

/-- The roster after setting the names of a list in their order. -/
def gather
    (renew : Option value → given → value) (roster : Roster value)
    (entries : List (String × given)) :
    Roster value :=
  entries.foldl
    (fun roster entry => roster.set entry.1 (renew (roster.find? entry.1) entry.2)) roster

/-- The names of a gathered roster stand in the order of their first occurrences. -/
theorem names_gather_empty
    (renew : Option value → given → value) (entries : List (String × given)) :
    (gather renew .empty entries).names = (entries.map Prod.fst).eraseDups := by
  -- New names come last, so the list is taken apart at its end.
  induction entries using List.reverseRecOn with
  | nil => rfl
  | append_singleton entries entry inductionHypothesis =>
      have step :
          gather renew .empty (entries ++ [entry]) =
            (gather renew .empty entries).set entry.1
              (renew ((gather renew .empty entries).find? entry.1) entry.2) := by
        rw [gather, List.foldl_append]
        rfl
      rw [step, names_set, inductionHypothesis, List.map_append, List.map_singleton,
        eraseDups_append_singleton]
      simp only [List.mem_eraseDups]

/-- The value under a name is made of what the list gives under this name, one after the other. -/
theorem find?_gather
    (renew : Option value → given → value) (roster : Roster value)
    (entries : List (String × given)) (name : String) :
    (gather renew roster entries).find? name =
      (givenUnder name entries).foldl (fun found new => some (renew found new))
        (roster.find? name) := by
  induction entries generalizing roster with
  | nil => rfl
  | cons entry entries inductionHypothesis =>
      obtain ⟨key, first⟩ := entry
      have step :
          gather renew roster ((key, first) :: entries) =
            gather renew (roster.set key (renew (roster.find? key) first)) entries :=
        rfl
      rw [step, inductionHypothesis]
      by_cases same : name = key
      · subst same
        rw [find?_set_self, givenUnder_cons_self, List.foldl_cons]
      · rw [find?_set_of_ne _ _ same, givenUnder_cons_of_ne _ _ same]

end Roster

end FormRules
