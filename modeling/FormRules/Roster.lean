/-!
Rosters: values under names, each name once, in the order in which the names first came.

Setting the value of a new name adds the name at the end; a name that is there keeps its place.
The statements say what setting does to the names and to the values under them.
-/

namespace FormRules

/-- The list of pairs with the value of a key set. A new key comes last; a key that is there keeps
its place. -/
def setKey {value : Type}
    (key : String) (new : value) :
    List (String × value) → List (String × value)
  | [] => [(key, new)]
  | entry :: entries =>
      if entry.1 = key then (key, new) :: entries else entry :: setKey key new entries

theorem mem_keys_setKey {value : Type}
    (key : String) (new : value) (entries : List (String × value)) (tested : String) :
    tested ∈ (setKey key new entries).map Prod.fst ↔
      tested ∈ entries.map Prod.fst ∨ tested = key := by
  induction entries with
  | nil => simp [setKey]
  | cons entry entries inductionHypothesis =>
      unfold setKey
      by_cases found : entry.1 = key
      · rw [if_pos found]
        simp only [List.map_cons, List.mem_cons, found]
        constructor
        · rintro (rfl | later)
          · exact Or.inr rfl
          · exact Or.inl (Or.inr later)
        · rintro ((rfl | later) | rfl)
          · exact Or.inl rfl
          · exact Or.inr later
          · exact Or.inl rfl
      · rw [if_neg found]
        simp only [List.map_cons, List.mem_cons, inductionHypothesis, or_assoc]

/-- A key that is there keeps its place, and a new one comes last. -/
theorem keys_setKey {value : Type}
    (key : String) (new : value) (entries : List (String × value)) :
    (setKey key new entries).map Prod.fst =
      if key ∈ entries.map Prod.fst then entries.map Prod.fst
      else entries.map Prod.fst ++ [key] := by
  induction entries with
  | nil => simp [setKey]
  | cons entry entries inductionHypothesis =>
      unfold setKey
      by_cases found : entry.1 = key
      · simp [found]
      · have different : key ≠ entry.1 := fun same => found same.symm
        rw [if_neg found]
        simp only [List.map_cons, List.mem_cons, inductionHypothesis, different, false_or]
        split <;> rfl

theorem nodup_keys_setKey {value : Type}
    (key : String) (new : value) {entries : List (String × value)}
    (distinct : (entries.map Prod.fst).Nodup) :
    ((setKey key new entries).map Prod.fst).Nodup := by
  induction entries with
  | nil => simp [setKey]
  | cons entry entries inductionHypothesis =>
      rw [List.map_cons, List.nodup_cons] at distinct
      obtain ⟨headFresh, tailDistinct⟩ := distinct
      unfold setKey
      by_cases found : entry.1 = key
      · rw [if_pos found, List.map_cons, List.nodup_cons]
        rw [found] at headFresh
        exact ⟨headFresh, tailDistinct⟩
      · rw [if_neg found, List.map_cons, List.nodup_cons, mem_keys_setKey]
        refine ⟨?_, inductionHypothesis tailDistinct⟩
        rintro (later | same)
        · exact headFresh later
        · exact found same

theorem lookup_setKey_self {value : Type}
    (key : String) (new : value) (entries : List (String × value)) :
    (setKey key new entries).lookup key = some new := by
  induction entries with
  | nil => simp [setKey]
  | cons entry entries inductionHypothesis =>
      unfold setKey
      by_cases found : entry.1 = key
      · simp [found]
      · have different : (key == entry.1) = false := by
          simpa using fun same => found same.symm
        rw [if_neg found, List.lookup_cons, different]
        exact inductionHypothesis

theorem lookup_setKey_of_ne {value : Type}
    {key tested : String} (new : value) (entries : List (String × value))
    (different : tested ≠ key) :
    (setKey key new entries).lookup tested = entries.lookup tested := by
  induction entries with
  | nil =>
      have unequal : (tested == key) = false := by simpa using different
      simp [setKey, List.lookup_cons, unequal]
  | cons entry entries inductionHypothesis =>
      unfold setKey
      by_cases found : entry.1 = key
      · have unequal : (tested == key) = false := by simpa using different
        rw [if_pos found, List.lookup_cons, List.lookup_cons, found, unequal]
      · rw [if_neg found, List.lookup_cons, List.lookup_cons, inductionHypothesis]

/-- Of two values set one after the other the later one stays. -/
theorem setKey_setKey {value : Type}
    (key : String) (first second : value) (entries : List (String × value)) :
    setKey key second (setKey key first entries) = setKey key second entries := by
  induction entries with
  | nil => simp [setKey]
  | cons entry entries inductionHypothesis =>
      by_cases found : entry.1 = key
      · simp [setKey, found]
      · simp [setKey, found, inductionHypothesis]

theorem lookup_eq_some_iff_mem {value : Type}
    {entries : List (String × value)} (distinct : (entries.map Prod.fst).Nodup)
    {key : String} {found : value} :
    entries.lookup key = some found ↔ (key, found) ∈ entries := by
  induction entries with
  | nil => simp
  | cons entry entries inductionHypothesis =>
      obtain ⟨name, held⟩ := entry
      rw [List.map_cons, List.nodup_cons] at distinct
      obtain ⟨headFresh, tailDistinct⟩ := distinct
      by_cases same : key = name
      · subst same
        have absent : (key, found) ∉ entries := fun later =>
          headFresh (List.mem_map.mpr ⟨(key, found), later, rfl⟩)
        simp [absent, eq_comm]
      · have unequal : (key == name) = false := by simpa using same
        rw [List.lookup_cons, unequal]
        simp [inductionHypothesis tailDistinct, same]

/-- Values under names, in the order in which the names first came. -/
structure Roster (value : Type) where
  entries : List (String × value)
  names_nodup : (entries.map Prod.fst).Nodup

namespace Roster

def empty {value : Type} :
    Roster value :=
  ⟨[], List.nodup_nil⟩

def names {value : Type}
    (roster : Roster value) :
    List String :=
  roster.entries.map Prod.fst

def find? {value : Type}
    (roster : Roster value) (name : String) :
    Option value :=
  roster.entries.lookup name

def set {value : Type}
    (roster : Roster value) (name : String) (new : value) :
    Roster value :=
  ⟨setKey name new roster.entries, nodup_keys_setKey name new roster.names_nodup⟩

/-- The roster with other entries under the same names. -/
def withEntries {value : Type}
    (roster : Roster value) (entries : List (String × value))
    (same : entries.map Prod.fst = roster.names) :
    Roster value :=
  ⟨entries, by rw [same]; exact roster.names_nodup⟩

/-- Two rosters with the same entries are the same. -/
@[ext]
theorem ext {value : Type}
    {left right : Roster value} (same : left.entries = right.entries) :
    left = right := by
  obtain ⟨leftEntries, _⟩ := left
  obtain ⟨rightEntries, _⟩ := right
  simp only at same
  subst same
  rfl

theorem find?_eq_some_iff_mem {value : Type}
    (roster : Roster value) {name : String} {found : value} :
    roster.find? name = some found ↔ (name, found) ∈ roster.entries :=
  lookup_eq_some_iff_mem roster.names_nodup

theorem names_set {value : Type}
    (roster : Roster value) (name : String) (new : value) :
    (roster.set name new).names =
      if name ∈ roster.names then roster.names else roster.names ++ [name] :=
  keys_setKey name new roster.entries

theorem set_set {value : Type}
    (roster : Roster value) (name : String) (first second : value) :
    (roster.set name first).set name second = roster.set name second :=
  ext (setKey_setKey name first second roster.entries)

theorem find?_set_self {value : Type}
    (roster : Roster value) (name : String) (new : value) :
    (roster.set name new).find? name = some new :=
  lookup_setKey_self name new roster.entries

theorem find?_set_of_ne {value : Type}
    (roster : Roster value) {name tested : String} (new : value)
    (different : tested ≠ name) :
    (roster.set name new).find? tested = roster.find? tested :=
  lookup_setKey_of_ne new roster.entries different

end Roster

end FormRules
