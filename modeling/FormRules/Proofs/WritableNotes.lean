import FormRules.Journal.Log
import FormRules.Proofs.LooseEquality

/-!
# Notes as they are written

Whether a note can be written depends on its values and on the format. A line shows every value but
those that stand apart from the others, and these have to be texts. A record takes lists, tuples and
mappings apart, and the keys of the mappings have to be null, truth values, numbers or texts. In
both formats an integer that is too long stands nowhere. A note without values can always be
written.

However the values are named, a line begins with time, level, event and logger of the note, and a
record shows each of them under its own name.
-/

namespace FormRules

theorem isSome_mapM_iff {item result : Type}
    {step : item → Option result} {items : List item} :
    (items.mapM step).isSome = true ↔ ∀ item ∈ items, (step item).isSome = true := by
  induction items with
  | nil => simp
  | cons item items inductionHypothesis =>
      rw [List.forall_mem_cons, ← inductionHypothesis, List.mapM_cons]
      cases step item <;> cases items.mapM step <;> simp

theorem exists_intercalate_append
    (separator : String) {texts : List String} (nonempty : texts ≠ []) (more : List String) :
    ∃ rest, separator.intercalate (texts ++ more) = separator.intercalate texts ++ rest := by
  cases more with
  | nil => exact ⟨"", by rw [List.append_nil, String.append_empty]⟩
  | cons first others =>
      rw [String.intercalate_append_of_ne_nil nonempty (List.cons_ne_nil first others)]
      exact ⟨separator ++ separator.intercalate (first :: others), String.append_assoc⟩

namespace Value

/-- The value can be the key of an entry in a record. -/
inductive IsRecordKey :
    Value → Prop
  | null : IsRecordKey .null
  | boolean (value : Bool) : IsRecordKey (.boolean value)
  | integer {value : Int} (short : isTooLong value = false) : IsRecordKey (.integer value)
  | real (value : Number.Binary64) : IsRecordKey (.real value)
  | text (value : String) : IsRecordKey (.text value)

/-- The value can stand in a record. Sets and values without elements are shown as they are; lists,
tuples and mappings are taken apart. -/
inductive FitsRecord :
    Value → Prop
  | plain {value : Value} (isPlain : value.isPlain = true) (showable : value.isShowable = true) :
      FitsRecord value
  | set {members : List Value} (showable : (Value.set members).isShowable = true) :
      FitsRecord (.set members)
  | list {items : List Value} (fit : ∀ item ∈ items, FitsRecord item) : FitsRecord (.list items)
  | tuple {items : List Value} (fit : ∀ item ∈ items, FitsRecord item) : FitsRecord (.tuple items)
  | mapping {entries : List (Value × Value)}
      (keys : ∀ entry ∈ entries, entry.1.IsRecordKey)
      (values : ∀ entry ∈ entries, FitsRecord entry.2) :
      FitsRecord (.mapping entries)

theorem isSome_recordKey?_iff
    {key : Value} :
    key.recordKey?.isSome = true ↔ key.IsRecordKey := by
  constructor
  · intro hasText
    cases key with
    | null => exact .null
    | boolean value => exact .boolean value
    | integer value =>
        by_cases long : isTooLong value = true
        · simp [recordKey?, long] at hasText
        · exact .integer (by simpa using long)
    | real value => exact .real value
    | text value => exact .text value
    | bytes _ | list _ | tuple _ | mapping _ | set _ | moment _ | object _ _ => cases hasText
  · intro isKey
    cases isKey with
    | null | boolean _ | text _ => rfl
    | integer short => simp [recordKey?, short]
    | real value =>
        cases value with
        | nan | infinite _ | finite _ _ => rfl

theorem isSome_literalText?_iff
    {value : Value} :
    (literalText? value).isSome = true ↔ value.isShowable = true := by
  unfold literalText?
  split <;> simp_all

theorem allInRecord?_eq_mapM
    (items : List Value) :
    allInRecord? items = items.mapM inRecord? := by
  induction items with
  | nil => rfl
  | cons item items inductionHypothesis =>
      rw [allInRecord?, List.mapM_cons, inductionHypothesis]

def entryInRecord?
    (entry : Value × Value) :
    Option (Value × Value) := do
  return (.text (← entry.1.recordKey?), ← entry.2.inRecord?)

theorem entriesInRecord?_eq_mapM
    (entries : List (Value × Value)) :
    entriesInRecord? entries = entries.mapM entryInRecord? := by
  induction entries with
  | nil => rfl
  | cons entry entries inductionHypothesis =>
      rw [entriesInRecord?, List.mapM_cons, inductionHypothesis, entryInRecord?]
      cases entry.1.recordKey? <;> cases entry.2.inRecord? <;> rfl

theorem isSome_entryInRecord?_iff
    {entry : Value × Value} :
    (entryInRecord? entry).isSome = true ↔
      entry.1.recordKey?.isSome = true ∧ entry.2.inRecord?.isSome = true := by
  unfold entryInRecord?
  cases entry.1.recordKey? <;> cases entry.2.inRecord? <;> simp

theorem isSome_inRecord?_of_isPlain
    {value : Value} (isPlain : value.isPlain = true) :
    value.inRecord?.isSome = true ↔ value.isShowable = true := by
  cases value with
  | list _ | tuple _ | set _ | mapping _ => cases isPlain
  | bytes _ | moment _ | object _ _ =>
      rw [inRecord?]
      exact isSome_literalText?_iff
  | null | boolean _ | integer _ | real _ | text _ =>
      simp only [inRecord?, Option.isSome_ite]

/-- What a value has to be to stand in a record. -/
theorem isSome_inRecord?_iff
    {value : Value} :
    value.inRecord?.isSome = true ↔ value.FitsRecord := by
  induction value using inductionOnElements with
  | plain value isPlain =>
      rw [isSome_inRecord?_of_isPlain isPlain]
      constructor
      · exact .plain isPlain
      · intro fits
        cases fits with
        | plain _ showable => exact showable
        | set | list | tuple | mapping => cases isPlain
  | list items inductionHypothesis =>
      rw [inRecord?, Option.isSome_map, allInRecord?_eq_mapM, isSome_mapM_iff,
        forall₂_congr inductionHypothesis]
      constructor
      · exact .list
      · intro fits
        cases fits with
        | plain isPlain => cases isPlain
        | list fit => exact fit
  | tuple items inductionHypothesis =>
      rw [inRecord?, Option.isSome_map, allInRecord?_eq_mapM, isSome_mapM_iff,
        forall₂_congr inductionHypothesis]
      constructor
      · exact .tuple
      · intro fits
        cases fits with
        | plain isPlain => cases isPlain
        | tuple fit => exact fit
  | set members _ =>
      rw [inRecord?, isSome_literalText?_iff]
      constructor
      · exact .set
      · intro fits
        cases fits with
        | plain isPlain => cases isPlain
        | set showable => exact showable
  | mapping entries inductionHypothesis =>
      rw [inRecord?, Option.isSome_map, entriesInRecord?_eq_mapM, isSome_mapM_iff,
        forall₂_congr fun entry _ => isSome_entryInRecord?_iff]
      constructor
      · intro read
        exact .mapping (fun entry member => isSome_recordKey?_iff.mp (read entry member).1)
          fun entry member => (inductionHypothesis entry member).2.mp (read entry member).2
      · intro fits
        cases fits with
        | plain isPlain => cases isPlain
        | mapping keys values =>
            intro entry member
            exact ⟨isSome_recordKey?_iff.mpr (keys entry member),
              (inductionHypothesis entry member).2.mpr (values entry member)⟩

end Value

namespace Note

/-- The note can be written as lines. -/
structure FitsLines
    (note : Note) :
    Prop where
  sideBySide : ∀ entry ∈ note.writtenValues, entry.1 ∉ apartInLine → entry.2.isShowable = true
  loggerName : ∀ name, note.writtenValues.lookup "logger_name" = some name →
    name.isShowable = true
  below : ∀ name ∈ ["stack", "exception"], ∀ value,
    note.writtenValues.lookup name = some value → value.isNull = true ∨ value.isText = true

def Fits
    (note : Note) :
    LogFormat → Prop
  | .console => note.FitsLines
  | .record => ∀ entry ∈ note.writtenValues, entry.2.FitsRecord

theorem mem_valuesInLine_iff
    {note : Note} {entry : String × Value} :
    entry ∈ note.valuesInLine ↔ entry ∈ note.writtenValues ∧ entry.1 ∉ apartInLine := by
  simp [valuesInLine]

theorem isSome_firstLine?_iff
    {note : Note} {time : String} :
    (note.firstLine? time).isSome = true ↔
      (∀ name, note.writtenValues.lookup "logger_name" = some name → name.isShowable = true) ∧
        ∀ entry ∈ note.writtenValues, entry.1 ∉ apartInLine → entry.2.isShowable = true := by
  simp only [firstLine?, Option.isSome_ite, List.all_append, Bool.and_eq_true, List.all_eq_true,
    Option.mem_toList, List.forall_mem_map, mem_valuesInLine_iff, and_imp]

theorem isSome_below?_iff
    {shown : Option Value} :
    (below? shown).isSome = true ↔
      ∀ value, shown = some value → value.isNull = true ∨ value.isText = true := by
  cases shown with
  | none => simp [below?]
  | some value => cases value <;> simp [below?, Value.isNull, Value.isText]

theorem isSome_linesBelow?_iff
    {note : Note} :
    note.linesBelow?.isSome = true ↔
      ∀ name ∈ ["stack", "exception"], ∀ value,
        note.writtenValues.lookup name = some value →
          value.isNull = true ∨ value.isText = true := by
  simp only [List.forall_mem_cons, List.not_mem_nil, false_imp_iff, implies_true, and_true,
    ← isSome_below?_iff]
  unfold linesBelow?
  cases below? (note.writtenValues.lookup "stack") <;>
    cases below? (note.writtenValues.lookup "exception") <;> simp

theorem isSome_toLines?_iff
    {note : Note} {time : String} :
    (note.toLines? time).isSome = true ↔ note.FitsLines := by
  have both :
      (note.toLines? time).isSome = true ↔
        (note.firstLine? time).isSome = true ∧ note.linesBelow?.isSome = true := by
    unfold toLines?
    cases note.firstLine? time <;> cases note.linesBelow? <;> simp
  rw [both, isSome_firstLine?_iff, isSome_linesBelow?_iff]
  constructor
  · rintro ⟨⟨loggerName, sideBySide⟩, below⟩
    exact ⟨sideBySide, loggerName, below⟩
  · rintro ⟨sideBySide, loggerName, below⟩
    exact ⟨⟨loggerName, sideBySide⟩, below⟩

theorem isSome_toRecord?_iff
    {note : Note} {time : String} :
    (note.toRecord? time).isSome = true ↔ ∀ entry ∈ note.writtenValues, entry.2.FitsRecord := by
  have values :
      (note.toRecord? time).isSome = true ↔
        ∀ entry ∈ note.writtenValues, entry.2.inRecord?.isSome = true := by
    unfold toRecord?
    simp [Option.isSome_bind, isSome_mapM_iff]
  rw [values]
  exact forall₂_congr fun entry _ => Value.isSome_inRecord?_iff

/-- A note can be written to an outlet exactly if it fits the format. -/
theorem isSome_write?_iff
    {note : Note} {outlet : Outlet} {time : String} :
    (outlet.write? time note).isSome = true ↔ note.Fits outlet.format := by
  unfold Outlet.write?
  cases outlet.format with
  | console => rw [Option.isSome_map, isSome_toLines?_iff, Fits]
  | record => rw [Option.isSome_map, isSome_toRecord?_iff, Fits]

theorem fits_of_noValues
    {note : Note} (noValues : note.values = []) (format : LogFormat) :
    note.Fits format := by
  have nothing : note.writtenValues = [] := by rw [writtenValues, noValues]; rfl
  cases format with
  | console => exact ⟨by simp [nothing], by simp [nothing], by simp [nothing]⟩
  | record => simp [Fits, nothing]

/-! ## What is written -/

def partsOfAll
    (note : Note) (time : String) :
    List (String × Value) :=
  [("event", .text note.event), ("level", .text note.level.name), ("logger", .text note.logger),
    ("timestamp", .text time)]

/-- How every line of a note begins: time, level, event and logger. -/
def lineBeginning
    (note : Note) (time : String) :
    String :=
  time ++ " " ++ bracketedName (padded note.level.name 9) ++ " " ++ padded note.event 30 ++ " " ++
    bracketedName note.logger

theorem not_own_of_mem_writtenValues
    {note : Note} {entry : String × Value} (member : entry ∈ note.writtenValues) :
    entry.1 ∉ ownParts := by
  obtain ⟨given, kept, rfl⟩ := List.mem_map.mp member
  have written := (List.mem_filter.mp kept).2
  intro own
  simp [own] at written

/-- What is written of a value stands under the name of the value. -/
theorem names_of_mapM
    {entries parts : List (String × Value)}
    (read : (entries.mapM fun entry => do return (entry.1, ← entry.2.inRecord?)) = some parts) :
    parts.map Prod.fst = entries.map Prod.fst := by
  induction entries generalizing parts with
  | nil =>
      cases read
      rfl
  | cons entry entries inductionHypothesis =>
      rw [List.mapM_cons] at read
      obtain ⟨own, ownRead, read⟩ := Option.bind_eq_some_iff.mp read
      obtain ⟨rest, restRead, read⟩ := Option.bind_eq_some_iff.mp read
      obtain ⟨value, _, named⟩ := Option.bind_eq_some_iff.mp ownRead
      cases read
      cases named
      rw [List.map_cons, List.map_cons, inductionHypothesis restRead]

/-- A record of a note shows its event, level, logger and time, whatever the names of its values. -/
theorem lookup_of_toRecord?
    {note : Note} {time : String} {parts : List (String × Value)}
    (written : note.toRecord? time = some parts) {name : String} {value : Value}
    (ofAll : (name, value) ∈ note.partsOfAll time) :
    parts.lookup name = some value := by
  obtain ⟨values, read, split⟩ := Option.bind_eq_some_iff.mp written
  cases split
  have names := names_of_mapM read
  have own : name ∈ ownParts := by
    simp only [partsOfAll, List.mem_cons, Prod.mk.injEq, List.not_mem_nil, or_false] at ofAll
    rcases ofAll with ⟨rfl, _⟩ | ⟨rfl, _⟩ | ⟨rfl, _⟩ | ⟨rfl, _⟩ <;> decide
  have apart : values.lookup name = none := by
    rw [List.lookup_eq_none_iff]
    intro part member
    have sameName : part.1 ∈ note.writtenValues.map Prod.fst :=
      names ▸ List.mem_map_of_mem member
    obtain ⟨entry, entryMember, same⟩ := List.mem_map.mp sameName
    have notOwn := not_own_of_mem_writtenValues entryMember
    have different : name ≠ part.1 := by
      rintro rfl
      exact notOwn (same ▸ own)
    exact bne_iff_ne.mpr different
  rw [List.lookup_append, apart, Option.none_or]
  simp only [partsOfAll, List.mem_cons, Prod.mk.injEq, List.not_mem_nil, or_false] at ofAll
  rcases ofAll with ⟨rfl, rfl⟩ | ⟨rfl, rfl⟩ | ⟨rfl, rfl⟩ | ⟨rfl, rfl⟩ <;> rfl

theorem beginning_of_toLines?
    {note : Note} {time text : String} (written : note.toLines? time = some text) :
    ∃ rest, text = note.lineBeginning time ++ rest := by
  obtain ⟨first, isFirst, written⟩ := Option.bind_eq_some_iff.mp written
  obtain ⟨below, _, split⟩ := Option.bind_eq_some_iff.mp written
  cases split
  simp only [firstLine?, Option.ite_none_right_eq_some, Option.some.injEq] at isFirst
  obtain ⟨_, rfl⟩ := isFirst
  rw [List.append_assoc]
  obtain ⟨rest, continued⟩ := exists_intercalate_append " " (List.cons_ne_nil time _) _
  refine ⟨rest ++ below, ?_⟩
  rw [continued, ← String.append_assoc]
  simp only [String.intercalate_cons_cons, String.intercalate_singleton, lineBeginning,
    String.append_assoc]

end Note

end FormRules
