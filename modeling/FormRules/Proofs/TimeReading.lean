import FormRules.Rule.Builtin

/-!
# Times in fields and limits

A field or a limit denotes a moment if it is one, is a word for one near the present, or stands in
the ISO 8601 notation. The rules that compare times break off in two cases only: a word names a day
that the calendar does not have, or both moments are known and one of them has no timestamp. In all
other cases they answer, and what denotes no moment fails.
-/

namespace FormRules

open FormRules.Text
open FormRules.Time

/-- The word that a text is, the blanks around it and its case aside. -/
def timeWord
    (text : String) :
    String :=
  String.ofList (lowerText (trim text.toList))

def timeWords :
    List String :=
  ["now", "yesterday", "today", "tomorrow"]

theorem daysAhead?_eq_some_iff
    {word : String} {ahead : Int} :
    daysAhead? word = some ahead ↔
      word = "yesterday" ∧ ahead = -1 ∨ word = "today" ∧ ahead = 0 ∨
        word = "tomorrow" ∧ ahead = 1 := by
  unfold daysAhead?
  split
  · simp [eq_comm]
  · simp [eq_comm]
  · simp [eq_comm]
  · rename_i notYesterday notToday notTomorrow
    refine iff_of_false nofun ?_
    rintro (⟨isYesterday, _⟩ | ⟨isToday, _⟩ | ⟨isTomorrow, _⟩)
    · exact notYesterday isYesterday
    · exact notToday isToday
    · exact notTomorrow isTomorrow

theorem mem_timeWords_iff
    {word : String} :
    word ∈ timeWords ↔ word = "now" ∨ ∃ ahead, daysAhead? word = some ahead := by
  simp only [timeWords, daysAhead?_eq_some_iff, List.mem_cons, List.not_mem_nil, or_false]
  constructor
  · rintro (isNow | isYesterday | isToday | isTomorrow)
    · exact Or.inl isNow
    · exact Or.inr ⟨-1, Or.inl ⟨isYesterday, rfl⟩⟩
    · exact Or.inr ⟨0, Or.inr (Or.inl ⟨isToday, rfl⟩)⟩
    · exact Or.inr ⟨1, Or.inr (Or.inr ⟨isTomorrow, rfl⟩)⟩
  · rintro (isNow | ⟨ahead, ⟨isYesterday, _⟩ | ⟨isToday, _⟩ | ⟨isTomorrow, _⟩⟩)
    · exact Or.inl isNow
    · exact Or.inr (Or.inl isYesterday)
    · exact Or.inr (Or.inr (Or.inl isToday))
    · exact Or.inr (Or.inr (Or.inr isTomorrow))

namespace Value

/-- The value is a moment, or a text that is a word for one or stands in the ISO 8601 notation. -/
inductive IsTime :
    Value → Prop
  | moment (moment : Moment) : IsTime (.moment moment)
  | word {text : String} (isWord : timeWord text ∈ timeWords) : IsTime (.text text)
  | iso {text : String} {moment : Moment}
      (read : Moment.ofIsoText? (trim text.toList) = some moment) :
      IsTime (.text text)

/-- The value denotes the moment at the present moment. -/
inductive Denotes
    (present : Moment) :
    Value → Moment → Prop
  | moment (moment : Moment) : Denotes present (.moment moment) moment
  | now {text : String} (isNow : timeWord text = "now") : Denotes present (.text text) present
  | day {text : String} {ahead : Int} {moment : Moment}
      (isWord : daysAhead? (timeWord text) = some ahead)
      (isDay : (moment.day : Int) = present.day + ahead) (isStart : moment.microsecond = 0)
      (sameOffset : moment.offset = present.offset) :
      Denotes present (.text text) moment
  | iso {text : String} {moment : Moment} (noWord : timeWord text ∉ timeWords)
      (read : Moment.ofIsoText? (trim text.toList) = some moment) :
      Denotes present (.text text) moment

/-- The value is the word for the day before the first, or for the day after the last day of the
calendar. -/
inductive LeavesCalendar
    (present : Moment) :
    Value → Prop
  | yesterday {text : String} (isWord : timeWord text = "yesterday") (isFirst : present.day = 1) :
      LeavesCalendar present (.text text)
  | tomorrow {text : String} (isWord : timeWord text = "tomorrow")
      (isLast : present.day = lastDay) :
      LeavesCalendar present (.text text)

end Value

/-! ## Days near the present -/

namespace Time.Moment

theorem ofParts?_eq_some_iff
    {day microsecond : Nat} {offset : Option Int} {moment : Moment} :
    ofParts? day microsecond offset = some moment ↔
      moment.day = day ∧ moment.microsecond = microsecond ∧ moment.offset = offset := by
  constructor
  · intro made
    unfold ofParts? at made
    split at made
    · split at made
      · split at made
        · rw [Option.some.injEq] at made
          subst made
          exact ⟨rfl, rfl, rfl⟩
        · cases made
      · cases made
    · cases made
  · rintro ⟨rfl, rfl, rfl⟩
    rw [ofParts?, dif_pos moment.one_le_day, dif_pos moment.day_le, dif_pos moment.microsecond_lt]

/-- The start of a day near a moment, if the calendar has the day. -/
theorem startOfDay_eq_ok
    {moment start : Moment} {ahead : Int} (isDay : (start.day : Int) = moment.day + ahead)
    (isStart : start.microsecond = 0) (sameOffset : start.offset = moment.offset) :
    moment.startOfDay ahead = .ok start := by
  have someDay := start.one_le_day
  have made : ofParts? ((moment.day : Int) + ahead).toNat 0 moment.offset = some start :=
    ofParts?_eq_some_iff.mpr ⟨by omega, isStart, sameOffset⟩
  simp only [startOfDay, made]
  rw [if_pos (by omega)]

theorem startOfDay_eq_error
    {moment : Moment} {ahead : Int}
    (noDay : (moment.day : Int) + ahead < 1 ∨ (lastDay : Int) < moment.day + ahead) :
    moment.startOfDay ahead = .error .dateOutOfRange := by
  unfold startOfDay
  dsimp only
  split
  · rename_i start made
    have isDay := (ofParts?_eq_some_iff.mp made).1
    have lastOne := start.day_le
    rw [if_neg (by omega)]
  · rfl

theorem exists_start_of_day
    {moment : Moment} {ahead : Int} (isDay : 1 ≤ (moment.day : Int) + ahead)
    (isDayToo : (moment.day : Int) + ahead ≤ lastDay) :
    ∃ start : Moment, (start.day : Int) = moment.day + ahead ∧ start.microsecond = 0 ∧
      start.offset = moment.offset := by
  have hasStart : 0 < microsecondsPerDay := by decide
  refine ⟨⟨((moment.day : Int) + ahead).toNat, 0, moment.offset, ?_, ?_, hasStart⟩, ?_, rfl, rfl⟩
  · omega
  · omega
  · exact Int.toNat_of_nonneg (by omega)

/-- A moment without offset on the first day of the calendar has no timestamp. -/
def IsUntimed
    (moment : Moment) :
    Prop :=
  moment.offset = none ∧ moment.day = 1

theorem timestamp_of_isUntimed
    {moment : Moment} (untimed : moment.IsUntimed) :
    moment.timestamp = .error .yearOutOfRange := by
  simp [timestamp, untimed.1, untimed.2]

theorem exists_timestamp
    {moment : Moment} (timed : ¬ moment.IsUntimed) :
    ∃ seconds, moment.timestamp = .ok seconds := by
  unfold timestamp
  cases isOffset : moment.offset with
  | some offset => exact ⟨_, rfl⟩
  | none =>
      have laterDay : moment.day ≠ 1 := fun isFirst => timed ⟨isOffset, isFirst⟩
      exact ⟨_, if_neg laterDay⟩

end Time.Moment

/-! ## What values denote -/

section Reading

variable {present moment : Moment} {text : String} {value : Value}

theorem momentOfText_eq
    (present : Moment) (text : String) :
    momentOfText present text =
      if timeWord text = "now" then .ok (some present)
      else
        match daysAhead? (timeWord text) with
        | some ahead => (present.startOfDay ahead).map some
        | none => .ok (Moment.ofIsoText? (trim text.toList)) :=
  rfl

theorem momentOfText_of_day
    {ahead : Int} (isWord : daysAhead? (timeWord text) = some ahead) :
    momentOfText present text = (present.startOfDay ahead).map some := by
  have notNow : timeWord text ≠ "now" := by
    intro isNow
    rw [isNow] at isWord
    cases isWord
  rw [momentOfText_eq, if_neg notNow, isWord]

theorem momentOfText_of_noWord
    (noWord : timeWord text ∉ timeWords) :
    momentOfText present text = .ok (Moment.ofIsoText? (trim text.toList)) := by
  rw [mem_timeWords_iff, not_or, not_exists] at noWord
  have noDay : daysAhead? (timeWord text) = none := Option.eq_none_iff_forall_ne_some.mpr noWord.2
  rw [momentOfText_eq, if_neg noWord.1, noDay]

theorem toMoment_of_denotes
    (denotes : value.Denotes present moment) :
    value.toMoment present = .ok (some moment) := by
  cases denotes with
  | moment => rfl
  | now isNow => rw [Value.toMoment, momentOfText_eq, if_pos isNow]
  | day isWord isDay isStart sameOffset =>
      rw [Value.toMoment, momentOfText_of_day isWord,
        Moment.startOfDay_eq_ok isDay isStart sameOffset]
      rfl
  | iso noWord read => rw [Value.toMoment, momentOfText_of_noWord noWord, read]

theorem toMoment_of_leavesCalendar
    (leaves : value.LeavesCalendar present) :
    value.toMoment present = .error .dateOutOfRange := by
  cases leaves with
  | yesterday isWord isFirst =>
      rw [Value.toMoment, momentOfText_of_day (daysAhead?_eq_some_iff.mpr (Or.inl ⟨isWord, rfl⟩)),
        Moment.startOfDay_eq_error (by omega)]
      rfl
  | tomorrow isWord isLast =>
      rw [Value.toMoment,
        momentOfText_of_day (daysAhead?_eq_some_iff.mpr (Or.inr (Or.inr ⟨isWord, rfl⟩))),
        Moment.startOfDay_eq_error (by omega)]
      rfl

theorem toMoment_of_not_isTime
    (noTime : ¬ value.IsTime) :
    value.toMoment present = .ok none := by
  cases value with
  | text text =>
      have noWord : timeWord text ∉ timeWords := fun isWord => noTime (.word isWord)
      rw [Value.toMoment, momentOfText_of_noWord noWord]
      cases read : Moment.ofIsoText? (trim text.toList) with
      | none => rfl
      | some moment => exact absurd (.iso read) noTime
  | moment moment => exact absurd (.moment moment) noTime
  | _ => rfl

/-- A time denotes a moment, unless it leaves the calendar. -/
theorem Value.IsTime.denotes_or_leavesCalendar
    (isTime : value.IsTime) (present : Moment) :
    (∃ moment, value.Denotes present moment) ∨ value.LeavesCalendar present := by
  have wordDenotes : ∀ text, timeWord text ∈ timeWords →
      (∃ moment, (Value.text text).Denotes present moment) ∨
        (Value.text text).LeavesCalendar present := by
    intro text isWord
    rcases mem_timeWords_iff.mp isWord with isNow | ⟨ahead, isDayWord⟩
    · exact Or.inl ⟨present, .now isNow⟩
    · by_cases isDay : 1 ≤ (present.day : Int) + ahead ∧ (present.day : Int) + ahead ≤ lastDay
      · obtain ⟨start, startDay, isStart, sameOffset⟩ :=
          Moment.exists_start_of_day isDay.1 isDay.2
        exact Or.inl ⟨start, .day isDayWord startDay isStart sameOffset⟩
      · -- Only the neighbours of the first and of the last day are no days.
        have someDay := present.one_le_day
        have lastOne := present.day_le
        rcases daysAhead?_eq_some_iff.mp isDayWord with
          ⟨isYesterday, rfl⟩ | ⟨isToday, rfl⟩ | ⟨isTomorrow, rfl⟩
        · exact Or.inr (.yesterday isYesterday (by omega))
        · omega
        · exact Or.inr (.tomorrow isTomorrow (by omega))
  cases isTime with
  | moment moment => exact Or.inl ⟨moment, .moment moment⟩
  | word isWord => exact wordDenotes _ isWord
  | @iso text _ read =>
      by_cases isWord : timeWord text ∈ timeWords
      · exact wordDenotes text isWord
      · exact Or.inl ⟨_, .iso isWord read⟩

/-- A value denotes a moment, leaves the calendar, or is no time at all. -/
theorem toMoment_cases
    (present : Moment) (value : Value) :
    (∃ moment, value.Denotes present moment ∧ value.toMoment present = .ok (some moment)) ∨
      (¬ value.IsTime ∧ value.toMoment present = .ok none) ∨
      value.LeavesCalendar present ∧ value.toMoment present = .error .dateOutOfRange := by
  by_cases isTime : value.IsTime
  · rcases isTime.denotes_or_leavesCalendar present with ⟨moment, denotes⟩ | leaves
    · exact Or.inl ⟨moment, denotes, toMoment_of_denotes denotes⟩
    · exact Or.inr (Or.inr ⟨leaves, toMoment_of_leavesCalendar leaves⟩)
  · exact Or.inr (Or.inl ⟨isTime, toMoment_of_not_isTime isTime⟩)

end Reading

/-! ## Comparing times -/

namespace Builtin

def timeRules :
    List Builtin :=
  [after, before]

/-- The moment of the field: the present moment if the field does not count as present. -/
def FieldTime
    (present : Moment) (inquiry : Inquiry) (moment : Moment) :
    Prop :=
  if inquiry.value.isTrue then inquiry.value.Denotes present moment else moment = present

/-- The moment of the limit, which is the second option. -/
def LimitTime
    (present : Moment) (inquiry : Inquiry) (moment : Moment) :
    Prop :=
  ∃ shown, option? inquiry 1 = some shown ∧ (Value.text shown).Denotes present moment

/-- The field counts as present and is no time, or the limit is none. -/
def LacksTime
    (inquiry : Inquiry) :
    Prop :=
  (inquiry.value.isTrue = true ∧ ¬ inquiry.value.IsTime) ∨
    ∀ shown, option? inquiry 1 = some shown → ¬ (Value.text shown).IsTime

def SomeTimeLeaves
    (present : Moment) (inquiry : Inquiry) :
    Prop :=
  inquiry.value.LeavesCalendar present ∨
    ∃ shown, option? inquiry 1 = some shown ∧ (Value.text shown).LeavesCalendar present

section Comparing

variable {present time limit : Moment} {inquiry : Inquiry}

def fieldMoment?
    (present : Moment) (inquiry : Inquiry) :
    Except Fault (Option Moment) :=
  if inquiry.value.isTrue then inquiry.value.toMoment present else .ok (some present)

def limitMoment?
    (present : Moment) (inquiry : Inquiry) :
    Except Fault (Option Moment) :=
  match option? inquiry 1 with
  | none => .ok none
  | some shown => momentOfText present shown

theorem isTrue_of_leavesCalendar
    {value : Value} (leaves : value.LeavesCalendar present) :
    value.isTrue = true := by
  have notEmpty : timeWord "" = "" := by decide
  cases leaves with
  | yesterday isWord _ =>
      rw [Value.isTrue, bne_iff_ne]
      rintro rfl
      exact absurd (notEmpty.symm.trans isWord) (by decide)
  | tomorrow isWord _ =>
      rw [Value.isTrue, bne_iff_ne]
      rintro rfl
      exact absurd (notEmpty.symm.trans isWord) (by decide)

theorem not_isTime_empty :
    ¬ (Value.text "").IsTime := by
  intro isTime
  cases isTime with
  | word isWord => exact absurd isWord (by decide)
  | iso read => cases read

theorem fieldMoment?_cases
    (present : Moment) (inquiry : Inquiry) :
    (∃ time, FieldTime present inquiry time ∧ fieldMoment? present inquiry = .ok (some time)) ∨
      ((inquiry.value.isTrue = true ∧ ¬ inquiry.value.IsTime) ∧
        fieldMoment? present inquiry = .ok none) ∨
      inquiry.value.LeavesCalendar present ∧
        fieldMoment? present inquiry = .error .dateOutOfRange := by
  unfold fieldMoment? FieldTime
  by_cases counts : inquiry.value.isTrue = true
  · simp only [if_pos counts]
    rcases toMoment_cases present inquiry.value with
      ⟨time, denotes, read⟩ | ⟨noTime, read⟩ | ⟨leaves, read⟩
    · exact Or.inl ⟨time, denotes, read⟩
    · exact Or.inr (Or.inl ⟨⟨counts, noTime⟩, read⟩)
    · exact Or.inr (Or.inr ⟨leaves, read⟩)
  · simp only [if_neg counts]
    exact Or.inl ⟨present, rfl, rfl⟩

theorem limitMoment?_cases
    (present : Moment) (inquiry : Inquiry) :
    (∃ limit, LimitTime present inquiry limit ∧ limitMoment? present inquiry = .ok (some limit)) ∨
      ((∀ shown, option? inquiry 1 = some shown → ¬ (Value.text shown).IsTime) ∧
        limitMoment? present inquiry = .ok none) ∨
      (∃ shown, option? inquiry 1 = some shown ∧ (Value.text shown).LeavesCalendar present) ∧
        limitMoment? present inquiry = .error .dateOutOfRange := by
  unfold limitMoment? LimitTime
  cases given : option? inquiry 1 with
  | none => exact Or.inr (Or.inl ⟨nofun, rfl⟩)
  | some shown =>
      simp only [Option.some.injEq, exists_eq_left', forall_eq']
      exact toMoment_cases present (.text shown)

/-- An empty limit is no time, so that to leave it out makes no difference. -/
theorem timestamps?_eq
    (present : Moment) (inquiry : Inquiry) :
    timestamps? present inquiry =
      fieldMoment? present inquiry >>= fun time =>
        limitMoment? present inquiry >>= fun limit =>
          match time, limit with
          | some time, some limit =>
              time.timestamp >>= fun seconds =>
                limit.timestamp >>= fun bound => .ok (some (.real seconds, .real bound))
          | _, _ => .ok none := by
  unfold timestamps? fieldMoment? limitMoment?
  cases option? inquiry 1 with
  | none => by_cases counts : inquiry.value.isTrue = true <;> simp only [counts] <;> rfl
  | some shown =>
      by_cases isEmpty : shown.isEmpty = true
      · have noMoment : momentOfText present shown = .ok none := by
          rw [String.isEmpty_iff.mp isEmpty]
          exact @toMoment_of_not_isTime present _ not_isTime_empty
        by_cases counts : inquiry.value.isTrue = true <;>
          simp only [counts, isEmpty, noMoment] <;> rfl
      · by_cases counts : inquiry.value.isTrue = true <;> simp only [counts, isEmpty] <;> rfl

theorem fieldMoment?_of_fieldTime
    (fieldTime : FieldTime present inquiry time) :
    fieldMoment? present inquiry = .ok (some time) := by
  unfold FieldTime at fieldTime
  unfold fieldMoment?
  split at fieldTime
  · rename_i counts
    rw [if_pos counts]
    exact toMoment_of_denotes fieldTime
  · rename_i absent
    rw [if_neg absent, fieldTime]

theorem limitMoment?_of_limitTime
    (limitTime : LimitTime present inquiry limit) :
    limitMoment? present inquiry = .ok (some limit) := by
  obtain ⟨shown, given, denotes⟩ := limitTime
  unfold limitMoment?
  rw [given]
  exact toMoment_of_denotes denotes

theorem timestamps?_of_leaves
    (leaves : SomeTimeLeaves present inquiry) :
    timestamps? present inquiry = .error .dateOutOfRange := by
  rw [timestamps?_eq]
  rcases leaves with fieldLeaves | ⟨shown, given, limitLeaves⟩
  · have field : fieldMoment? present inquiry = .error .dateOutOfRange := by
      rw [fieldMoment?, if_pos (isTrue_of_leavesCalendar fieldLeaves)]
      exact toMoment_of_leavesCalendar fieldLeaves
    rw [field]
    rfl
  · have limit : limitMoment? present inquiry = .error .dateOutOfRange := by
      unfold limitMoment?
      rw [given]
      exact toMoment_of_leavesCalendar limitLeaves
    rcases fieldMoment?_cases present inquiry with ⟨time, _, field⟩ | ⟨_, field⟩ | ⟨_, field⟩
    · rw [field, limit]
      rfl
    · rw [field, limit]
      rfl
    · rw [field]
      rfl

theorem timestamps?_of_lacksTime
    (stays : ¬ SomeTimeLeaves present inquiry) (lacks : LacksTime inquiry) :
    timestamps? present inquiry = .ok none := by
  rw [timestamps?_eq]
  rcases fieldMoment?_cases present inquiry with
    ⟨time, fieldTime, field⟩ | ⟨_, field⟩ | ⟨fieldLeaves, _⟩
  · rcases limitMoment?_cases present inquiry with
      ⟨limit, ⟨shown, given, denotes⟩, read⟩ | ⟨_, read⟩ | ⟨limitLeaves, _⟩
    · exfalso
      rcases lacks with ⟨counts, noTime⟩ | noLimit
      · rw [fieldMoment?, if_pos counts, toMoment_of_not_isTime noTime] at field
        cases field
      · rw [limitMoment?, given] at read
        have nothing := @toMoment_of_not_isTime present _ (noLimit shown given)
        rw [Value.toMoment] at nothing
        simp only [nothing, reduceCtorEq, Except.ok.injEq] at read
    · rw [field, read]
      rfl
    · exact absurd (Or.inr limitLeaves) stays
  · rcases limitMoment?_cases present inquiry with ⟨limit, _, read⟩ | ⟨_, read⟩ | ⟨limitLeaves, _⟩
    · rw [field, read]
      rfl
    · rw [field, read]
      rfl
    · exact absurd (Or.inr limitLeaves) stays
  · exact absurd (Or.inl fieldLeaves) stays

theorem timestamps?_of_times
    (fieldTime : FieldTime present inquiry time) (limitTime : LimitTime present inquiry limit) :
    timestamps? present inquiry =
      time.timestamp >>= fun seconds =>
        limit.timestamp >>= fun bound => .ok (some (.real seconds, .real bound)) := by
  rw [timestamps?_eq, fieldMoment?_of_fieldTime fieldTime, limitMoment?_of_limitTime limitTime]
  rfl

theorem timestamps?_of_isUntimed
    (fieldTime : FieldTime present inquiry time) (limitTime : LimitTime present inquiry limit)
    (untimed : time.IsUntimed ∨ limit.IsUntimed) :
    timestamps? present inquiry = .error .yearOutOfRange := by
  rw [timestamps?_of_times fieldTime limitTime]
  by_cases timeUntimed : time.IsUntimed
  · rw [Moment.timestamp_of_isUntimed timeUntimed]
    rfl
  · obtain ⟨seconds, stamped⟩ := Moment.exists_timestamp timeUntimed
    have limitUntimed := untimed.resolve_left timeUntimed
    rw [stamped, Moment.timestamp_of_isUntimed limitUntimed]
    rfl

theorem exists_timestamps
    (fieldTime : FieldTime present inquiry time) (limitTime : LimitTime present inquiry limit)
    (timed : ¬ (time.IsUntimed ∨ limit.IsUntimed)) :
    ∃ seconds bound, time.timestamp = .ok seconds ∧ limit.timestamp = .ok bound ∧
      timestamps? present inquiry = .ok (some (.real seconds, .real bound)) := by
  rw [not_or] at timed
  obtain ⟨seconds, stamped⟩ := Moment.exists_timestamp timed.1
  obtain ⟨bound, bounded⟩ := Moment.exists_timestamp timed.2
  refine ⟨seconds, bound, stamped, bounded, ?_⟩
  rw [timestamps?_of_times fieldTime limitTime, stamped, bounded]
  rfl

/-- Some time leaves the calendar, or one is lacking, or both are moments. -/
theorem times_cases
    (present : Moment) (inquiry : Inquiry) :
    SomeTimeLeaves present inquiry ∨
      (¬ SomeTimeLeaves present inquiry ∧ LacksTime inquiry) ∨
      ∃ time limit, FieldTime present inquiry time ∧ LimitTime present inquiry limit := by
  by_cases leaves : SomeTimeLeaves present inquiry
  · exact Or.inl leaves
  · right
    rcases fieldMoment?_cases present inquiry with
      ⟨time, fieldTime, _⟩ | ⟨noTime, _⟩ | ⟨fieldLeaves, _⟩
    · rcases limitMoment?_cases present inquiry with
        ⟨limit, limitTime, _⟩ | ⟨noLimit, _⟩ | ⟨limitLeaves, _⟩
      · exact Or.inr ⟨time, limit, fieldTime, limitTime⟩
      · exact Or.inl ⟨leaves, Or.inr noLimit⟩
      · exact absurd (Or.inr limitLeaves) leaves
    · exact Or.inl ⟨leaves, Or.inl noTime⟩
    · exact absurd (Or.inl fieldLeaves) leaves

/-- The rules that compare times differ in what they make of two timestamps only. -/
theorem exists_test_of_timeRule
    {rule : Builtin} (isTimeRule : rule ∈ timeRules) :
    ∃ test : Number.Quantity × Number.Quantity → Bool, ∀ present inquiry,
      rule.passes present inquiry =
        (timestamps? present inquiry).map fun times => times.any test := by
  simp only [timeRules, List.mem_cons, List.not_mem_nil, or_false] at isTimeRule
  rcases isTimeRule with rfl | rfl
  · exact ⟨fun times => !times.1.le times.2, fun _ _ => rfl⟩
  · exact ⟨fun times => !times.2.le times.1, fun _ _ => rfl⟩

end Comparing

/-- The rules that compare times break off exactly if the field or the limit is a word for a day
outside the calendar, or both are moments of which one, without an offset and on the first day of
the calendar, has no timestamp. Otherwise they pass or fail without a message, and they fail if the
field or the limit is no time. -/
theorem times_raise_only_beyond_calendar
    (present : Moment) (inquiry : Inquiry) :
    ∀ rule ∈ timeRules,
      (∀ fault, rule.toPredicate present inquiry = .error fault ↔
          (fault = .dateOutOfRange ∧ SomeTimeLeaves present inquiry) ∨
            (fault = .yearOutOfRange ∧
              ∃ time limit, FieldTime present inquiry time ∧ LimitTime present inquiry limit ∧
                (time.IsUntimed ∨ limit.IsUntimed))) ∧
        (∀ reports, rule.toPredicate present inquiry = .ok reports →
          reports = [] ∨ reports = [.null]) ∧
        (LacksTime inquiry → ¬ SomeTimeLeaves present inquiry →
          rule.toPredicate present inquiry = .ok [.null]) := by
  intro rule isTimeRule
  obtain ⟨test, passes⟩ := exists_test_of_timeRule isTimeRule
  have asked : rule.toPredicate present inquiry =
      (timestamps? present inquiry).map fun times =>
        if times.any test then [] else [.null] := by
    rw [toPredicate, passes]
    cases timestamps? present inquiry <;> rfl
  refine ⟨fun fault => ?_, fun reports answered => ?_, fun lacks stays => ?_⟩
  · rw [asked]
    constructor
    · intro broken
      rcases times_cases present inquiry with
        leaves | ⟨stays, lacks⟩ | ⟨time, limit, fieldTime, limitTime⟩
      · rw [timestamps?_of_leaves leaves] at broken
        exact Or.inl ⟨(Except.error.inj broken).symm, leaves⟩
      · rw [timestamps?_of_lacksTime stays lacks] at broken
        cases broken
      · by_cases untimed : time.IsUntimed ∨ limit.IsUntimed
        · rw [timestamps?_of_isUntimed fieldTime limitTime untimed] at broken
          exact Or.inr ⟨(Except.error.inj broken).symm, time, limit, fieldTime, limitTime, untimed⟩
        · obtain ⟨seconds, bound, _, _, read⟩ := exists_timestamps fieldTime limitTime untimed
          rw [read] at broken
          cases broken
    · rintro (⟨rfl, leaves⟩ | ⟨rfl, time, limit, fieldTime, limitTime, untimed⟩)
      · rw [timestamps?_of_leaves leaves]
        rfl
      · rw [timestamps?_of_isUntimed fieldTime limitTime untimed]
        rfl
  · rw [asked] at answered
    cases read : timestamps? present inquiry with
    | error fault =>
        rw [read] at answered
        cases answered
    | ok times =>
        rw [read] at answered
        rw [← Except.ok.inj answered]
        by_cases passed : times.any test = true
        · exact Or.inl (if_pos passed)
        · exact Or.inr (if_neg passed)
  · rw [asked, timestamps?_of_lacksTime stays lacks]
    rfl

def afterLimit
    (shown limit : String) :
    Inquiry :=
  ⟨[("due", .text shown)], "due", [limit, limit]⟩

def lastMoment :
    Moment :=
  ⟨lastDay, 86399999999, none, one_le_lastDay, by decide, by decide⟩

theorem not_someTimeLeaves_of_noWords
    {shown limit : String} {present : Moment} (noWord : timeWord shown ∉ timeWords)
    (noLimitWord : timeWord limit ∉ timeWords) :
    ¬ SomeTimeLeaves present (afterLimit shown limit) := by
  have noWordLeaves : ∀ text, timeWord text ∉ timeWords →
      ¬ (Value.text text).LeavesCalendar present := by
    intro text noTextWord leaves
    cases leaves with
    | yesterday isWord _ => exact noTextWord (by rw [isWord]; decide)
    | tomorrow isWord _ => exact noTextWord (by rw [isWord]; decide)
  rintro (fieldLeaves | ⟨text, given, limitLeaves⟩)
  · exact noWordLeaves shown noWord fieldLeaves
  · have isLimit : limit = text := Option.some.inj given
    exact noWordLeaves limit noLimitWord (isLimit ▸ limitLeaves)

/-- What is no date fails. The day after the last one is out of range, and so is the timestamp of
the first. -/
theorem someday_fails :
    after ∈ timeRules ∧ LacksTime (afterLimit "2020-01-01" "someday") ∧
      ¬ SomeTimeLeaves lastMoment (afterLimit "2020-01-01" "someday") ∧
      after.toPredicate lastMoment (afterLimit "2020-01-01" "someday") = .ok [.null] ∧
      SomeTimeLeaves lastMoment (afterLimit "2020-01-01" "Tomorrow") ∧
      after.toPredicate lastMoment (afterLimit "2020-01-01" "Tomorrow") =
        .error .dateOutOfRange := by
  have isTimeRule : after ∈ timeRules := by decide
  have noLimit : ¬ (Value.text "someday").IsTime := by
    intro isTime
    cases isTime with
    | word isWord => exact absurd isWord (by decide +kernel)
    | iso read => cases read
  have lacks : LacksTime (afterLimit "2020-01-01" "someday") := by
    refine Or.inr fun text given => ?_
    have isLimit : "someday" = text := Option.some.inj given
    exact isLimit ▸ noLimit
  have stays : ¬ SomeTimeLeaves lastMoment (afterLimit "2020-01-01" "someday") :=
    not_someTimeLeaves_of_noWords (by decide +kernel) (by decide +kernel)
  have leaves : SomeTimeLeaves lastMoment (afterLimit "2020-01-01" "Tomorrow") :=
    Or.inr ⟨"Tomorrow", rfl, .tomorrow (by decide +kernel) rfl⟩
  obtain ⟨_, _, fails⟩ := times_raise_only_beyond_calendar lastMoment
    (afterLimit "2020-01-01" "someday") after isTimeRule
  obtain ⟨breaks, _, _⟩ := times_raise_only_beyond_calendar lastMoment
    (afterLimit "2020-01-01" "Tomorrow") after isTimeRule
  exact ⟨isTimeRule, lacks, stays, fails lacks stays, leaves,
    (breaks _).mpr (Or.inl ⟨rfl, leaves⟩)⟩

def startOf
    (day : Nat) (isDay : 1 ≤ day) (isDayToo : day ≤ lastDay) :
    Moment :=
  ⟨day, 0, none, isDay, isDayToo, microsecondsPerDay_pos⟩

/-- A date is compared with the first day of the calendar: no answer is given, although both are
dates. -/
theorem not_every_time_is_answered :
    ¬ ∀ rule ∈ timeRules, ∀ (present : Moment) (inquiry : Inquiry),
      ∃ reports, rule.toPredicate present inquiry = .ok reports := by
  intro everyAnswered
  obtain ⟨reports, answered⟩ :=
    everyAnswered after (by decide) lastMoment (afterLimit "2020-01-01" "0001-01-01")
  have fieldTime : FieldTime lastMoment (afterLimit "2020-01-01" "0001-01-01")
      (startOf 737425 (by decide) (by decide)) :=
    Value.Denotes.iso (by decide +kernel) (by decide +kernel)
  have limitTime : LimitTime lastMoment (afterLimit "2020-01-01" "0001-01-01")
      (startOf 1 (by decide) (by decide)) :=
    ⟨"0001-01-01", rfl, .iso (by decide +kernel) (by decide +kernel)⟩
  have broken := timestamps?_of_isUntimed fieldTime limitTime (Or.inr ⟨rfl, rfl⟩)
  rw [toPredicate, passes, broken] at answered
  cases answered

end Builtin

end FormRules
