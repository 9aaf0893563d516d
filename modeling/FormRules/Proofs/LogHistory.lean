import FormRules.Proofs.LibraryNotes
import FormRules.Proofs.WritableNotes

/-!
# Histories of a log

A log is configured again and again, with settings that may be unusable, while the library works and
others log events. Every call returns or is refused, and one that is refused changes nothing. From
the first call that returns the library's logger has one outlet and passes nothing on; and each note
of the library or below is written as the latest call that returned asks for: exactly once if it is
grave enough, and not at all otherwise. The notes stand in the order in which they were made. Only
an event with a value that the format cannot hold is left out besides.

All this holds whatever the log was like before: it may have had any number of outlets, and a root
logger that writes too.
-/

namespace FormRules

/-! ## What can be done -/

/-- A step of a history: a call that configures the log, an operation of the library at a time, or
an event that is logged in one of the ways to log. -/
inductive LogStep where
  | configure (call : LogCall)
  | operate (time : String) (operation : LibraryOperation)
  | event (time way logger text : String) (values : List (String × Value))

namespace LogStep

/-- The notes that a step makes, and their time. An event that is not logged as it has to be makes
none. -/
def notes :
    LogStep → List (String × Note)
  | configure _ => []
  | operate time operation => operation.notes.map fun note => (time, note)
  | event time way logger text values =>
      (Note.of way logger text values).toOption.toList.map fun note => (time, note)

end LogStep

namespace Log

def perform
    (log : Log) :
    LogStep → Log
  | .configure call => log.leftBy call.change
  | .operate time operation => log.add time operation.notes
  | .event time way logger text values =>
      log.add time (Note.of way logger text values).toOption.toList

def after
    (log : Log) (history : List LogStep) :
    Log :=
  history.foldl perform log

end Log

/-! ## What is to be written -/

/-- What a wish and a setting amount to: the wish if there is one, be it for yes or for no. -/
inductive Prevails
    (setting : Bool) :
    Option Bool → Bool → Prop
  | wished (wish : Bool) : Prevails setting (some wish) wish
  | unwished : Prevails setting none setting

namespace LogCall

/-- The target that a call asks for, if its settings are usable. -/
inductive AsksFor
    (call : LogCall) :
    LogTarget → Prop
  | mk {settings : Settings} {verbose logJson : Bool}
      (usable : call.source.settings = .ok settings)
      (verbosePrevails : Prevails settings.verbose call.verbose verbose)
      (logJsonPrevails : Prevails settings.logJson call.logJson logJson) :
      AsksFor call
        ⟨if verbose then .debug else .warning,
          ⟨call.stream.getD .standardError, if logJson then .record else .console⟩⟩

def IsRefused
    (call : LogCall) :
    Prop :=
  ∃ issues, call.source.settings = .error issues

end LogCall

/-- The latest call of a history that is not refused asks for the target. -/
def IsLatestTarget
    (history : List LogStep) (target : LogTarget) :
    Prop :=
  ∃ earlier call since, history = earlier ++ .configure call :: since ∧ call.AsksFor target ∧
    ∀ other, .configure other ∈ since → other.IsRefused

/-- A note that is made at a time, with the history before it. -/
structure Emission where
  before : List LogStep
  time : String
  note : Note

def LogStep.emissions
    (step : LogStep) (before : List LogStep) :
    List Emission :=
  step.notes.map fun made => ⟨before, made.1, made.2⟩

def emissionsAfter
    (before : List LogStep) :
    List LogStep → List Emission
  | [] => []
  | step :: later => step.emissions before ++ emissionsAfter (before ++ [step]) later

def emissions
    (history : List LogStep) :
    List Emission :=
  emissionsAfter [] history

/-- The writing shows the note in the format of the outlet: as lines that begin with its time,
level, event and logger, or as a record that has them as parts. -/
inductive Writing.Shows
    (note : Note) (time : String) (outlet : Outlet) :
    Writing → Prop
  | lines {text rest : String} (format : outlet.format = .console)
      (written : note.toLines? time = some text) (begins : text = note.lineBeginning time ++ rest) :
      Shows note time outlet ⟨outlet.stream, .lines text⟩
  | record {parts : List (String × Value)} (format : outlet.format = .record)
      (written : note.toRecord? time = some parts)
      (shown : ∀ part ∈ note.partsOfAll time, parts.lookup part.1 = some part.2) :
      Shows note time outlet ⟨outlet.stream, .record parts⟩

theorem Writing.shows_of_write?
    {note : Note} {time : String} {outlet : Outlet} {writing : Writing}
    (written : outlet.write? time note = some writing) :
    writing.Shows note time outlet := by
  unfold Outlet.write? at written
  split at written
  · next format =>
      obtain ⟨text, asLines, rfl⟩ := Option.map_eq_some_iff.mp written
      obtain ⟨rest, begins⟩ := Note.beginning_of_toLines? asLines
      exact .lines format asLines begins
  · next format =>
      obtain ⟨parts, asRecord, rfl⟩ := Option.map_eq_some_iff.mp written
      exact .record format asRecord fun _ => Note.lookup_of_toRecord? asRecord

namespace Emission

/-- The latest call before the note asks for notes of its level, and for the writing. -/
def IsWrittenAs
    (emission : Emission) (writing : Writing) :
    Prop :=
  ∃ target, IsLatestTarget emission.before target ∧
    target.level.rank ≤ emission.note.level.rank ∧
    writing.Shows emission.note emission.time target.outlet

/-- The latest call before the note does not ask for notes of its level, or the note is an event
with a value that the format cannot hold. -/
def IsLeftOut
    (emission : Emission) :
    Prop :=
  ∃ target, IsLatestTarget emission.before target ∧
    (emission.note.level.rank < target.level.rank ∨
      emission.note.route = .event ∧ ¬ emission.note.Fits target.outlet.format)

end Emission

/-- The writings are those of the notes, one for each that is not left out, in their order. -/
inductive WrittenInOrder :
    List Emission → List Writing → Prop
  | nothing : WrittenInOrder [] []
  | written {emission : Emission} {writing : Writing} {emissions : List Emission}
      {writings : List Writing}
      (isWritten : emission.IsWrittenAs writing) (later : WrittenInOrder emissions writings) :
      WrittenInOrder (emission :: emissions) (writing :: writings)
  | leftOut {emission : Emission} {emissions : List Emission} {writings : List Writing}
      (isLeftOut : emission.IsLeftOut) (later : WrittenInOrder emissions writings) :
      WrittenInOrder (emission :: emissions) writings

theorem WrittenInOrder.append
    {emissions more : List Emission} {writings further : List Writing}
    (first : WrittenInOrder emissions writings) (second : WrittenInOrder more further) :
    WrittenInOrder (emissions ++ more) (writings ++ further) := by
  induction first with
  | nothing => exact second
  | written isWritten _ inductionHypothesis => exact .written isWritten inductionHypothesis
  | leftOut isLeftOut _ inductionHypothesis => exact .leftOut isLeftOut inductionHypothesis

/-! ## Calls -/

theorem prevails_iff
    {setting decided : Bool} {wish : Option Bool} :
    Prevails setting wish decided ↔ decided = wish.getD setting := by
  constructor
  · rintro (_ | _) <;> rfl
  · rintro rfl
    cases wish with
    | none => exact .unwished
    | some wish => exact .wished wish

namespace LogCall

theorem asksFor_iff
    {call : LogCall} {settings : Settings} (usable : call.source.settings = .ok settings)
    {target : LogTarget} :
    call.AsksFor target ↔ target = call.targetUnder settings := by
  constructor
  · rintro ⟨usableToo, verbose, logJson⟩
    rw [usable, Except.ok.injEq] at usableToo
    subst usableToo
    rw [prevails_iff.mp verbose, prevails_iff.mp logJson]
    rfl
  · rintro rfl
    exact .mk usable (prevails_iff.mpr rfl) (prevails_iff.mpr rfl)

theorem AsksFor.unique
    {call : LogCall} {target other : LogTarget}
    (asks : call.AsksFor target) (asksToo : call.AsksFor other) :
    target = other := by
  obtain ⟨usable, _, _⟩ := id asks
  rw [(asksFor_iff usable).mp asks, (asksFor_iff usable).mp asksToo]

theorem AsksFor.not_isRefused
    {call : LogCall} {target : LogTarget} (asks : call.AsksFor target) :
    ¬ call.IsRefused := by
  obtain ⟨usable, _, _⟩ := asks
  rintro ⟨issues, unusable⟩
  rw [usable] at unusable
  cases unusable

/-- A call either asks for a target or is refused. -/
theorem asks_or_isRefused
    (call : LogCall) :
    (∃ target, call.AsksFor target) ∨ call.IsRefused := by
  cases read : call.source.settings with
  | ok settings => exact Or.inl ⟨_, (asksFor_iff read).mpr rfl⟩
  | error issues => exact Or.inr ⟨issues, read⟩

/-- A call with usable settings returns. The library's logger then has one outlet and a level of its
own, and passes nothing on. -/
theorem run_change_of_asks
    {call : LogCall} {target : LogTarget} (asks : call.AsksFor target) (log : Log) :
    call.change.run.run log =
      (.ok (), ⟨log.root, ⟨some target.level, [target.outlet], false⟩, true, log.writings⟩) := by
  obtain ⟨usable, _, _⟩ := id asks
  rw [(asksFor_iff usable).mp asks, change, usable]
  rfl

theorem run_change_of_unusable
    {call : LogCall} {issues : List Issue} (unusable : call.source.settings = .error issues)
    (log : Log) :
    call.change.run.run log = (.error issues, log) := by
  rw [change, unusable]
  rfl

end LogCall

/-! ## The latest target -/

namespace IsLatestTarget

variable {history : List LogStep} {target : LogTarget}

theorem configured
    {call : LogCall} (asks : call.AsksFor target) (history : List LogStep) :
    IsLatestTarget (history ++ [.configure call]) target :=
  ⟨history, call, [], rfl, asks, by simp⟩

theorem kept
    (latest : IsLatestTarget history target) {step : LogStep}
    (keeps : ∀ call, step = .configure call → call.IsRefused) :
    IsLatestTarget (history ++ [step]) target := by
  obtain ⟨earlier, call, since, rfl, asks, refused⟩ := latest
  refine ⟨earlier, call, since ++ [step], by simp, asks, ?_⟩
  intro other member
  rcases List.mem_append.mp member with before | last
  · exact refused other before
  · exact keeps other (List.mem_singleton.mp last).symm

/-- Of two calls in one history only the later one can be the latest that is not refused. -/
theorem unique
    {other : LogTarget} (latest : IsLatestTarget history target)
    (latestToo : IsLatestTarget history other) :
    target = other := by
  obtain ⟨earlier, call, since, rfl, asks, refused⟩ := latest
  obtain ⟨earlierToo, callToo, sinceToo, same, asksToo, refusedToo⟩ := latestToo
  rcases List.append_eq_append_iff.mp same with ⟨between, _, rest⟩ | ⟨between, _, rest⟩
  · cases between with
    | nil =>
        cases rest
        exact asks.unique asksToo
    | cons step between =>
        cases rest
        exact absurd (refused callToo (by simp)) asksToo.not_isRefused
  · cases between with
    | nil =>
        cases rest
        exact asks.unique asksToo
    | cons step between =>
        cases rest
        exact absurd (refusedToo call (by simp)) asks.not_isRefused

end IsLatestTarget

/-! ## Notes of a history -/

theorem Note.of_eq_ok
    {way logger text : String} {values : List (String × Value)} {note : Note}
    (made : Note.of way logger text values = .ok note) :
    note.logger = logger ∧ note.route = .event := by
  unfold Note.of at made
  split at made
  · cases made
  · split at made
    · cases made
    · cases made
      exact ⟨rfl, rfl⟩

def LogStep.IsOfLibrary :
    LogStep → Prop
  | configure _ | operate _ _ => True
  | event _ _ logger _ _ => IsLibraryLogger logger

theorem LogStep.isOfLibrary_of_mem_notes
    {step : LogStep} (ofLibrary : step.IsOfLibrary) {made : String × Note}
    (member : made ∈ step.notes) :
    made.2.IsOfLibrary := by
  cases step with
  | configure call => cases member
  | operate time operation =>
      obtain ⟨note, ofOperation, rfl⟩ := List.mem_map.mp member
      exact LibraryOperation.isOfLibrary_of_mem_notes ofOperation
  | event time way logger text values =>
      obtain ⟨note, isMade, rfl⟩ := List.mem_map.mp member
      cases logged : Note.of way logger text values with
      | error fault =>
          rw [logged] at isMade
          cases isMade
      | ok _ =>
          rw [logged] at isMade
          obtain rfl := List.mem_singleton.mp isMade
          obtain ⟨sameLogger, isEvent⟩ := Note.of_eq_ok logged
          refine ⟨Note.isLocal_iff.mpr (sameLogger ▸ ofLibrary), fun isDirect => ?_⟩
          rw [isEvent] at isDirect
          cases isDirect

/-! ## One step -/

namespace Log

/-- The log is configured for a target and nothing else. -/
structure IsConfiguredFor
    (log : Log) (target : LogTarget) :
    Prop where
  hasTarget : log.target = some target
  oneHandler : log.handlerCount = 1
  staysThere : log.propagates = false
  handsOver : log.handsOver = true

variable {log : Log} {target : LogTarget} {before : List LogStep}

theorem IsConfiguredFor.library_eq
    (configured : log.IsConfiguredFor target) :
    log.library = ⟨some target.level, [target.outlet], false⟩ := by
  obtain ⟨root, ⟨level, outlets, passesOn⟩, handsOver, writings⟩ := log
  obtain ⟨hasTarget, oneHandler, staysThere, _⟩ := configured
  obtain ⟨outlet, rfl⟩ := List.length_eq_one_iff.mp oneHandler
  cases level with
  | none => cases hasTarget
  | some level =>
      cases hasTarget
      cases staysThere
      rfl

/-- A note of the library or below is written to the one outlet if it is grave enough. -/
theorem IsConfiguredFor.writingsOf_eq
    (configured : log.IsConfiguredFor target) {note : Note} (isLocal : note.isLocal = true)
    (time : String) :
    log.writingsOf time note =
      if target.level.rank ≤ note.level.rank then (target.outlet.write? time note).toList
      else [] := by
  simp only [writingsOf, takes, levelFor, outletsFor, configured.library_eq, configured.handsOver,
    isLocal, if_true, Option.some_or, Option.all_some, Bool.true_or, Bool.true_and,
    decide_eq_true_eq, Bool.false_eq_true, if_false, List.append_nil]
  rfl

/-- A note is written once, as the latest call asks for it, or it is left out. -/
theorem IsConfiguredFor.writes_note
    (configured : log.IsConfiguredFor target) (latest : IsLatestTarget before target)
    {note : Note} (ofLibrary : note.IsOfLibrary) (time : String) :
    (∃ writing, log.writingsOf time note = [writing] ∧
        (Emission.mk before time note).IsWrittenAs writing) ∨
      log.writingsOf time note = [] ∧ (Emission.mk before time note).IsLeftOut := by
  rw [configured.writingsOf_eq ofLibrary.isLocal]
  by_cases grave : target.level.rank ≤ note.level.rank
  · rw [if_pos grave]
    cases written : target.outlet.write? time note with
    | some writing =>
        exact Or.inl ⟨writing, rfl, target, latest, grave, Writing.shows_of_write? written⟩
    | none =>
        have unfit : ¬ note.Fits target.outlet.format := by
          intro fits
          have isSome : (target.outlet.write? time note).isSome = true :=
            Note.isSome_write?_iff.mpr fits
          rw [written] at isSome
          cases isSome
        have isEvent : note.route = .event := by
          cases route : note.route with
          | event => rfl
          | direct => exact absurd (Note.fits_of_noValues (ofLibrary.noValues route) _) unfit
        exact Or.inr ⟨rfl, target, latest, Or.inr ⟨isEvent, unfit⟩⟩
  · rw [if_neg grave]
    exact Or.inr ⟨rfl, target, latest, Or.inl (Nat.lt_of_not_le grave)⟩

theorem IsConfiguredFor.writes_notes
    (configured : log.IsConfiguredFor target) (latest : IsLatestTarget before target)
    (time : String) {notes : List Note} (ofLibrary : ∀ note ∈ notes, note.IsOfLibrary) :
    WrittenInOrder (notes.map fun note => ⟨before, time, note⟩)
      (notes.flatMap (log.writingsOf time)) := by
  induction notes with
  | nil => exact .nothing
  | cons note notes inductionHypothesis =>
      obtain ⟨own, others⟩ := List.forall_mem_cons.mp ofLibrary
      rw [List.map_cons, List.flatMap_cons]
      rcases configured.writes_note latest own time with
        ⟨writing, written, isWritten⟩ | ⟨nothing, isLeftOut⟩
      · rw [written]
        exact .written isWritten (inductionHypothesis others)
      · rw [nothing]
        exact .leftOut isLeftOut (inductionHypothesis others)

/-- A call that returns makes the log one that is configured for what the call asks for, whatever it
was before, and writes nothing. -/
theorem perform_configure_of_asks
    {call : LogCall} (asks : call.AsksFor target) (log : Log) :
    (log.perform (.configure call)).IsConfiguredFor target ∧
      (log.perform (.configure call)).writings = log.writings := by
  have changed :
      log.perform (.configure call) =
        ⟨log.root, ⟨some target.level, [target.outlet], false⟩, true, log.writings⟩ :=
    congrArg Prod.snd (LogCall.run_change_of_asks asks log)
  rw [changed]
  exact ⟨⟨rfl, rfl, rfl, rfl⟩, rfl⟩

theorem perform_configure_of_isRefused
    {call : LogCall} (refused : call.IsRefused) (log : Log) :
    log.perform (.configure call) = log := by
  obtain ⟨issues, unusable⟩ := refused
  exact congrArg Prod.snd (LogCall.run_change_of_unusable unusable log)

/-- Notes of a step leave the log configured as it is, and are written or left out one by one. -/
theorem IsConfiguredFor.add
    (configured : log.IsConfiguredFor target) (latest : IsLatestTarget before target)
    {step : LogStep} {time : String} {notes : List Note}
    (made : step.notes = notes.map fun note => (time, note))
    (ofLibrary : ∀ note ∈ notes, note.IsOfLibrary) :
    (log.add time notes).IsConfiguredFor target ∧
      ∃ written, (log.add time notes).writings = log.writings ++ written ∧
        WrittenInOrder (step.emissions before) written := by
  obtain ⟨hasTarget, oneHandler, staysThere, handsOver⟩ := id configured
  have emitted : step.emissions before = notes.map fun note => ⟨before, time, note⟩ := by
    rw [LogStep.emissions, made, List.map_map]
    rfl
  rw [emitted]
  exact ⟨⟨hasTarget, oneHandler, staysThere, handsOver⟩, _, rfl,
    configured.writes_notes latest time ofLibrary⟩

/-- A step is a call, or its notes are added to the log. -/
theorem perform_cases
    (log : Log) (step : LogStep) :
    (∃ call, step = .configure call) ∨
      (∀ call, step ≠ .configure call) ∧
        ∃ time notes, step.notes = notes.map (fun note => (time, note)) ∧
          log.perform step = log.add time notes := by
  cases step with
  | configure call => exact Or.inl ⟨call, rfl⟩
  | operate time operation => exact Or.inr ⟨by simp, time, operation.notes, rfl, rfl⟩
  | event time way logger text values =>
      exact Or.inr ⟨by simp, time, (Note.of way logger text values).toOption.toList, rfl, rfl⟩

/-- After a step a configured log is configured for what the latest call asks for, and the notes of
the step are written as the latest call before it asks for. -/
theorem IsConfiguredFor.perform
    (configured : log.IsConfiguredFor target) (latest : IsLatestTarget before target)
    {step : LogStep} (ofLibrary : step.IsOfLibrary) :
    (∃ next, IsLatestTarget (before ++ [step]) next ∧ (log.perform step).IsConfiguredFor next) ∧
      ∃ written, (log.perform step).writings = log.writings ++ written ∧
        WrittenInOrder (step.emissions before) written := by
  rcases log.perform_cases step with ⟨call, rfl⟩ | ⟨noCall, time, notes, made, performed⟩
  · rcases call.asks_or_isRefused with ⟨next, asks⟩ | refused
    · obtain ⟨configuredNext, sameWritings⟩ := perform_configure_of_asks asks log
      exact ⟨⟨next, .configured asks before, configuredNext⟩, [], by simp [sameWritings],
        .nothing⟩
    · rw [perform_configure_of_isRefused refused]
      refine ⟨⟨target, latest.kept ?_, configured⟩, [], by simp, .nothing⟩
      rintro _ ⟨⟩
      exact refused
  · have notesOfLibrary : ∀ note ∈ notes, note.IsOfLibrary := by
      intro note member
      have isMade : (time, note) ∈ step.notes := made ▸ List.mem_map_of_mem member
      exact LogStep.isOfLibrary_of_mem_notes ofLibrary isMade
    obtain ⟨stillConfigured, written⟩ := configured.add latest made notesOfLibrary
    rw [performed]
    exact ⟨⟨target, latest.kept fun call same => absurd same (noCall call), stillConfigured⟩,
      written⟩

/-! ## All steps -/

/-- After all later steps a configured log is configured for what the latest call asks for, and the
notes of every step are written as the latest call before the step asks for. -/
theorem IsConfiguredFor.after
    (configured : log.IsConfiguredFor target) (latest : IsLatestTarget before target)
    {later : List LogStep} (ofLibrary : ∀ step ∈ later, step.IsOfLibrary) :
    (∃ last, IsLatestTarget (before ++ later) last ∧ (log.after later).IsConfiguredFor last) ∧
      ∃ written, (log.after later).writings = log.writings ++ written ∧
        WrittenInOrder (emissionsAfter before later) written := by
  induction later generalizing log target before with
  | nil => exact ⟨⟨target, by simpa using latest, configured⟩, [], by simp [Log.after], .nothing⟩
  | cons step later inductionHypothesis =>
      obtain ⟨own, others⟩ := List.forall_mem_cons.mp ofLibrary
      obtain ⟨⟨next, latestNext, configuredNext⟩, written, sofar, inOrder⟩ :=
        configured.perform latest own
      obtain ⟨⟨last, latestLast, configuredLast⟩, more, atLast, moreInOrder⟩ :=
        inductionHypothesis configuredNext latestNext others
      refine ⟨⟨last, by simpa using latestLast, configuredLast⟩, written ++ more, ?_,
        inOrder.append moreInOrder⟩
      rw [Log.after, List.foldl_cons, ← Log.after, atLast, sofar, List.append_assoc]

/-- From the first call that returns, the log is configured for what the latest such call asks for
and nothing else; and each note of the library or below is written once, as the latest call before
it asks for, or left out. At any time a call returns, if its settings are usable, or is refused, and
then changes nothing. -/
theorem written_as_latest_call_asks
    (log : Log) {first : LogCall} {settings : Settings}
    (usable : first.source.settings = .ok settings)
    (later : List LogStep) (ofLibrary : ∀ step ∈ later, step.IsOfLibrary) :
    let history := .configure first :: later
    let last := log.after history
    ((∃ target, IsLatestTarget history target) ∧
        ∀ target, IsLatestTarget history target → last.IsConfiguredFor target) ∧
      (∃ written, last.writings = log.writings ++ written ∧
        WrittenInOrder (emissions history) written) ∧
      ∀ (call : LogCall) (present : Log),
        (∃ target, call.AsksFor target ∧ (call.change.run.run present).1 = .ok ()) ∨
          ∃ issues, call.source.settings = .error issues ∧
            call.change.run.run present = (.error issues, present) := by
  intro history last
  have asks := (LogCall.asksFor_iff usable).mpr rfl
  obtain ⟨configured, sameWritings⟩ := perform_configure_of_asks asks log
  obtain ⟨⟨target, latest, configuredLast⟩, written, atLast, inOrder⟩ :=
    configured.after (.configured asks []) ofLibrary
  refine ⟨⟨⟨target, latest⟩, ?_⟩, ⟨written, ?_, inOrder⟩, ?_⟩
  · intro other latestToo
    rw [← latest.unique latestToo]
    exact configuredLast
  · rw [← sameWritings]
    exact atLast
  · intro call present
    rcases call.asks_or_isRefused with ⟨asked, asksFor⟩ | ⟨issues, unusable⟩
    · have returned := LogCall.run_change_of_asks asksFor present
      exact Or.inl ⟨asked, asksFor, congrArg Prod.fst returned⟩
    · exact Or.inr ⟨issues, unusable, LogCall.run_change_of_unusable unusable present⟩

end Log

/-! ## A log with outlets before it is configured -/

/-- A log that writes twice what it is given, and once more by way of the root logger. -/
def stackedLog :
    Log :=
  ⟨⟨some .warning, [⟨.standardError, .console⟩], false⟩,
    ⟨some .debug, [⟨.standardError, .console⟩, ⟨.standardError, .console⟩], true⟩, false, []⟩

/-- A call that wishes for few notes, against settings that ask for all of them, in records. -/
def quietCall :
    LogCall :=
  ⟨.ready ⟨false, "validation", true, true⟩, some false, none, some (.other "form.log")⟩

def unreadableCall :
    LogCall :=
  ⟨.read [("verbose", .text "maybe")] [], none, none, none⟩

def loudCall :
    LogCall :=
  ⟨.read [] [("FIELDCHECK_LOG_JSON", "yes")], some true, some false, none⟩

/-- Events, calls, a registration that is refused, and a run of a validation without fields. -/
def stepsAfterQuietCall :
    List LogStep :=
  [.event "12:00" "info" "fieldcheck.app" "not grave enough" [],
    .event "12:01" "error" "fieldcheck" "as a record" [("tries", .integer 3)],
    .configure unreadableCall,
    .event "12:02" "warn" "fieldcheck.app" "still as a record" [],
    .configure loudCall,
    .operate "12:03" (.register .empty ⟨fun _ => none⟩ "website" (.path "shop.Website")),
    .operate "12:04" (.validate (.empty .initial) quietSurroundings [] none)]

/-- Two events and the end of the run are written, once each. The wishes of the loud call prevail,
and the call that cannot be read leaves the log as it is. -/
theorem stackedLog_written_as_latest_call_asks :
    let history := .configure quietCall :: stepsAfterQuietCall
    let last := stackedLog.after history
    last.IsConfiguredFor ⟨.debug, ⟨.standardError, .console⟩⟩ ∧
      (∃ written, last.writings = stackedLog.writings ++ written ∧
        WrittenInOrder (emissions history) written ∧ written.length = 3) ∧
      ∃ issues, unreadableCall.change.run.run last = (.error issues, last) := by
  intro history last
  have ofLibrary : ∀ step ∈ stepsAfterQuietCall, step.IsOfLibrary := by
    simp only [stepsAfterQuietCall, List.forall_mem_cons, List.not_mem_nil, false_imp_iff,
      implies_true, LogStep.IsOfLibrary, and_true, true_and]
    exact ⟨Or.inr ⟨"app", rfl⟩, Or.inl rfl, Or.inr ⟨"app", rfl⟩⟩
  have usable : quietCall.source.settings = .ok ⟨false, "validation", true, true⟩ := rfl
  have loudUsable : loudCall.source.settings = .ok ⟨false, "validation", false, true⟩ := rfl
  have loudAsks : loudCall.AsksFor ⟨.debug, ⟨.standardError, .console⟩⟩ :=
    (LogCall.asksFor_iff loudUsable).mpr rfl
  obtain ⟨⟨_, configured⟩, ⟨written, atLast, inOrder⟩, returnsOrRefused⟩ :=
    Log.written_as_latest_call_asks stackedLog usable stepsAfterQuietCall ofLibrary
  refine ⟨configured _ ?_, ⟨written, atLast, inOrder, ?_⟩, ?_⟩
  · exact ⟨.configure quietCall :: stepsAfterQuietCall.take 4, loudCall,
      stepsAfterQuietCall.drop 5, rfl, loudAsks, by simp [stepsAfterQuietCall]⟩
  · have three : last.writings.length = 3 := by decide +kernel
    rw [atLast] at three
    exact three
  · rcases returnsOrRefused unreadableCall last with ⟨_, asks, _⟩ | ⟨issues, _, refused⟩
    · exact absurd ⟨_, rfl⟩ asks.not_isRefused
    · exact ⟨issues, refused⟩

end FormRules
