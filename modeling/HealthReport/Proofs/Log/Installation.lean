import HealthReport.Log.Setup
import Mathlib.Data.List.Basic

/-!
# Setting logging up again and again

A process installs one subscriber for good. An attempt to set logging up succeeds if its directive
can be read and no attempt has succeeded before it; a directive that cannot be read is told about
first. Nothing else has a say in the answers: neither the layout, nor where records are to go, nor
how the opening of a log file goes. An attempt that fails leaves no trace in what is recorded:
records go where the attempt that succeeded sends them, as if it had been the only one.

Results:
1. `install_of_rejected`, `install_of_installed`, `install_of_first`: all that an attempt can do.
2. `answers_history`: the answers as a function of the levels alone.
3. `getElem?_answersTo`, `exists_ok_answersTo_iff`: each answer from the levels before it.
4. `history_of_rejected`, `history_of_installed`: what comes before the attempt that succeeds and
   what comes after it.
5. `history_once`: the answers and the records of a process.
-/
namespace HealthReport

/-! ## Definitions -/

/-- A filter can be made of the text. -/
def Log.Filter.accepts (text : String) : Bool := (ofText? text).isSome

/-- A filter can be made of the level. -/
def LogConfig.Accepted (c : LogConfig) : Prop := Log.Filter.accepts c.level = true

namespace Log

/-- What happens in a process: an attempt to set logging up, or a record. -/
inductive Event where
  | attempt (c : LogConfig)
  | emit (r : Record)

namespace Event

def config? : Event → Option LogConfig
  | attempt c => some c
  | emit _ => none

def record? : Event → Option Record
  | attempt _ => none
  | emit r => some r

end Event

namespace Setup

/-- A record is emitted: it is kept where there is a subscriber for it. -/
def emit (p : Setup) (r : Record) : Setup :=
  match p.subscriber with
  | none => p
  | some _ => { p with emitted := p.emitted ++ [r] }

/-- Goes through what happens in a process, with the answers to the attempts. -/
def history (p : Setup) : List Event → Setup × List (Except SetupFault Unit)
  | [] => (p, [])
  | .attempt c :: rest =>
    let (next, answer) := p.install c
    let (final, answers) := next.history rest
    (final, answer :: answers)
  | .emit r :: rest => (p.emit r).history rest

/-- The emitted records that go to the log file, with its place. -/
def logged (p : Setup) : List (Location × Record) :=
  match p.subscriber with
  | none => []
  | some s =>
    match s.file with
    | none => []
    | some place => (p.emitted.filter s.filter.admits).map fun r => (place, r)

/-- The records follow the configuration: those that its filter lets pass are shown in its layout,
if it asks for that, and go to its log file, if that could be opened in these files. The first of
them tells of a log file that could not be opened. -/
def Follows (p : Setup) (c : LogConfig) (t : FileTree) (records : List Record) : Prop :=
  ∃ filter, Filter.ofText? c.level = some filter ∧
    let opened := (openLog t c).2
    let passed := (openingRecords opened ++ records).filter filter.admits
    p.shown = (if c.stderr then passed.map fun r => (c.layout, r) else []) ∧
    (∀ place, opened = some (.ok place) → p.logged = passed.map fun r => (place, r)) ∧
    ((∀ place, opened ≠ some (.ok place)) → p.logged = [])

end Setup

/-- The answer to an attempt, by its level and by whether there is a subscriber. -/
def answerTo (installed : Bool) (level : String) : Except SetupFault Unit :=
  if Filter.accepts level then if installed then .error .alreadyInstalled else .ok ()
  else .error (.invalidDirective level)

/-- The answers to attempts with these levels. -/
def answersTo (installed : Bool) : List String → List (Except SetupFault Unit)
  | [] => []
  | level :: rest =>
    answerTo installed level :: answersTo (installed || Filter.accepts level) rest

/-! ## 1. One attempt -/

namespace Setup

variable {p : Setup} {c : LogConfig} {s : Subscriber} {filter : Filter}

theorem install_of_rejected (rejected : Filter.ofText? c.level = none) :
    p.install c = (p, .error (.invalidDirective c.level)) := by
  rw [install, rejected]

theorem install_of_installed (accepted : Filter.ofText? c.level = some filter)
    (installed : p.subscriber = some s) :
    p.install c = ({ p with tree := (openLog p.tree c).1 }, .error .alreadyInstalled) := by
  simp only [install, accepted, installed]

theorem install_of_first (accepted : Filter.ofText? c.level = some filter)
    (first : p.subscriber = none) :
    p.install c = (⟨(openLog p.tree c).1, some (.ofConfig c filter (openLog p.tree c).2),
      openingRecords (openLog p.tree c).2⟩, .ok ()) := by
  simp only [install, accepted, first]

theorem answer_install (p : Setup) (c : LogConfig) :
    (p.install c).2 = answerTo p.subscriber.isSome c.level := by
  rw [answerTo, Filter.accepts]
  cases accepted : Filter.ofText? c.level with
  | none => rw [install_of_rejected accepted]; rfl
  | some filter =>
    cases installed : p.subscriber with
    | none => rw [install_of_first accepted installed]; rfl
    | some s => rw [install_of_installed accepted installed]; rfl

theorem isSome_subscriber_install (p : Setup) (c : LogConfig) :
    (p.install c).1.subscriber.isSome =
      (p.subscriber.isSome || Filter.accepts c.level) := by
  rw [Filter.accepts]
  cases accepted : Filter.ofText? c.level with
  | none => rw [install_of_rejected accepted]; simp
  | some filter =>
    cases installed : p.subscriber with
    | none => rw [install_of_first accepted installed]; rfl
    | some s => rw [install_of_installed accepted installed]; simp [installed]

theorem subscriber_emit (p : Setup) (r : Record) : (p.emit r).subscriber = p.subscriber := by
  unfold emit
  split
  · rfl
  · rfl

/-! ## 2. The answers -/

/-- The answers hang on the levels alone. -/
theorem answers_history (p : Setup) (events : List Event) :
    (p.history events).2 =
      answersTo p.subscriber.isSome ((events.filterMap Event.config?).map (·.level)) := by
  induction events generalizing p with
  | nil => rfl
  | cons event rest ih =>
    cases event with
    | attempt c =>
      have unfolded : (p.history (.attempt c :: rest)).2 =
        (p.install c).2 :: ((p.install c).1.history rest).2 := rfl
      rw [unfolded, answer_install, ih, isSome_subscriber_install]
      rfl
    | emit r =>
      have unfolded : (p.history (.emit r :: rest)).2 = ((p.emit r).history rest).2 := rfl
      rw [unfolded, ih, subscriber_emit]
      rfl

/-- Attempts without records between them are a history of attempts. -/
theorem installAll_eq_history (p : Setup) (configs : List LogConfig) :
    p.installAll configs = p.history (configs.map .attempt) := by
  induction configs generalizing p with
  | nil => rfl
  | cons c rest ih => simp only [installAll, ih, List.map_cons, history]

theorem answers_installAll (p : Setup) (configs : List LogConfig) :
    (p.installAll configs).2 = answersTo p.subscriber.isSome (configs.map (·.level)) := by
  have attempts : (configs.map Event.attempt).filterMap Event.config? = configs := by
    rw [List.filterMap_map]
    exact List.filterMap_some
  rw [installAll_eq_history, answers_history, attempts]

end Setup

/-! ## 3. Each answer -/

section

variable {installed : Bool} {level : String} {levels : List String} {i j : Nat}

theorem answerTo_eq_ok_iff :
    answerTo installed level = .ok () ↔ Filter.accepts level = true ∧ installed = false := by
  unfold answerTo
  cases Filter.accepts level <;> cases installed <;> simp

theorem answerTo_eq_invalidDirective_iff :
    answerTo installed level = .error (.invalidDirective level) ↔
      Filter.accepts level = false := by
  unfold answerTo
  cases Filter.accepts level <;> cases installed <;> simp

theorem answerTo_eq_alreadyInstalled_iff :
    answerTo installed level = .error .alreadyInstalled ↔
      Filter.accepts level = true ∧ installed = true := by
  unfold answerTo
  cases Filter.accepts level <;> cases installed <;> simp

/-- Each answer hangs on its level and on whether a level before it is accepted. -/
theorem getElem?_answersTo :
    (answersTo installed levels)[i]? =
      levels[i]?.map (answerTo (installed || (levels.take i).any Filter.accepts)) := by
  induction levels generalizing installed i with
  | nil => simp [answersTo]
  | cons level rest ih =>
    cases i with
    | zero => simp [answersTo]
    | succ i => simp [answersTo, ih, Bool.or_assoc]

theorem length_answersTo : (answersTo installed levels).length = levels.length := by
  induction levels generalizing installed with
  | nil => rfl
  | cons level rest ih => simp only [answersTo, List.length_cons, ih]

/-- Some attempt before a place has succeeded if there was no subscriber at first and a level before
it is accepted: the first of them has. -/
theorem exists_ok_answersTo_iff :
    (∃ j < i, (answersTo installed levels)[j]? = some (.ok ())) ↔
      installed = false ∧ (levels.take i).any Filter.accepts = true := by
  induction levels generalizing installed i with
  | nil => simp [answersTo]
  | cons level rest ih =>
    cases i with
    | zero => simp
    | succ i =>
      have cases : (∃ j < i + 1, (answersTo installed (level :: rest))[j]? = some (.ok ())) ↔
          answerTo installed level = .ok () ∨
            ∃ j < i, (answersTo (installed || Filter.accepts level) rest)[j]? =
              some (.ok ()) := by
        constructor
        · rintro ⟨j, below, found⟩
          cases j with
          | zero => exact .inl (Option.some.inj found)
          | succ j => exact .inr ⟨j, Nat.lt_of_succ_lt_succ below, found⟩
        · rintro (first | ⟨j, below, found⟩)
          · exact ⟨0, Nat.succ_pos i, congrArg some first⟩
          · exact ⟨j + 1, Nat.succ_lt_succ below, found⟩
      rw [cases, ih, answerTo_eq_ok_iff]
      cases installed <;> cases accepted : Filter.accepts level <;> simp [accepted]

/-- The answer at a place: success if the level is accepted and no attempt before it has succeeded,
else the directive if that is the fault, else the subscriber that is there. -/
theorem answer_cases (found : levels[i]? = some level) :
    let answers := answersTo false levels
    let first := ∀ j < i, answers[j]? ≠ some (.ok ())
    (answers[i]? = some (.ok ()) ↔ Filter.accepts level = true ∧ first) ∧
      (answers[i]? = some (.error (.invalidDirective level)) ↔ Filter.accepts level = false) ∧
      (answers[i]? = some (.error .alreadyInstalled) ↔
        Filter.accepts level = true ∧ ¬ first) := by
  intro answers first
  have answer : answers[i]? = some (answerTo ((levels.take i).any Filter.accepts) level) := by
    rw [getElem?_answersTo, found, Option.map_some, Bool.false_or]
  have succeeded : (∃ j < i, answers[j]? = some (.ok ())) ↔
      (levels.take i).any Filter.accepts = true :=
    exists_ok_answersTo_iff.trans (and_iff_right rfl)
  have notFirst : ¬ first ↔ (levels.take i).any Filter.accepts = true := by
    rw [← succeeded]
    simp only [first, ne_eq, not_forall, not_not, exists_prop]
  have isFirst : first ↔ (levels.take i).any Filter.accepts = false := by
    rw [← Bool.not_eq_true, ← notFirst, not_not]
  rw [answer, Option.some.injEq, Option.some.injEq, Option.some.injEq, notFirst, isFirst]
  exact ⟨answerTo_eq_ok_iff, answerTo_eq_invalidDirective_iff, answerTo_eq_alreadyInstalled_iff⟩

/-- The attempt that succeeds is the first one whose level is accepted. -/
theorem accepts_of_ok {before after : List String}
    (succeeded : (answersTo false (before ++ level :: after))[before.length]? = some (.ok ())) :
    Filter.accepts level = true ∧ ∀ other ∈ before, Filter.accepts other = false := by
  have here : (before ++ level :: after)[before.length]? = some level := by
    rw [List.getElem?_append_right (Nat.le_refl _), Nat.sub_self, List.getElem?_cons_zero]
  rw [getElem?_answersTo, here, List.take_left, Option.map_some, Option.some.injEq,
    answerTo_eq_ok_iff, Bool.false_or, List.any_eq_false] at succeeded
  simpa using succeeded

/-- Only one attempt succeeds. -/
theorem ok_answersTo_unique (here : (answersTo false levels)[i]? = some (.ok ()))
    (there : (answersTo false levels)[j]? = some (.ok ())) : i = j := by
  have first : ∀ {k : Nat}, (answersTo false levels)[k]? = some (.ok ()) →
      ∀ l < k, (answersTo false levels)[l]? ≠ some (.ok ()) := by
    intro k found
    have within := (List.getElem?_eq_some_iff.1 found).1
    rw [length_answersTo] at within
    exact ((answer_cases (List.getElem?_eq_getElem within)).1.1 found).2
  rcases Nat.lt_trichotomy i j with before | same | after
  · exact absurd here (first there i before)
  · exact same
  · exact absurd there (first here j after)

end

/-! ## 4. What comes before the attempt that succeeds, and after it -/

namespace Setup

variable {p : Setup} {s : Subscriber} {c : LogConfig} {events : List Event}

theorem history_append (p : Setup) (earlier later : List Event) :
    (p.history (earlier ++ later)).1 = ((p.history earlier).1.history later).1 := by
  induction earlier generalizing p with
  | nil => rfl
  | cons event rest ih =>
    cases event with
    | attempt c => exact ih (p.install c).1
    | emit r => exact ih (p.emit r)

/-- Attempts that are rejected, and records without a subscriber, change nothing. -/
theorem history_of_rejected (unset : p.subscriber = none)
    (rejected : ∀ c ∈ events.filterMap Event.config?, ¬ c.Accepted) :
    (p.history events).1 = p := by
  induction events with
  | nil => rfl
  | cons event rest ih =>
    cases event with
    | attempt c =>
      obtain ⟨head, others⟩ := List.forall_mem_cons.1 rejected
      have refused : Filter.ofText? c.level = none := by
        simpa [LogConfig.Accepted, Filter.accepts] using head
      have step : (p.history (.attempt c :: rest)).1 = ((p.install c).1.history rest).1 := rfl
      rw [step, install_of_rejected refused, ih others]
    | emit r =>
      have step : (p.history (.emit r :: rest)).1 = ((p.emit r).history rest).1 := rfl
      have lost : p.emit r = p := by rw [emit, unset]
      rw [step, lost, ih rejected]

/-- With a subscriber every record is kept, and no attempt changes the subscriber. -/
theorem history_of_installed (events : List Event) (installed : p.subscriber = some s) :
    (p.history events).1.subscriber = some s ∧
      (p.history events).1.emitted = p.emitted ++ events.filterMap Event.record? := by
  induction events generalizing p with
  | nil => exact ⟨installed, (List.append_nil _).symm⟩
  | cons event rest ih =>
    cases event with
    | attempt c =>
      have kept : (p.install c).1.subscriber = some s ∧
          (p.install c).1.emitted = p.emitted := by
        cases accepted : Filter.ofText? c.level with
        | none => rw [install_of_rejected accepted]; exact ⟨installed, rfl⟩
        | some filter => rw [install_of_installed accepted installed]; exact ⟨installed, rfl⟩
      have later := ih kept.1
      rw [kept.2] at later
      exact later
    | emit r =>
      have kept : p.emit r = { p with emitted := p.emitted ++ [r] } := by rw [emit, installed]
      have later := ih (p := p.emit r) (by rw [kept]; exact installed)
      rw [kept] at later
      refine ⟨?_, ?_⟩
      · show ((p.emit r).history rest).1.subscriber = some s
        rw [kept, later.1]
      · show ((p.emit r).history rest).1.emitted = p.emitted ++ (r :: rest.filterMap _)
        rw [kept, later.2, List.append_assoc, List.singleton_append]

/-- What is recorded with the subscriber of a configuration follows this configuration. -/
theorem follows_of_ofConfig {filter : Filter} {t : FileTree} {records : List Record}
    (accepted : Filter.ofText? c.level = some filter)
    (subscriber : p.subscriber = some (.ofConfig c filter (openLog t c).2))
    (emitted : p.emitted = openingRecords (openLog t c).2 ++ records) : p.Follows c t records := by
  refine ⟨filter, accepted, ?_, ?_, ?_⟩
  · simp only [shown, subscriber, emitted, Subscriber.ofConfig]
  · intro place opened
    simp only [logged, subscriber, emitted, Subscriber.ofConfig, opened]
  · intro unopened
    -- the branch with a file is out, by `unopened`
    simp only [logged, subscriber, Subscriber.ofConfig]

/-- An attempt that is accepted and comes first decides where the records after it go. -/
theorem follows_history {t : FileTree} {earlier later : List Event}
    (rejected : ∀ c ∈ earlier.filterMap Event.config?, ¬ c.Accepted) (accepted : c.Accepted) :
    ((start t).history (earlier ++ .attempt c :: later)).1.Follows c t
      (later.filterMap Event.record?) := by
  obtain ⟨filter, made⟩ := Option.isSome_iff_exists.1 accepted
  have step : ((start t).history (.attempt c :: later)).1 =
    (((start t).install c).1.history later).1 := rfl
  have installed : ((start t).install c).1.subscriber =
      some (.ofConfig c filter (openLog t c).2) := by
    rw [install_of_first made rfl]
    rfl
  have opening : ((start t).install c).1.emitted = openingRecords (openLog t c).2 := by
    rw [install_of_first made rfl]
    rfl
  rw [history_append, history_of_rejected rfl rejected, step]
  obtain ⟨subscriber, emitted⟩ := history_of_installed later installed
  exact follows_of_ofConfig made subscriber (by rw [emitted, opening])

/-- An attempt that is answered with success decides where the records after it go. -/
theorem follows_history_of_ok {t : FileTree} {earlier later : List Event}
    (succeeded : ((start t).history (earlier ++ .attempt c :: later)).2[
      (earlier.filterMap Event.config?).length]? = some (.ok ())) :
    ((start t).history (earlier ++ .attempt c :: later)).1.Follows c t
      (later.filterMap Event.record?) := by
  have levels : ((earlier ++ .attempt c :: later).filterMap Event.config?).map (·.level) =
      (earlier.filterMap Event.config?).map (·.level) ++
        c.level :: (later.filterMap Event.config?).map (·.level) := by
    rw [List.filterMap_append, List.map_append]
    rfl
  rw [answers_history, levels, ← List.length_map LogConfig.level] at succeeded
  obtain ⟨accepted, rejected⟩ := accepts_of_ok succeeded
  refine follows_history (fun other attempted => ?_) accepted
  have refused := rejected other.level (List.mem_map_of_mem attempted)
  rw [LogConfig.Accepted, refused]
  exact Bool.false_ne_true

/-! ## 5. A whole process -/

/-- What a process that starts without a subscriber is answered, and where its records go. -/
theorem history_once (t : FileTree) (events : List Event) :
    let configs := events.filterMap Event.config?
    let final := ((start t).history events).1
    let answers := ((start t).history events).2
    (answers = ((start t).installAll configs).2 ∧ answers.length = configs.length) ∧
    (∀ (i : Nat) (c : LogConfig), configs[i]? = some c →
      let first := ∀ j < i, answers[j]? ≠ some (.ok ())
      (answers[i]? = some (.ok ()) ↔ c.Accepted ∧ first) ∧
      (answers[i]? = some (.error (.invalidDirective c.level)) ↔ ¬ c.Accepted) ∧
      (answers[i]? = some (.error .alreadyInstalled) ↔ c.Accepted ∧ ¬ first)) ∧
    (∀ i j : Nat, answers[i]? = some (.ok ()) → answers[j]? = some (.ok ()) → i = j) ∧
    (∀ (t' : FileTree) (events' : List Event),
      (events'.filterMap Event.config?).map (·.level) = configs.map (·.level) →
        ((start t').history events').2 = answers) ∧
    (∀ (earlier later : List Event) (c : LogConfig), events = earlier ++ .attempt c :: later →
      answers[(earlier.filterMap Event.config?).length]? = some (.ok ()) →
        final.Follows c t (later.filterMap Event.record?)) ∧
    ((∀ c ∈ configs, ¬ c.Accepted) → final.shown = [] ∧ final.logged = []) := by
  intro configs final answers
  have answered : answers = answersTo false (configs.map (·.level)) :=
    answers_history (start t) events
  refine ⟨⟨?_, ?_⟩, ?_, ?_, ?_, ?_, ?_⟩
  · rw [answered, answers_installAll]
    rfl
  · rw [answered, length_answersTo, List.length_map]
  · intro i c found
    rw [answered, LogConfig.Accepted, Bool.not_eq_true]
    exact answer_cases (by rw [List.getElem?_map, found, Option.map_some])
  · intro i j here there
    rw [answered] at here there
    exact ok_answersTo_unique here there
  · intro t' events' same
    rw [answered, ← same]
    exact answers_history (start t') events'
  · rintro earlier later c rfl succeeded
    exact follows_history_of_ok succeeded
  · intro rejected
    have unchanged : final = start t := history_of_rejected rfl rejected
    rw [unchanged]
    exact ⟨rfl, rfl⟩

/-- A directive that cannot be read. -/
def unreadable : LogConfig := ⟨"melisai=loud", .pretty, true, none⟩

/-- Warnings go to the standard error stream, and not to a file, since the path names none. -/
def unwritable : LogConfig := ⟨"warn", .compact, true, some [Path.slash]⟩

/-- Everything goes to a file that can be opened. -/
def verbose : LogConfig := ⟨"trace", .json, true, some (Utf8.encode "run.log")⟩

def recordOf (level : Level) : Record := ⟨level, "melisai", "here", []⟩

/-- The second attempt succeeds, although its log file cannot be opened, and the attempts after it
change nothing. -/
theorem history_once_of_mixed :
    let t : FileTree := ⟨[], []⟩
    let earlier := [.attempt unreadable, .emit (recordOf .error)]
    let later := [.emit (recordOf .warn), .attempt verbose, .attempt unreadable,
      .emit (recordOf .info), .emit (recordOf .error)]
    let final := ((start t).history (earlier ++ .attempt unwritable :: later)).1
    let answers := ((start t).history (earlier ++ .attempt unwritable :: later)).2
    answers = [.error (.invalidDirective "melisai=loud"), .ok (), .error .alreadyInstalled,
      .error (.invalidDirective "melisai=loud")] ∧
    final.Follows unwritable t [recordOf .warn, recordOf .info, recordOf .error] ∧
    final.shown = [(.compact, disabledRecord (.noName [Path.slash])),
      (.compact, recordOf .warn), (.compact, recordOf .error)] ∧ final.logged = [] := by
  intro t earlier later final answers
  have succeeded : answers[1]? = some (.ok ()) := by decide +kernel
  obtain ⟨-, -, -, -, follows, -⟩ := history_once t (earlier ++ .attempt unwritable :: later)
  refine ⟨?_, follows earlier later unwritable rfl succeeded, ?_, ?_⟩
  · decide +kernel
  · decide +kernel
  · decide +kernel

end Setup

end Log

end HealthReport
