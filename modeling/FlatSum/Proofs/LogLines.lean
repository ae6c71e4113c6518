import Mathlib.Algebra.Ring.Nat
import FlatSum.Proofs.OneLine
import FlatSum.Proofs.ReplyRun
import FlatSum.Proofs.StagesKept

namespace FlatSum

/-! The lines of a compact log. What a line shows is quoted or made of numbers and names, except for
the path of a file, which is shown as it is: an event takes one line, and one more for each line feed
in such a path. -/

theorem lineFeeds_join (texts : List String) :
    lineFeeds (String.join texts) = (texts.map lineFeeds).sum := by
  induction texts with
  | nil => rfl
  | cons text rest ih => rw [String.join_cons, lineFeeds_append, ih, List.map_cons, List.sum_cons]

theorem OneLine.styled (colored : Bool) {code text : String} (plain : OneLine code)
    (whole : OneLine text) : OneLine (styled colored code text) := by
  have opening : OneLine "\x1b[" := by decide
  have closing : OneLine "\x1b[0m" := by decide
  have letter : OneLine "m" := by decide
  unfold FlatSum.styled
  split
  · simp only [append_iff, opening, closing, letter, plain, whole, and_self]
  · exact whole

/-- The line feeds that an event brings into its line. -/
def Event.feeds : Event → Nat
  | loaded path => lineFeeds path
  | _ => 0

namespace Compact

theorem oneLine_heading (colored : Bool) (event : Event) :
    OneLine (styled colored (levelCode event.level) (levelText event.level) ++ " " ++
      styled colored "2" event.stage.target ++ styled colored "2" ":" ++ " " ++ event.message) := by
  have blank : OneLine " " := by decide
  have dim : OneLine "2" := by decide
  have colon : OneLine ":" := by decide
  have level : ∀ level, OneLine (levelCode level) ∧ OneLine (levelText level) := by
    intro level
    cases level <;> decide +kernel
  have target : ∀ stage : Stage, OneLine stage.target := by
    intro stage
    cases stage <;> decide +kernel
  have message : OneLine event.message := by
    unfold Event.message
    split <;> decide +kernel
  simp only [OneLine.append_iff, blank, message, and_true]
  exact ⟨⟨.styled colored (level _).1 (level _).2, .styled colored dim (target _)⟩,
    .styled colored dim colon⟩

theorem lineFeeds_field (colored : Bool) (field : Field) (plain : OneLine field.name) :
    lineFeeds (Compact.field colored field) = lineFeeds (valueText field.value) := by
  have front : OneLine (" " ++ styled colored "3" field.name ++ styled colored "2" "=") := by
    simp only [OneLine.append_iff]
    exact ⟨⟨by decide, .styled colored (by decide) plain⟩, .styled colored (by decide) (by decide)⟩
  rw [Compact.field, lineFeeds_append, lineFeeds_eq_zero_iff.mpr front, Nat.zero_add]

/-- Of the values that events show, paths alone are neither quoted nor of one line. -/
theorem lineFeeds_fields (colored : Bool) (event : Event) :
    ((event.fields.map (Compact.field colored)).map lineFeeds).sum = event.feeds := by
  have named : ∀ field ∈ event.fields, OneLine field.name := by
    cases event <;> simp [Event.fields, OneLine]
  have shown : (event.fields.map (Compact.field colored)).map lineFeeds =
      event.fields.map fun field => lineFeeds (valueText field.value) := by
    rw [List.map_map]
    apply List.map_congr_left
    intro field member
    exact lineFeeds_field colored field (named field member)
  rw [shown]
  cases event <;> simp [Event.fields, valueText, Event.feeds, lineFeeds_eq_zero_iff.mpr]

/-- A line has the line feed that ends it and those that its event brings in. -/
theorem lineFeeds_line (colored : Bool) (event : Event) :
    lineFeeds (line colored event) = event.feeds + 1 := by
  rw [line, lineFeeds_append, lineFeeds_append, lineFeeds_feed,
    lineFeeds_eq_zero_iff.mpr (oneLine_heading colored event), lineFeeds_join, lineFeeds_fields,
    Nat.zero_add]

end Compact

/-- What the events of an evaluation show is quoted or made of numbers and names. -/
theorem Event.feeds_of_evaluation {source : String} {event : Event}
    (member : event ∈ Evaluation.events source) : event.feeds = 0 := by
  -- Files are told of by the driver, and before the evaluation.
  have elsewhere : event.stage ≠ .driver → event.feeds = 0 := by
    intro apart
    cases event <;> first | rfl | exact absurd rfl apart
  unfold Evaluation.events at member
  simp only [List.cons_append, List.mem_cons, List.mem_append] at member
  rcases member with rfl | scanned | later
  · rfl
  · apply elsewhere
    rw [Scan.stage_of_mem_events scanned]
    decide
  · split at later
    · contradiction
    · rcases List.mem_append.mp later with summed | closing
      · apply elsewhere
        rw [Sum.stage_of_mem_events summed]
        decide
      · rw [List.mem_singleton.mp closing]
        rfl

def Chunk.event? : Chunk → Option Event
  | .event emitted => some emitted
  | .result _ | .diagnostic _ => none

def Aside.line? : Aside → Option String
  | line text => some text
  | diagnostic _ => none

namespace Reply

/-- The events that the settings keep, in order. -/
def emitted (reply : Reply) : List Event :=
  keptEvents reply.settings (reply.chunks.filterMap Chunk.event?)

/-- The texts written for events, in order. -/
def logged (colored : Bool) (timestamp : String) (reply : Reply) : List String :=
  (reply.writes colored timestamp).filterMap Aside.line?

theorem logged_eq (colored : Bool) (timestamp : String) (reply : Reply) :
    reply.logged colored timestamp =
      reply.emitted.map (LogStyle.render ⟨reply.settings.format, colored, timestamp⟩) := by
  rw [logged, writes, List.filterMap_filterMap, emitted, keptEvents, ← List.filterMap_eq_filter,
    List.filterMap_filterMap, List.map_filterMap]
  congr 1
  funext chunk
  cases chunk with
  | result text => rfl
  | diagnostic text => rfl
  | event emitted =>
      simp only [Chunk.write?, Chunk.event?, Option.bind_some, Option.guard_apply]
      split <;> rfl

end Reply

namespace Task

variable (read : String → Except ReadError String)

theorem events_output (shown : String) (report? : Option Report) (colored : Bool) (job : Job) :
    (job.output shown report? colored).chunks.filterMap Chunk.event? =
      Evaluation.events job.source := by
  rw [Job.output, List.filterMap_append, Job.events, List.filterMap_map]
  cases report? <;> simp [Function.comp_def, Chunk.event?]

theorem events_run (task : Task) (colored : Bool) :
    (task.run read colored).chunks.filterMap Chunk.event? =
      (task.opening read).filterMap Chunk.event? ++
        (task.jobs read).flatMap fun job => Evaluation.events job.source := by
  have separated : ∀ number, (task.separator number).filterMap Chunk.event? = [] := by
    intro number
    cases task with
    | eval input verbose => rfl
    | lex input positions => rfl
    | demo =>
        simp only [separator]
        split <;> rfl
  simp only [chunks_run, List.filterMap_append, List.filterMap_flatMap, separated, List.nil_append,
    events_output]
  exact congrArg _ (flatMap_zipIdx (task.jobs read) fun job => Evaluation.events job.source)

end Task

variable {read : String → Except ReadError String} {environment : Environment}
  {arguments : List String} {request : Request} {reply : Reply} {event : Event}

namespace Request

/-- The log tells of a file that was read and has a path that runs over more lines than one. -/
def TellsBrokenPath (request : Request) (environment : Environment)
    (read : String → Except ReadError String) : Prop :=
  ∃ path contents, request.path? = some path ∧ read path = .ok contents ∧
    Level.info ≤ request.effectiveLevel environment ∧ ¬ OneLine path

theorem mem_events_opening_iff :
    event ∈ (request.task.opening read).filterMap Chunk.event? ↔
      ∃ path contents, request.path? = some path ∧ read path = .ok contents ∧
        event = .loaded path := by
  have of_input : ∀ input : Input, event ∈ (input.opening read).filterMap Chunk.event? ↔
      ∃ path contents, input = .file path ∧ read path = .ok contents ∧ event = .loaded path := by
    intro input
    cases input with
    | expression source => simp [Input.opening]
    | file path =>
        cases found : read path with
        | ok contents => simp [Input.opening, found, Chunk.event?]
        | error error => simp [Input.opening, found, Chunk.event?]
  rw [path?]
  cases request.task with
  | eval input verbose =>
      rw [Task.opening, of_input]
      cases input <;> simp
  | lex input positions =>
      rw [Task.opening, of_input]
      cases input <;> simp
  | demo => simp [Task.opening]

theorem keeps_loaded_iff (path : String) :
    (request.settings environment).keepsEvent (.loaded path) = true ↔
      Level.info ≤ request.effectiveLevel environment := by
  rw [Settings.keepsEvent, Settings.keeps_eq, request.levelFor_settings, decide_eq_true_iff]
  rfl

end Request

namespace Reply

theorem mem_emitted_iff (accepted : Request.ofArguments arguments = .ok request) :
    event ∈ (Reply.ofArguments environment read arguments).emitted ↔
      (request.settings environment).keepsEvent event = true ∧
        (event ∈ (request.task.opening read).filterMap Chunk.event? ∨
          ∃ job ∈ request.task.jobs read, event ∈ Evaluation.events job.source) := by
  rw [ofArguments_eq accepted, emitted, keptEvents, List.mem_filter, Request.run, Task.events_run,
    List.mem_append, List.mem_flatMap, and_comm]

/-- Only the path of a file brings line feeds into the log. -/
theorem emitted_feeds_iff (accepted : Request.ofArguments arguments = .ok request) :
    (∀ event ∈ (Reply.ofArguments environment read arguments).emitted, event.feeds = 0) ↔
      ¬ request.TellsBrokenPath environment read := by
  constructor
  · rintro whole ⟨path, contents, named, found, told, broken⟩
    apply broken
    rw [← lineFeeds_eq_zero_iff]
    apply whole (.loaded path)
    rw [mem_emitted_iff accepted, Request.mem_events_opening_iff]
    exact ⟨(Request.keeps_loaded_iff path).mpr told, .inl ⟨path, contents, named, found, rfl⟩⟩
  · intro never event member
    obtain ⟨kept, opening | ⟨job, _, evaluated⟩⟩ := (mem_emitted_iff accepted).mp member
    · obtain ⟨path, contents, named, found, rfl⟩ := Request.mem_events_opening_iff.mp opening
      refine lineFeeds_eq_zero_iff.mpr (Decidable.byContradiction fun broken => never ?_)
      exact ⟨path, contents, named, found, (Request.keeps_loaded_iff path).mp kept, broken⟩
    · exact Event.feeds_of_evaluation evaluated

end Reply

/-- The lines of events take one line feed each and those that the events bring in. -/
theorem Compact.lineFeeds_lines (colored : Bool) (events : List Event) :
    lineFeeds (String.join (events.map (line colored))) =
      (events.map Event.feeds).sum + events.length := by
  rw [lineFeeds_join]
  induction events with
  | nil => rfl
  | cons event rest ih =>
      simp only [List.map_cons, List.sum_cons, List.length_cons, ih, lineFeeds_line]
      omega

/-- A compact log has one line for each event, unless it names a file by a path of several lines. -/
theorem compact_log_by_lines (accepted : Request.ofArguments arguments = .ok request)
    (compact : request.format = .compact)
    (answered : Reply.ofArguments environment read arguments = reply)
    (colored : Bool) (timestamp : String) :
    reply.logged colored timestamp = reply.emitted.map (Compact.line colored) ∧
    (∀ text ∈ reply.logged colored timestamp, ∃ front, text = front ++ "\n") ∧
    ((∀ text ∈ reply.logged colored timestamp, lineFeeds text = 1) ↔
      ¬ request.TellsBrokenPath environment read) ∧
    (lineFeeds (String.join (reply.logged colored timestamp)) = reply.emitted.length ↔
      ¬ request.TellsBrokenPath environment read) := by
  subst answered
  have logged : (Reply.ofArguments environment read arguments).logged colored timestamp =
      (Reply.ofArguments environment read arguments).emitted.map (Compact.line colored) := by
    rw [Reply.logged_eq]
    have format : (Reply.ofArguments environment read arguments).settings.format = .compact := by
      rw [Reply.ofArguments_eq accepted, Request.settings, compact]
    rw [format]
    rfl
  rw [logged]
  refine ⟨rfl, ?_, ?_, ?_⟩
  · intro text member
    obtain ⟨event, _, rfl⟩ := List.mem_map.mp member
    exact ⟨_, rfl⟩
  · rw [List.forall_mem_map, ← Reply.emitted_feeds_iff accepted]
    simp only [Compact.lineFeeds_line, Nat.add_eq_right]
  · rw [Compact.lineFeeds_lines, Nat.add_eq_right, List.sum_eq_zero_iff_forall_eq_nat,
      List.forall_mem_map]
    exact Reply.emitted_feeds_iff accepted

theorem compact_log_of_two_lines :
    ∃ reply : Reply,
      Reply.ofArguments ⟨none, none⟩ (fun _ => .ok "1\n\t")
        ["eval", "--log-level", "debug", "--file", "sums"] = reply ∧
      (∀ text ∈ reply.logged true "", lineFeeds text = 1) ∧
      lineFeeds (String.join (reply.logged true "")) = reply.emitted.length := by
  have accepted : Request.ofArguments ["eval", "--log-level", "debug", "--file", "sums"] =
      .ok ⟨.eval (.file "sums") false, some .debug, .compact, false⟩ := rfl
  have unbroken : ¬ (⟨.eval (.file "sums") false, some .debug, .compact, false⟩ :
      Request).TellsBrokenPath ⟨none, none⟩ (fun _ => .ok "1\n\t") := by
    rintro ⟨path, contents, named, _, _, broken⟩
    cases named
    exact broken (by decide)
  have answered : Reply.ofArguments ⟨none, none⟩ (fun _ => .ok "1\n\t")
      ["eval", "--log-level", "debug", "--file", "sums"] = _ := rfl
  obtain ⟨_, _, lines, total⟩ := compact_log_by_lines accepted rfl answered true ""
  exact ⟨_, answered, lines.mpr unbroken, total.mpr unbroken⟩

/-- The path of a file is written as it is, and breaks the line that names it. -/
theorem compact_log_broken_by_path :
    ¬ ∀ environment read arguments request, Request.ofArguments arguments = .ok request →
      request.format = .compact → ∀ colored timestamp,
        ∀ text ∈ (Reply.ofArguments environment read arguments).logged colored timestamp,
          lineFeeds text = 1 := by
  intro always
  have accepted : Request.ofArguments ["eval", "--log-level", "info", "--file", "a\nb"] =
      .ok ⟨.eval (.file "a\nb") false, some .info, .compact, false⟩ := rfl
  have told : (Reply.ofArguments ⟨none, some "1".toUTF8⟩ (fun _ => .ok "1")
      ["eval", "--log-level", "info", "--file", "a\nb"]).logged false "" =
        [" INFO tally::driver: loaded expressions path=a\nb\n"] := by
    decide +kernel
  have once := always _ _ _ _ accepted rfl false "" _ (told ▸ List.mem_singleton_self _)
  revert once
  decide +kernel

end FlatSum
