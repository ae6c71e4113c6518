import Mathlib.Data.List.Basic
import FlatSum.Proofs.Filtering
import FlatSum.Proofs.TaskRun

namespace FlatSum

/-! The reply to a command line that is accepted, from its task, and the level that its log goes by. -/

variable {read : String → Except ReadError String} {environment : Environment}
  {arguments : List String} {request : Request} {input : Input} {opened : List Chunk}
  {jobs : List Job}

namespace Request

/-- The level of the command line, else that of the environment, else warnings. -/
def effectiveLevel (request : Request) (environment : Environment) : Level :=
  match request.level?, (Environment.text? environment.logLevel?).bind Level.parse? with
  | some level, _ => level
  | none, some level => level
  | none, none => .warn

/-- How the lines of the log look. -/
def style (request : Request) (colored : Bool) (timestamp : String) : LogStyle :=
  ⟨request.format, colored, timestamp⟩

/-- Neither lines for information nor any below them are logged. -/
def Quiet (request : Request) (environment : Environment) : Prop :=
  request.effectiveLevel environment = .error ∨ request.effectiveLevel environment = .warn

theorem levelFor_settings (request : Request) (environment : Environment) (stage : Stage) :
    (request.settings environment).levelFor stage.target = request.effectiveLevel environment := by
  rw [Settings.levelFor_target, effectiveLevel, settings, Environment.settings]
  cases request.level? <;>
    cases (Environment.text? environment.logLevel?).bind Level.parse? <;> rfl

end Request

/-- No event is as grave as a warning. -/
theorem Event.not_level_le_warn (event : Event) : ¬ event.level ≤ .warn := by
  have lighter : ∀ level : Level, level ≠ .error → level ≠ .warn → ¬ level ≤ .warn := by
    intro level
    cases level <;> decide
  cases event <;> exact lighter _ nofun nofun

theorem Request.Quiet.keepsEvent_eq_false (quiet : request.Quiet environment) (event : Event) :
    (request.settings environment).keepsEvent event = false := by
  rw [Settings.keepsEvent, Settings.keeps_eq, request.levelFor_settings, decide_eq_false_iff_not]
  intro kept
  apply event.not_level_le_warn
  rcases quiet with level | level <;> rw [level] at kept
  · exact Nat.le_succ_of_le kept
  · exact kept

namespace Reply

theorem ofArguments_eq (accepted : Request.ofArguments arguments = .ok request) :
    Reply.ofArguments environment read arguments =
      ⟨(request.run environment read).chunks, request.settings environment,
        (request.run environment read).status⟩ := by
  rw [ofArguments, accepted]

theorem results_ofArguments (accepted : Request.ofArguments arguments = .ok request) :
    (Reply.ofArguments environment read arguments).results =
      String.join ((request.task.jobs read).zipIdx.flatMap fun job =>
        (request.task.separator job.2).filterMap Chunk.result? ++ [request.task.shown job.1]) := by
  rw [ofArguments_eq accepted, results, Request.run, Task.results_run]

theorem status_ofArguments (accepted : Request.ofArguments arguments = .ok request) :
    (Reply.ofArguments environment read arguments).status =
      if request.task.fails read then 1 else 0 := by
  rw [ofArguments_eq accepted, Request.run, Output.status, Task.failed_run]

theorem writes_ofArguments (accepted : Request.ofArguments arguments = .ok request)
    (colored : Bool) (timestamp : String) :
    (Reply.ofArguments environment read arguments).writes colored timestamp =
      (request.task.opening read).filterMap
          (Chunk.write? (request.settings environment) (request.style colored timestamp)) ++
        (request.task.jobs read).flatMap fun job =>
          job.writes (request.settings environment) (request.style colored timestamp)
            (environment.colorsReports request.noColor) (request.task.report? job) := by
  rw [ofArguments_eq accepted]
  exact Task.writes_run read _ _ request.task _

theorem diagnostic_of_quiet (quiet : request.Quiet environment)
    (accepted : Request.ofArguments arguments = .ok request) (colored : Bool) (timestamp : String)
    {write : Aside}
    (member : write ∈ (Reply.ofArguments environment read arguments).writes colored timestamp) :
    ∃ text, write = .diagnostic text := by
  obtain ⟨chunk, _, written⟩ := List.mem_filterMap.mp member
  rw [ofArguments_eq accepted] at written
  cases chunk with
  | result text => cases written
  | diagnostic text =>
      cases written
      exact ⟨text, rfl⟩
  | event emitted =>
      rw [Chunk.write?, quiet.keepsEvent_eq_false emitted] at written
      cases written

/-- Where nothing is logged, what is written aside are the diagnostics. -/
theorem asides_of_quiet (accepted : Request.ofArguments arguments = .ok request)
    (quiet : request.Quiet environment) (colored : Bool) (timestamp : String) :
    (Reply.ofArguments environment read arguments).asides colored timestamp =
      String.join (((Reply.ofArguments environment read arguments).writes colored
        timestamp).filterMap Aside.diagnostic?) := by
  rw [asides_eq, ← List.filterMap_eq_map]
  congr 1
  apply List.filterMap_congr
  intro write member
  obtain ⟨text, rfl⟩ := diagnostic_of_quiet quiet accepted colored timestamp member
  rfl

/-- Where the expressions were read, the diagnostics are the reports of the jobs. -/
theorem diagnostics_of_jobs (accepted : Request.ofArguments arguments = .ok request)
    (begun : request.task.opening read = input.opening read)
    (loaded : input.jobs read = .ok (opened, jobs)) (colored : Bool) (timestamp : String) :
    ((Reply.ofArguments environment read arguments).writes colored timestamp).filterMap
        Aside.diagnostic? =
      (request.task.jobs read).filterMap fun job =>
        (request.task.report? job).map (·.render (environment.colorsReports request.noColor)) := by
  obtain ⟨readable, _, _⟩ := Input.jobs_eq_ok_iff.mp loaded
  have unreported : ((request.task.opening read).filterMap
      (Chunk.write? (request.settings environment) (request.style colored timestamp))).filterMap
        Aside.diagnostic? = [] := by
    rw [List.filterMap_filterMap, List.filterMap_eq_nil_iff]
    intro chunk member
    rw [begun] at member
    obtain ⟨event, rfl⟩ := Input.event_of_mem_opening readable chunk member
    rw [Chunk.write?]
    split <;> rfl
  rw [writes_ofArguments accepted, List.filterMap_append, unreported, List.nil_append,
    List.filterMap_flatMap, List.filterMap_eq_flatMap_toList]
  simp only [Job.diagnostics_writes]

end Reply

end FlatSum
