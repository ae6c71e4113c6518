import FlatSum.Proofs.SideChannel

namespace FlatSum

/-! What a task writes: job after job, each by itself. Nothing but the reports depends on colour, and
nothing but the lines of the log on what is logged. -/

namespace Input

/-- What is written before the jobs: that a file was read, or why it was not. -/
def opening (read : String → Except ReadError String) : Input → List Chunk
  | expression _ => []
  | file path =>
      match read path with
      | .ok _ => [.event (.loaded path)]
      | .error error => [.diagnostic ("Error reading file: " ++ error.message ++ "\n")]

def jobList (read : String → Except ReadError String) : Input → List Job
  | expression source => [Job.ofExpression source]
  | file path =>
      match read path with
      | .ok contents => Job.ofContents path contents
      | .error _ => []

def readable (read : String → Except ReadError String) : Input → Bool
  | expression _ => true
  | file path => (read path).isOk

theorem run_eq (read : String → Except ReadError String) (work : Job → Output) (input : Input) :
    input.run read work =
      ⟨input.opening read ++ (input.jobList read).flatMap fun job => (work job).chunks,
        !input.readable read || (input.jobList read).any fun job => (work job).failed⟩ := by
  cases input with
  | expression source => simp [run, jobs, opening, jobList, readable, Output.concat]
  | file path =>
      cases found : read path with
      | ok contents =>
          simp [run, jobs, opening, jobList, readable, Output.concat, found, Except.isOk,
            Except.toBool, List.flatMap_map, Function.comp_def]
      | error error =>
          simp [run, jobs, opening, jobList, readable, found, Except.isOk, Except.toBool]

variable {read : String → Except ReadError String} {input : Input} {opened : List Chunk}
  {jobs : List Job}

theorem jobs_eq_ok_iff : input.jobs read = .ok (opened, jobs) ↔
    input.readable read = true ∧ input.opening read = opened ∧ input.jobList read = jobs := by
  cases input with
  | expression source => simp [Input.jobs, readable, opening, jobList]
  | file path =>
      simp only [Input.jobs, readable, opening, jobList]
      cases read path with
      | ok contents => simp [Except.isOk, Except.toBool]
      | error error => simp [Except.isOk, Except.toBool]

/-- Nothing is reported before the jobs if they can be read. -/
theorem event_of_mem_opening (readable : input.readable read = true) :
    ∀ chunk ∈ input.opening read, ∃ event, chunk = .event event := by
  intro chunk member
  cases input with
  | expression source => contradiction
  | file path =>
      rw [opening] at member
      split at member
      · exact ⟨_, List.mem_singleton.mp member⟩
      · rename_i failed
        rw [Input.readable, failed] at readable
        contradiction

end Input

namespace Task

variable (read : String → Except ReadError String)

def opening : Task → List Chunk
  | eval input _ | lex input _ => input.opening read
  | demo => []

def jobs : Task → List Job
  | eval input _ | lex input _ => input.jobList read
  | demo => sampleSources.map (Job.mk "<sample>")

/-- The text shown for a job. -/
def shown : Task → Job → String
  | eval _ verbose, job => if verbose then job.stageLines else job.valueLine
  | lex _ positions, job =>
      TokenTable.block positions job.name (Evaluation.ofSource job.source).nodes
  | demo, job => job.stageLines

/-- What keeps a job apart from the one before it, by its number. -/
def separator : Task → Nat → List Chunk
  | eval .., _ | lex .., _ => []
  | demo, number => if number = 0 then [] else [.result "\n"]

def report? : Task → Job → Option Report
  | lex .., job => job.scanReport?
  | eval .., job | demo, job => job.failureReport?

/-- Whether the task counts as failed. -/
def fails (task : Task) : Bool :=
  match task with
  | eval input _ | lex input _ =>
      !input.readable read || (task.jobs read).any fun job => (task.report? job).isSome
  | demo => false

theorem flatMap_zipIdx {α β : Type} (list : List α) (f : α → List β) :
    list.zipIdx.flatMap (fun entry => f entry.1) = list.flatMap f := by
  rw [← List.flatMap_map Prod.fst f, List.zipIdx_map_fst]

/-- Every task writes job after job, and colour shows in the reports alone. -/
theorem chunks_run (task : Task) (colored : Bool) :
    (task.run read colored).chunks = task.opening read ++
      (task.jobs read).zipIdx.flatMap fun job => task.separator job.2 ++
        (job.1.output (task.shown job.1) (task.report? job.1) colored).chunks := by
  cases task with
  | eval input verbose =>
      simp only [run, Input.run_eq, Job.eval_eq]
      exact congrArg _ (flatMap_zipIdx _ _).symm
  | lex input positions =>
      simp only [run, Input.run_eq, Job.lex_eq]
      exact congrArg _ (flatMap_zipIdx _ _).symm
  | demo =>
      -- Only the demonstration looks at the number of a job, to keep the samples apart.
      simp only [run, demonstrate, Output.concat, Job.eval_eq, jobs, List.zipIdx_map,
        List.flatMap_map]
      rfl

theorem failed_run (task : Task) (colored : Bool) :
    (task.run read colored).failed = task.fails read := by
  cases task with
  | eval input verbose => simp only [run, Input.run_eq, Job.eval_eq]; rfl
  | lex input positions => simp only [run, Input.run_eq, Job.lex_eq]; rfl
  | demo => rfl

/-- Before the jobs nothing is written among the results. -/
theorem filterMap_result?_opening (task : Task) :
    (task.opening read).filterMap Chunk.result? = [] := by
  have of_input : ∀ input : Input, (input.opening read).filterMap Chunk.result? = [] := by
    intro input
    cases input with
    | expression source => rfl
    | file path =>
        simp only [Input.opening]
        cases read path <;> rfl
  cases task with
  | eval input verbose => exact of_input input
  | lex input positions => exact of_input input
  | demo => rfl

theorem filterMap_write?_separator (settings : Settings) (style : LogStyle) (task : Task)
    (number : Nat) : (task.separator number).filterMap (Chunk.write? settings style) = [] := by
  cases task with
  | eval input verbose => rfl
  | lex input positions => rfl
  | demo =>
      simp only [separator]
      split <;> rfl

theorem results_run (task : Task) (colored : Bool) :
    (task.run read colored).chunks.filterMap Chunk.result? =
      (task.jobs read).zipIdx.flatMap fun job =>
        (task.separator job.2).filterMap Chunk.result? ++ [task.shown job.1] := by
  simp only [chunks_run, List.filterMap_append, filterMap_result?_opening, List.nil_append,
    List.filterMap_flatMap, Job.filterMap_result?_output]

theorem writes_run (settings : Settings) (style : LogStyle) (task : Task) (colored : Bool) :
    (task.run read colored).chunks.filterMap (Chunk.write? settings style) =
      (task.opening read).filterMap (Chunk.write? settings style) ++
        (task.jobs read).flatMap fun job => job.writes settings style colored (task.report? job) := by
  simp only [chunks_run, List.filterMap_append, List.filterMap_flatMap,
    filterMap_write?_separator, List.nil_append, Job.filterMap_write?_output]
  exact congrArg _ (flatMap_zipIdx (task.jobs read) fun job =>
    job.writes settings style colored (task.report? job))

end Task

end FlatSum
