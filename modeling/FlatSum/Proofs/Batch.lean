import FlatSum.Proofs.ReplyRun

namespace FlatSum

/-! A file of expressions is evaluated line by line, and each line as if it stood alone: what is
written for it depends neither on the lines before it nor on how they ended. -/

/-- The texts of files, from the bytes that they hold. -/
def textsIn (files : String → Except ReadError ByteArray) (path : String) :
    Except ReadError String :=
  (files path).bind textOf

theorem textOf_toUTF8 (text : String) : textOf text.toUTF8 = .ok text := by
  have valid : text.toUTF8.IsValidUTF8 := text.isValidUTF8
  rw [textOf, String.fromUTF8?, dif_pos valid]
  rfl

theorem textOf_of_not_isValidUTF8 {bytes : ByteArray} (invalid : ¬ bytes.IsValidUTF8) :
    textOf bytes = .error .notText := by
  rw [textOf, String.fromUTF8?, dif_neg invalid]

namespace Job

variable (job : Job)

/-- The jobs of a file are its lines that are not blank, each named by its own number. -/
theorem mem_ofContents {path contents : String} :
    job ∈ ofContents path contents ↔
      ∃ place line, (linesOf contents.toList)[place]? = some line ∧
        isBlankText (withoutLineEnd line) = false ∧
        job = ⟨path ++ ":" ++ Decimal.ofNat (place + 1), String.ofList (withoutLineEnd line)⟩ := by
  simp only [ofContents, List.mem_map, List.mem_filter, Prod.exists]
  constructor
  · rintro ⟨text, number, ⟨numbered, filled⟩, rfl⟩
    obtain ⟨positive, found⟩ := List.mk_mem_zipIdx_iff_le_and_getElem?_sub.mp numbered
    rw [List.getElem?_map, Option.map_eq_some_iff] at found
    obtain ⟨line, found, rfl⟩ := found
    exact ⟨number - 1, line, found, by simpa using filled, by rw [Nat.sub_add_cancel positive]⟩
  · rintro ⟨place, line, found, filled, rfl⟩
    refine ⟨withoutLineEnd line, place + 1, ⟨?_, by simp [filled]⟩, rfl⟩
    rw [List.mk_mem_zipIdx_iff_le_and_getElem?_sub]
    simp [found]

theorem isSome_failureReport?_iff :
    job.failureReport?.isSome ↔ ∃ failure, evaluate job.source = .error failure := by
  rw [failureReport?]
  cases evaluate job.source <;> simp

theorem failureReport?_eq_none_iff :
    job.failureReport? = none ↔ ∃ value, evaluate job.source = .ok value := by
  rw [failureReport?]
  cases evaluate job.source <;> simp

/-- The lines shown are those of the values that there are. -/
theorem join_valueLine (jobs : List Job) :
    String.join (jobs.map valueLine) =
      String.join ((jobs.filterMap fun job => (evaluate job.source).toOption).map fun value =>
        Decimal.ofInt value.toInt ++ "\n") := by
  induction jobs with
  | nil => rfl
  | cons job rest ih =>
      rw [List.map_cons, String.join_cons, ih, valueLine]
      cases found : evaluate job.source with
      | ok value => simp [found, Except.toOption]
      | error failure => simp [found, Except.toOption]

end Job

/-- The arguments that ask for the value of one expression, whatever its text. -/
def aloneArguments (verbose : Bool) (source : String) : List String :=
  if verbose then ["eval", "--verbose", "--", source] else ["eval", "--", source]

theorem Request.ofArguments_alone (verbose : Bool) (source : String) :
    Request.ofArguments (aloneArguments verbose source) =
      .ok ⟨.eval (.expression source) verbose, none, .compact, false⟩ := by
  cases verbose <;> rfl

section

variable {read : String → Except ReadError String} {environment : Environment}
  {arguments : List String} {request : Request} {input : Input} {verbose : Bool}

theorem Reply.results_eval (accepted : Request.ofArguments arguments = .ok request)
    (task : request.task = .eval input verbose) :
    (Reply.ofArguments environment read arguments).results =
      String.join ((input.jobList read).map (Task.eval input verbose).shown) := by
  rw [results_ofArguments accepted, task]
  simp only [Task.separator, List.filterMap_nil, List.nil_append]
  rw [Task.flatMap_zipIdx _ fun job => [(Task.eval input verbose).shown job],
    ← List.map_eq_flatMap]
  rfl

theorem Reply.results_alone (verbose : Bool) (source : String) :
    (Reply.ofArguments environment read (aloneArguments verbose source)).results =
      (Task.eval (.expression source) verbose).shown (Job.ofExpression source) := by
  rw [results_eval (Request.ofArguments_alone verbose source) rfl]
  simp [Input.jobList, Task.shown]

/-- Where nothing is logged, the reports of the jobs that fail are all that is written aside. -/
theorem Reply.asides_eval {path contents : String}
    (accepted : Request.ofArguments arguments = .ok request)
    (task : request.task = .eval (.file path) verbose) (found : read path = .ok contents)
    (quiet : request.Quiet environment) (colored : Bool) (timestamp : String) :
    (Reply.ofArguments environment read arguments).asides colored timestamp =
      String.join ((Job.ofContents path contents).filterMap fun job =>
        (Evaluation.ofSource job.source).diagnostic? job.name
          (environment.colorsReports request.noColor)) := by
  have loaded : (Input.file path).jobs read =
      .ok ([.event (.loaded path)], Job.ofContents path contents) := by
    rw [Input.jobs, found]
  obtain ⟨_, _, list⟩ := Input.jobs_eq_ok_iff.mp loaded
  have begun : request.task.opening read = (Input.file path).opening read := by
    rw [task]
    rfl
  rw [asides_of_quiet accepted quiet, diagnostics_of_jobs accepted begun loaded, task, Task.jobs,
    list]
  simp only [Task.report?, Evaluation.diagnostic?, Job.report?_ofSource]

theorem Reply.status_eval {path contents : String}
    (accepted : Request.ofArguments arguments = .ok request)
    (task : request.task = .eval (.file path) verbose) (found : read path = .ok contents) :
    (Reply.ofArguments environment read arguments).status =
      if (Job.ofContents path contents).any fun job => job.failureReport?.isSome then 1 else 0 := by
  rw [status_ofArguments accepted, task]
  simp [Task.fails, Task.jobs, Task.report?, Input.readable, Input.jobList, found, Except.isOk,
    Except.toBool]

section

variable {path : String} {error : ReadError}
  (accepted : Request.ofArguments arguments = .ok request)
  (task : request.task = .eval (.file path) verbose) (failed : read path = .error error)
include accepted task failed

theorem Reply.chunks_of_unreadable :
    (Reply.ofArguments environment read arguments).chunks =
      [.diagnostic ("Error reading file: " ++ error.message ++ "\n")] := by
  rw [ofArguments_eq accepted, Request.run, task]
  simp [Task.run, Input.run, Input.jobs, failed]

theorem Reply.status_of_unreadable : (Reply.ofArguments environment read arguments).status = 1 := by
  rw [ofArguments_eq accepted, Request.run, task]
  simp [Task.run, Input.run, Input.jobs, failed, Output.status]

end

/-- The lines of a file are evaluated in order and each by itself; a file that is no text, or cannot
be read, gives nothing but a diagnostic. -/
theorem eval_file_line_by_line {files : String → Except ReadError ByteArray} {path : String}
    {reply : Reply} (accepted : Request.ofArguments arguments = .ok request)
    (task : request.task = .eval (.file path) verbose)
    (answered : Reply.ofArguments environment (textsIn files) arguments = reply)
    (colored : Bool) (timestamp : String) :
    (∀ contents : String, files path = .ok contents.toUTF8 →
      (∀ job, job ∈ Job.ofContents path contents ↔
        ∃ place line, (linesOf contents.toList)[place]? = some line ∧
          isBlankText (withoutLineEnd line) = false ∧
          job = ⟨path ++ ":" ++ Decimal.ofNat (place + 1), String.ofList (withoutLineEnd line)⟩) ∧
      (verbose = false → reply.results =
        String.join (((Job.ofContents path contents).filterMap fun job =>
          (evaluate job.source).toOption).map fun value => Decimal.ofInt value.toInt ++ "\n")) ∧
      (verbose = true → reply.results =
        String.join ((Job.ofContents path contents).map Job.stageLines)) ∧
      reply.results = String.join ((Job.ofContents path contents).map fun job =>
        (Reply.ofArguments environment (textsIn files)
          (aloneArguments verbose job.source)).results) ∧
      (request.Quiet environment → reply.asides colored timestamp =
        String.join ((Job.ofContents path contents).filterMap fun job =>
          (Evaluation.ofSource job.source).diagnostic? job.name
            (environment.colorsReports request.noColor))) ∧
      (reply.status = 1 ↔
        ∃ job ∈ Job.ofContents path contents, ∃ failure, evaluate job.source = .error failure) ∧
      (reply.status = 0 ↔
        ∀ job ∈ Job.ofContents path contents, ∃ value, evaluate job.source = .ok value)) ∧
    ((∃ error, files path = .error error) ∨
        (∃ bytes, files path = .ok bytes ∧ ¬ bytes.IsValidUTF8) →
      reply.results = "" ∧ reply.status = 1 ∧ ∃ text, reply.chunks = [.diagnostic text]) := by
  subst answered
  constructor
  · intro contents stored
    have found : textsIn files path = .ok contents := by
      rw [textsIn, stored]
      exact textOf_toUTF8 contents
    have results : (Reply.ofArguments environment (textsIn files) arguments).results =
        String.join
          ((Job.ofContents path contents).map (Task.eval (.file path) verbose).shown) := by
      rw [Reply.results_eval accepted task, Input.jobList, found]
    have status : (Reply.ofArguments environment (textsIn files) arguments).status = _ :=
      Reply.status_eval accepted task found
    refine ⟨fun job => Job.mem_ofContents job, ?_, ?_, ?_, ?_, ?_, ?_⟩
    · rintro rfl
      exact results.trans (Job.join_valueLine _)
    · rintro rfl
      exact results
    · rw [results]
      congr 1
      apply List.map_congr_left
      -- What is shown of a job does not depend on its name, so a line shows what it shows alone.
      intro job _
      exact (Reply.results_alone verbose job.source).symm
    · intro quiet
      exact Reply.asides_eval accepted task found quiet colored timestamp
    · simp [status, Job.isSome_failureReport?_iff]
    · simp [status, Job.failureReport?_eq_none_iff]
  · intro unreadable
    have failed : ∃ error, textsIn files path = .error error := by
      rcases unreadable with ⟨error, failed⟩ | ⟨bytes, stored, invalid⟩
      · exact ⟨error, by rw [textsIn, failed]; rfl⟩
      · exact ⟨.notText, by rw [textsIn, stored]; exact textOf_of_not_isValidUTF8 invalid⟩
    obtain ⟨error, failed⟩ := failed
    have written : (Reply.ofArguments environment (textsIn files) arguments).chunks = _ :=
      Reply.chunks_of_unreadable accepted task failed
    refine ⟨?_, Reply.status_of_unreadable accepted task failed, _, written⟩
    rw [Reply.results, written]
    rfl

end

theorem eval_file_of_four_lines :
    ∃ stored spoilt : Reply,
      Reply.ofArguments ⟨none, none⟩ (textsIn fun _ => .ok "1 + 2\n\n+\n4".toUTF8)
        ["eval", "--file", "sums"] = stored ∧
      Reply.ofArguments ⟨none, none⟩ (textsIn fun _ => .ok ⟨#[0xff]⟩)
        ["eval", "--file", "sums"] = spoilt ∧
      stored.results = "3\n4\n" ∧ stored.status = 1 ∧
      some (stored.asides true "") = (Evaluation.ofSource "+").diagnostic? "sums:3" true ∧
      spoilt.results = "" ∧ spoilt.status = 1 := by
  have accepted : Request.ofArguments ["eval", "--file", "sums"] =
      .ok ⟨.eval (.file "sums") false, none, .compact, false⟩ := rfl
  have jobs : Job.ofContents "sums" "1 + 2\n\n+\n4" =
      [⟨"sums:1", "1 + 2"⟩, ⟨"sums:3", "+"⟩, ⟨"sums:4", "4"⟩] := rfl
  refine ⟨_, _, rfl, rfl, ?_⟩
  have stored : Reply.ofArguments ⟨none, none⟩ (textsIn fun _ => .ok "1 + 2\n\n+\n4".toUTF8)
      ["eval", "--file", "sums"] = _ := rfl
  have spoilt : Reply.ofArguments ⟨none, none⟩ (textsIn fun _ => .ok ⟨#[0xff]⟩)
      ["eval", "--file", "sums"] = _ := rfl
  obtain ⟨_, values, _, _, reports, failed, _⟩ :=
    (eval_file_line_by_line accepted rfl stored true "").1 _ rfl
  obtain ⟨nothing, ended, _⟩ :=
    (eval_file_line_by_line accepted rfl spoilt true "").2 (.inr ⟨_, rfl, by decide⟩)
  rw [jobs] at values reports failed
  refine ⟨(values rfl).trans (by decide +kernel), failed.mpr ?_, ?_, nothing, ended⟩
  · exact ⟨⟨"sums:3", "+"⟩, by decide, .sum (.invalidToken (.operator .plus) 0), by decide +kernel⟩
  · rw [reports (.inr rfl)]
    decide +kernel

end FlatSum
