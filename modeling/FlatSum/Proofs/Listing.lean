import FlatSum.Proofs.LogOptions
import FlatSum.Proofs.TokenRows

namespace FlatSum

/-! Listing the tokens of expressions. Each job is evaluated in full, and of all the failures only
those count and are reported that leave a text unread. -/

variable {read : String → Except ReadError String} {environment : Environment}
  {arguments : List String} {request : Request} {input : Input} {opened : List Chunk}
  {jobs : List Job} {positions : Bool} {reply : Reply}

namespace Job

variable (job : Job)

/-- Whether reading the text of the job ends in a fault. -/
def misread : Bool := !(Scan.ofText job.source.toList).result.isOk

/-- What a failed evaluation of the job writes, as it is drawn. -/
def rendering? (colored : Bool) : Option String :=
  (Evaluation.ofSource job.source).diagnostic? job.name colored

theorem misread_iff :
    job.misread = true ↔ ∃ fault, (Scan.ofText job.source.toList).result = .error fault := by
  rw [misread]
  cases (Scan.ofText job.source.toList).result <;> simp [Except.isOk, Except.toBool]

theorem misread_eq_false_iff :
    job.misread = false ↔ ∃ nodes, (Scan.ofText job.source.toList).result = .ok nodes := by
  rw [misread]
  cases (Scan.ofText job.source.toList).result <;> simp [Except.isOk, Except.toBool]

theorem scanReport?_eq : job.scanReport? = if job.misread then job.failureReport? else none := by
  rw [scanReport?, misread, failureReport?, ← Evaluation.result_ofSource]
  cases found : (Scan.ofText job.source.toList).result with
  | ok nodes => rfl
  | error fault =>
      rw [Evaluation.ofSource_of_fault found]
      rfl

theorem rendering?_eq (colored : Bool) :
    job.rendering? colored = job.failureReport?.map (·.render colored) := by
  rw [rendering?, Evaluation.diagnostic?, report?_ofSource]

theorem rendering?_of_fault {fault : ScanError}
    (found : (Scan.ofText job.source.toList).result = .error fault) (colored : Bool) :
    job.rendering? colored = some (Report.render
      ⟨.scan fault, some (fault.span job.source.toList), job.name, job.source⟩ colored) := by
  rw [rendering?, Evaluation.ofSource_of_fault found]
  rfl

theorem isSome_failureReport?_of_misread (unread : job.misread = true) :
    job.failureReport?.isSome = true := by
  obtain ⟨fault, found⟩ := job.misread_iff.mp unread
  have drawn := job.rendering?_of_fault found false
  rw [rendering?_eq, Option.map_eq_some_iff] at drawn
  obtain ⟨report, failed, _⟩ := drawn
  rw [failed]
  rfl

end Job

namespace TokenTable

theorem length_lines (positions : Bool) (index : Nat) (nodes : List (Spanned Token)) :
    (lines positions index nodes).length = nodes.length := by
  rw [lines, List.length_map, List.length_zipIdx]

theorem getElem?_lines (positions : Bool) (index : Nat) (nodes : List (Spanned Token))
    (place : Nat) :
    (lines positions index nodes)[place]? =
      nodes[place]?.map (line positions (index + place)) := by
  rw [lines, List.getElem?_map, List.getElem?_zipIdx]
  cases nodes[place]? <;> rfl

end TokenTable

/-- What is shown of a job when its tokens are listed. -/
def Job.block (positions : Bool) (job : Job) : String :=
  TokenTable.block positions job.name (Evaluation.ofSource job.source).nodes

/-- A block has a row for each token, numbered in order, and then their count; it has none where the
text could not be read. -/
structure Job.Listed (positions : Bool) (job : Job) (rows : List String) : Prop where
  text : job.block positions = "Tokens for " ++ job.name ++ ":\n\n" ++ TokenTable.rule ++
    TokenTable.printed rows ++ TokenTable.rule ++ "\nTotal tokens: " ++ Decimal.ofNat rows.length ++
      "\n"
  oneLine : ∀ row ∈ rows, OneLine row
  count : ∀ nodes, (Scan.ofText job.source.toList).result = .ok nodes → rows.length = nodes.length
  row : ∀ nodes, (Scan.ofText job.source.toList).result = .ok nodes →
    ∀ index node, nodes[index]? = some node →
      rows[index]? = some (TokenTable.line positions index node)
  none : job.misread = true → rows = []

theorem Job.listed (positions : Bool) (job : Job) :
    job.Listed positions (TokenTable.lines positions 0 (Evaluation.ofSource job.source).nodes) where
  text := by rw [block, TokenTable.block_eq, TokenTable.length_lines]
  oneLine := by
    intro row member
    obtain ⟨node, _, rfl⟩ := List.mem_map.mp member
    exact TokenTable.oneLine_line positions node.2 node.1
  count := by
    intro nodes found
    rw [TokenTable.length_lines, Evaluation.nodes_eq, found]
  row := by
    intro nodes found index node member
    rw [TokenTable.getElem?_lines, Evaluation.nodes_eq, found, Nat.zero_add]
    exact congrArg _ member
  none := by
    intro unread
    obtain ⟨fault, found⟩ := job.misread_iff.mp unread
    rw [Evaluation.ofSource_of_fault found]
    rfl

/-- With places, jobs of one name have one block only if they have the same tokens. -/
theorem Job.nodes_eq_of_block {job other : Job} (named : job.name = other.name)
    (same : job.block true = other.block true) :
    (Evaluation.ofSource job.source).nodes = (Evaluation.ofSource other.source).nodes := by
  rw [block, block, named] at same
  exact TokenTable.block_injective same

namespace Reply

theorem diagnostics_eval_of_jobs {verbose : Bool}
    (accepted : Request.ofArguments arguments = .ok request)
    (task : request.task = .eval input verbose) (loaded : input.jobs read = .ok (opened, jobs))
    (colored : Bool) (timestamp : String) :
    ((Reply.ofArguments environment read arguments).writes colored timestamp).filterMap
        Aside.diagnostic? =
      jobs.filterMap fun job => job.rendering? (environment.colorsReports request.noColor) := by
  obtain ⟨_, _, list⟩ := Input.jobs_eq_ok_iff.mp loaded
  have begun : request.task.opening read = input.opening read := by
    rw [task]
    rfl
  rw [diagnostics_of_jobs accepted begun loaded, task, Task.jobs, list]
  simp only [Task.report?, Job.rendering?_eq]

theorem diagnostics_lex_of_jobs (accepted : Request.ofArguments arguments = .ok request)
    (task : request.task = .lex input positions) (loaded : input.jobs read = .ok (opened, jobs))
    (colored : Bool) (timestamp : String) :
    ((Reply.ofArguments environment read arguments).writes colored timestamp).filterMap
        Aside.diagnostic? =
      (jobs.filter Job.misread).filterMap fun job =>
        job.rendering? (environment.colorsReports request.noColor) := by
  obtain ⟨_, _, list⟩ := Input.jobs_eq_ok_iff.mp loaded
  have begun : request.task.opening read = input.opening read := by
    rw [task]
    rfl
  rw [diagnostics_of_jobs accepted begun loaded, task, Task.jobs, list, List.filterMap_filter]
  apply List.filterMap_congr
  intro job _
  rw [Task.report?, Job.scanReport?_eq, Job.rendering?_eq]
  split <;> rfl

theorem status_eval_of_jobs {verbose : Bool}
    (accepted : Request.ofArguments arguments = .ok request)
    (task : request.task = .eval input verbose) (loaded : input.jobs read = .ok (opened, jobs)) :
    (Reply.ofArguments environment read arguments).status =
      if jobs.any fun job => job.failureReport?.isSome then 1 else 0 := by
  obtain ⟨readable, _, list⟩ := Input.jobs_eq_ok_iff.mp loaded
  rw [status_ofArguments accepted, task, Task.fails, Task.jobs, readable, list]
  rfl

theorem status_lex_of_jobs (accepted : Request.ofArguments arguments = .ok request)
    (task : request.task = .lex input positions) (loaded : input.jobs read = .ok (opened, jobs)) :
    (Reply.ofArguments environment read arguments).status =
      if jobs.any Job.misread then 1 else 0 := by
  obtain ⟨readable, _, list⟩ := Input.jobs_eq_ok_iff.mp loaded
  have reported : ∀ job : Job, job.scanReport?.isSome = job.misread := by
    intro job
    rw [Job.scanReport?, Job.misread]
    cases (Scan.ofText job.source.toList).result <;> rfl
  rw [status_ofArguments accepted, task, Task.fails, Task.jobs, readable, list]
  simp only [Task.report?, reported, Bool.not_true, Bool.false_or]

theorem results_lex_of_jobs (accepted : Request.ofArguments arguments = .ok request)
    (task : request.task = .lex input positions) (loaded : input.jobs read = .ok (opened, jobs)) :
    (Reply.ofArguments environment read arguments).results =
      String.join (jobs.map (Job.block positions)) := by
  obtain ⟨_, _, list⟩ := Input.jobs_eq_ok_iff.mp loaded
  rw [results_ofArguments accepted, task]
  simp only [Task.separator, List.filterMap_nil, List.nil_append, Task.jobs, list]
  rw [Task.flatMap_zipIdx _ fun job => [(Task.lex input positions).shown job],
    ← List.map_eq_flatMap]
  rfl

end Reply

/-- Tokens are listed job by job. Only jobs that cannot be read make the listing fail and are
reported, as they are when evaluated; and places make a listing faithful. -/
theorem tokens_listed (accepted : Request.ofArguments arguments = .ok request)
    (task : request.task = .lex input positions) (loaded : input.jobs read = .ok (opened, jobs))
    (answered : Reply.ofArguments environment read arguments = reply)
    (colored : Bool) (timestamp : String) :
    (reply.status = 1 ↔
      ∃ job ∈ jobs, ∃ fault, (Scan.ofText job.source.toList).result = .error fault) ∧
    (reply.status = 0 ↔
      ∀ job ∈ jobs, ∃ nodes, (Scan.ofText job.source.toList).result = .ok nodes) ∧
    (∀ job ∈ jobs, ∀ fault, (Scan.ofText job.source.toList).result = .error fault →
      ∀ inked, job.rendering? inked = some (Report.render
        ⟨.scan fault, some (fault.span job.source.toList), job.name, job.source⟩ inked)) ∧
    (reply.writes colored timestamp).filterMap Aside.diagnostic? =
      ((jobs.filter Job.misread).filterMap fun job =>
        job.rendering? (environment.colorsReports request.noColor)) ∧
    (request.Quiet environment → reply.asides colored timestamp =
      String.join ((jobs.filter Job.misread).filterMap fun job =>
        job.rendering? (environment.colorsReports request.noColor))) ∧
    (∀ {variant : List String} {tuned : Request} {other : Environment} {verbose : Bool},
      Request.ofArguments variant = .ok tuned → tuned.task = .eval input verbose →
        (reply.status = 1 → (Reply.ofArguments other read variant).status = 1) ∧
        ((Reply.ofArguments other read variant).writes colored timestamp).filterMap
            Aside.diagnostic? =
          jobs.filterMap fun job => job.rendering? (other.colorsReports tuned.noColor)) ∧
    reply.results = String.join (jobs.map (Job.block positions)) ∧
    (∀ job ∈ jobs, ∃ rows, job.Listed positions rows) ∧
    (∀ job other : Job, job.name = other.name → job.block true = other.block true →
      (Evaluation.ofSource job.source).nodes = (Evaluation.ofSource other.source).nodes) := by
  subst answered
  have status : (Reply.ofArguments environment read arguments).status = _ :=
    Reply.status_lex_of_jobs accepted task loaded
  have failed : (Reply.ofArguments environment read arguments).status = 1 ↔
      ∃ job ∈ jobs, job.misread = true := by
    rw [status, ← List.any_eq_true]
    cases jobs.any Job.misread <;> decide
  have reports : ((Reply.ofArguments environment read arguments).writes colored
      timestamp).filterMap Aside.diagnostic? = _ :=
    Reply.diagnostics_lex_of_jobs accepted task loaded colored timestamp
  refine ⟨?_, ?_, ?_, reports, ?_, ?_, ?_, ?_, ?_⟩
  · simp only [failed, Job.misread_iff]
  · simp [status, Job.misread_eq_false_iff]
  · intro job _ fault found inked
    exact job.rendering?_of_fault found inked
  · intro quiet
    rw [Reply.asides_of_quiet accepted quiet, reports]
  · intro variant tuned other verbose accepted' task'
    refine ⟨?_, Reply.diagnostics_eval_of_jobs accepted' task' loaded colored timestamp⟩
    intro ended
    obtain ⟨job, member, unread⟩ := failed.mp ended
    rw [Reply.status_eval_of_jobs accepted' task' loaded, if_pos]
    exact List.any_eq_true.mpr ⟨job, member, job.isSome_failureReport?_of_misread unread⟩
  · exact Reply.results_lex_of_jobs accepted task loaded
  · intro job _
    exact ⟨_, job.listed positions⟩
  · intro job other named same
    exact Job.nodes_eq_of_block named same

theorem tokens_listed_of_two_lines :
    ∃ listed summed : Reply,
      Reply.ofArguments ⟨none, none⟩ (fun _ => .ok "1 +\n2^") ["lex", "-p", "--file", "sums"] =
        listed ∧
      Reply.ofArguments ⟨none, none⟩ (fun _ => .ok "1 +\n2^") ["eval", "--file", "sums"] = summed ∧
      listed.status = 1 ∧ summed.status = 1 ∧
      some (listed.asides true "") = Job.rendering? ⟨"sums:2", "2^"⟩ true ∧
      listed.results = Job.block true ⟨"sums:1", "1 +"⟩ ++ Job.block true ⟨"sums:2", "2^"⟩ ∧
      (Evaluation.ofSource "1 +").nodes = (Evaluation.ofSource "1 + ").nodes := by
  have accepted : Request.ofArguments ["lex", "-p", "--file", "sums"] =
      .ok ⟨.lex (.file "sums") true, none, .compact, false⟩ := rfl
  have accepted' : Request.ofArguments ["eval", "--file", "sums"] =
      .ok ⟨.eval (.file "sums") false, none, .compact, false⟩ := rfl
  have loaded : (Input.file "sums").jobs (fun _ => .ok "1 +\n2^") =
      .ok ([.event (.loaded "sums")], [⟨"sums:1", "1 +"⟩, ⟨"sums:2", "2^"⟩]) := rfl
  refine ⟨_, _, rfl, rfl, ?_⟩
  have listed : Reply.ofArguments ⟨none, none⟩ (fun _ => .ok "1 +\n2^")
      ["lex", "-p", "--file", "sums"] = _ := rfl
  obtain ⟨failed, _, _, _, reports, evaluated, results, _, faithful⟩ :=
    tokens_listed accepted rfl loaded listed true ""
  have ended := failed.mpr ⟨⟨"sums:2", "2^"⟩, by decide, .invalidCharacter '^' 1, by
    rw [Scan.result_eq_error_iff]
    decide +kernel⟩
  refine ⟨ended, (evaluated accepted' rfl).1 ended, ?_, results, ?_⟩
  · rw [reports (.inr rfl)]
    decide +kernel
  · exact faithful ⟨"sums", "1 +"⟩ ⟨"sums", "1 + "⟩ rfl (by decide +kernel)

end FlatSum
