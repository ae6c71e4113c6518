import FlatSum.Proofs.ReplyRun
import FlatSum.Proofs.TunedArguments

namespace FlatSum

/-! What the options of logging and colour decide. Two command lines for one task show the same
results and end alike, and their diagnostics differ in colour at most. The log is told job by job
between the diagnostics, if it is told at all. Arguments that differ in such options alone are
command lines for one task. -/

variable {read : String → Except ReadError String} {environment other : Environment}
  {plain arguments variant : List String} {request tuned : Request}

namespace Reply

/-- Leaving the lines of the log out leaves the diagnostics, whatever was logged. -/
theorem diagnostics_writes (colored : Bool) (timestamp : String) (reply : Reply) :
    (reply.writes colored timestamp).filterMap Aside.diagnostic? =
      reply.chunks.filterMap fun chunk =>
        match chunk with
        | .diagnostic text => some text
        | .result _ | .event _ => none := by
  rw [writes, List.filterMap_filterMap]
  congr 1
  funext chunk
  cases chunk with
  | result text => rfl
  | diagnostic text => rfl
  | event emitted =>
      rw [Chunk.write?]
      split <;> rfl

section Tasks

variable (accepted : Request.ofArguments arguments = .ok request)
  (accepted' : Request.ofArguments variant = .ok tuned) (same : tuned.task = request.task)

include accepted accepted' same

theorem results_of_task :
    (ofArguments other read variant).results = (ofArguments environment read arguments).results := by
  rw [results_ofArguments accepted, results_ofArguments accepted', same]

theorem status_of_task :
    (ofArguments other read variant).status = (ofArguments environment read arguments).status := by
  rw [status_ofArguments accepted, status_ofArguments accepted', same]

/-- Colour is all that may set the diagnostics apart. -/
theorem diagnostics_of_task
    (colors : other.colorsReports tuned.noColor = environment.colorsReports request.noColor)
    (colored colored' : Bool) (timestamp timestamp' : String) :
    ((ofArguments other read variant).writes colored' timestamp').filterMap Aside.diagnostic? =
      ((ofArguments environment read arguments).writes colored timestamp).filterMap
        Aside.diagnostic? := by
  rw [diagnostics_writes, diagnostics_writes, ofArguments_eq accepted, ofArguments_eq accepted',
    Request.run, Request.run, same, colors]

end Tasks

end Reply

/-- Logging and colour have no bearing on what is found, only on what is told of it and how it is
drawn. -/
theorem log_options_leave_results {reply reply' : Reply}
    (accepted : Request.ofArguments arguments = .ok request)
    (accepted' : Request.ofArguments variant = .ok tuned) (same : tuned.task = request.task)
    (answered : Reply.ofArguments environment read arguments = reply)
    (answered' : Reply.ofArguments other read variant = reply')
    (colored colored' : Bool) (timestamp timestamp' : String) :
    reply'.results = reply.results ∧
    reply'.status = reply.status ∧
    (other.colorsReports tuned.noColor = environment.colorsReports request.noColor →
      (reply'.writes colored' timestamp').filterMap Aside.diagnostic? =
        (reply.writes colored timestamp).filterMap Aside.diagnostic?) ∧
    reply.asides colored timestamp =
      String.join ((reply.writes colored timestamp).map Aside.text) ∧
    reply.writes colored timestamp =
      (request.task.opening read).filterMap
          (Chunk.write? (request.settings environment) (request.style colored timestamp)) ++
        ((request.task.jobs read).flatMap fun job =>
          (keptEvents (request.settings environment) (Evaluation.events job.source)).map
              (fun event => .line ((request.style colored timestamp).render event)) ++
            ((request.task.report? job).map fun report =>
              Aside.diagnostic
                (report.render (environment.colorsReports request.noColor))).toList) ∧
    (request.Quiet environment →
      ∀ write ∈ reply.writes colored timestamp, ∃ text, write = .diagnostic text) := by
  subst answered answered'
  refine ⟨Reply.results_of_task accepted accepted' same,
    Reply.status_of_task accepted accepted' same, fun colors => ?_, Reply.asides_eq ..,
    Reply.writes_ofArguments accepted .., fun quiet write member => ?_⟩
  · exact Reply.diagnostics_of_task accepted accepted' same colors ..
  · exact Reply.diagnostic_of_quiet quiet accepted colored timestamp member

theorem log_options_of_two_lines :
    ∃ quiet told : Reply,
      Reply.ofArguments ⟨none, none⟩ (fun _ => .ok "1 +\n2")
        ["eval", "--file=sums", "--no-color"] = quiet ∧
      Reply.ofArguments ⟨some "error".toUTF8, some ⟨#[]⟩⟩ (fun _ => .ok "1 +\n2")
        ["--log-level", "trace", "eval", "-f", "sums", "--log-format", "json"] = told ∧
      told.results = quiet.results ∧ told.status = quiet.status ∧
      (told.writes true "0").filterMap Aside.diagnostic? =
        (quiet.writes false "").filterMap Aside.diagnostic? ∧
      ∀ write ∈ quiet.writes false "", ∃ text, write = .diagnostic text := by
  have accepted : Request.ofArguments ["eval", "--file=sums", "--no-color"] =
      .ok ⟨.eval (.file "sums") false, none, .compact, true⟩ := rfl
  have accepted' : Request.ofArguments
        ["--log-level", "trace", "eval", "-f", "sums", "--log-format", "json"] =
      .ok ⟨.eval (.file "sums") false, some .trace, .json, false⟩ := rfl
  refine ⟨_, _, rfl, rfl, ?_⟩
  obtain ⟨results, status, diagnostics, _, _, silent⟩ :=
    log_options_leave_results accepted accepted' rfl rfl rfl false true "" "0"
  exact ⟨results, status, diagnostics rfl, silent (.inr rfl)⟩

/-- The same of the arguments themselves: whichever options of the log and of colour are put into a
command line, and wherever, the answers to what is accepted agree. -/
theorem Tuned.replies_agree (grown : Tuned plain arguments) (grown' : Tuned plain variant)
    (accepted : Request.ofArguments arguments = .ok request)
    (accepted' : Request.ofArguments variant = .ok tuned) :
    (Reply.ofArguments other read variant).results =
        (Reply.ofArguments environment read arguments).results ∧
      (Reply.ofArguments other read variant).status =
        (Reply.ofArguments environment read arguments).status ∧
      (other.colorsReports tuned.noColor = environment.colorsReports request.noColor →
        ∀ colored colored' timestamp timestamp',
          ((Reply.ofArguments other read variant).writes colored' timestamp').filterMap
              Aside.diagnostic? =
            ((Reply.ofArguments environment read arguments).writes colored timestamp).filterMap
              Aside.diagnostic?) := by
  have same := grown.task_eq grown' accepted accepted'
  exact ⟨Reply.results_of_task accepted accepted' same,
    Reply.status_of_task accepted accepted' same,
    fun colors => Reply.diagnostics_of_task accepted accepted' same colors⟩

example : Tuned ["eval", "-f", "sums"]
    ["--log-level=trace", "eval", "-f", "sums", "--no-color"] :=
  @Tuned.insert _ [] _ .fresh (.level true .trace)
    (@Tuned.insert _ ["eval", "-f", "sums"] [] _ .noColor .refl rfl rfl) rfl rfl

end FlatSum
