import ChannelSync.Proofs.Run.Shape

/-
  The writes of runs.

  A program that only reads writes nothing, and a request
  that asks for a change is a write whether it is granted or
  not.  The writes of two parts come one after the other, as
  far as the run came.

  Key theorems include:
    * `Program.writes_of_reads` and `Program.writes_send`
    * `Program.writes_bind_of_returns`
    * `Program.writes_bind_of_reads`
    * `Program.writes_bind_starts` and
      `Program.mem_writes_bind`
-/

------------------------------------------------------------
-- Writes of Traces
------------------------------------------------------------

namespace ChannelSync

variable {σ α : Type}

/- What is put before a run adds its writes in front. -/
theorem Run.writes_after
    (trace : List Mark)
    (run : Run σ α) :
    (run.after trace).writes =
      (⟨run.result, run.state, trace⟩ : Run σ α).writes ++
        run.writes := by
  simp only [Run.writes, Run.requests,
    Program.exchanges_after, List.map_append,
    List.filter_append]

/- Only the trace matters for the writes. -/
theorem Run.writes_congr
    {β : Type}
    {run : Run σ α}
    {run' : Run σ β}
    (h : run.trace = run'.trace) :
    run.writes = run'.writes := by
  simp only [Run.writes, Run.requests, Run.exchanges, h]

end ChannelSync

------------------------------------------------------------
-- Writes of Programs
------------------------------------------------------------

namespace ChannelSync

namespace Program

variable {σ α β : Type}
variable {remote : Remote σ}
variable {s : σ}

/- A program that only reads writes nothing. -/
theorem writes_of_reads
    {p : Program α}
    (h : p.Reads)
    (s : σ) :
    (p.run remote s).writes = [] :=
  Run.writes_eq_nil (h.requests s)

/- A request writes what it asks for. -/
theorem writes_send
    (request : Request)
    (s : σ) :
    ((send request).run remote s).writes =
      [request].filter Request.isWrite := by
  rw [run_send]
  rfl

/- An attempt has the writes of the program. -/
theorem writes_attempt
    (p : Program α)
    (s : σ) :
    (p.attempt.run remote s).writes =
      (p.run remote s).writes := by
  apply Run.writes_congr
  rw [run_attempt]

/- After a part that returns come the writes of the next. -/
theorem writes_bind_of_returns
    {p : Program α}
    {next : α → Program β}
    {a : α}
    {middle : σ}
    (h : p.Returns remote s a middle) :
    ((p >>= next).run remote s).writes =
      (p.run remote s).writes ++
        ((next a).run remote middle).writes := by
  rw [bind_eq, run_bind, h.result_eq, h.state_eq]
  exact Run.writes_after _ _

/- After a part with a problem comes nothing. -/
theorem writes_bind_of_error
    {p : Program α}
    {next : α → Program β}
    {problem : Problem}
    (h : (p.run remote s).result = .error problem) :
    ((p >>= next).run remote s).writes =
      (p.run remote s).writes := by
  rw [bind_eq, run_bind, h]
  rfl

/- What only reads adds nothing to what comes before. -/
theorem writes_bind_of_reads
    {p : Program α}
    {next : α → Program β}
    (hNext : ∀ a, (next a).Reads) :
    ((p >>= next).run remote s).writes =
      (p.run remote s).writes := by
  cases hResult : (p.run remote s).result with
  | error problem => exact writes_bind_of_error hResult
  | ok a =>
      rw [writes_bind_of_returns ⟨hResult, rfl⟩,
        writes_of_reads (hNext a), List.append_nil]

/- An event writes nothing. -/
theorem writes_record_bind
    {event : Event}
    {next : Unit → Program α} :
    ((record event >>= next).run remote s).writes =
      ((next ()).run remote s).writes := by
  rw [writes_bind_of_returns (returns_record.mpr rfl)]
  exact List.nil_append _

/- Reporting a failure writes nothing more. -/
theorem writes_reporting
    (p : Program α)
    (event : Failure → Event)
    (s : σ) :
    ((p.reporting event).run remote s).writes =
      (p.run remote s).writes := by
  have hEnds :=
    ends_reporting.mp
      (ends_run remote (p.reporting event) s)
  simp only [Run.writes, Run.requests, hEnds.exchanges_eq]

/- What a silent run goes on with has all the writes. -/
theorem Silent.writes_bind
    {p : Program α}
    {next : α → Program β}
    {a : α}
    (h : p.Silent remote s a) :
    ((p >>= next).run remote s).writes =
      ((next a).run remote s).writes := by
  rw [writes_bind_of_returns h.returns, h.writes,
    List.nil_append]

/- The writes of both parts begin with those of the first. -/
theorem writes_bind_starts
    (p : Program α)
    (next : α → Program β) :
    ∃ rest,
      ((p >>= next).run remote s).writes =
        (p.run remote s).writes ++ rest := by
  cases hResult : (p.run remote s).result with
  | error problem =>
      refine ⟨[], ?_⟩
      rw [writes_bind_of_error hResult, List.append_nil]
  | ok a =>
      exact ⟨_, writes_bind_of_returns
        ⟨hResult, rfl⟩⟩

/- So the first write of the first part stays the first. -/
theorem writes_bind_head
    {p : Program α}
    {next : α → Program β}
    {request : Request}
    (h : (p.run remote s).writes.head? = some request) :
    ((p >>= next).run remote s).writes.head? =
      some request := by
  rcases writes_bind_starts p next with
    ⟨rest, hRest⟩
  rw [hRest, List.head?_append, h]
  rfl

/- A reported request for a change writes itself. -/
theorem writes_change
    (request : Request)
    (h : request.isWrite = true)
    (event : Failure → Event)
    (s : σ) :
    (((send request).reporting event).run remote s).writes =
      [request] := by
  rw [writes_reporting, writes_send,
    List.filter_cons_of_pos h, List.filter_nil]

/- What one part writes is among the writes of both. -/
theorem mem_writes_bind
    {p : Program α}
    {next : α → Program β}
    {request : Request}
    (h : request ∈ (p.run remote s).writes) :
    request ∈ ((p >>= next).run remote s).writes := by
  rcases writes_bind_starts p next with
    ⟨rest, hRest⟩
  rw [hRest]
  exact List.mem_append_left rest h

end Program

end ChannelSync
