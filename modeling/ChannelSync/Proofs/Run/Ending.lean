import ChannelSync.Program

/-
  How runs end.

  The ending of a run is its result, the state after it and
  the exchanges of its trace.  Events are left out of it:
  what a program puts on record does not change how its runs
  end.  An ending is built up from the endings of the parts
  of a program, and falls apart into them.

  Often only the value matters that a run returns, or the
  problem that it stops at, and the state that it leaves
  behind.

  Key definitions include:
    * `Program.Ends`
    * `Program.Returns`
    * `Program.Stops`

  Key theorems include:
    * `Program.ends_bind`
    * `Program.ends_bind_ok`
    * `Program.ends_send`
    * `Program.ends_attempt`
    * `Program.returns_bind`
-/

------------------------------------------------------------
-- Results of Computations
------------------------------------------------------------

namespace ChannelSync

/- A computation without a fault keeps its value. -/
theorem mapError_eq_ok
    {value : Except Fault α}
    {a : α} :
    value.mapError Problem.fault = .ok a ↔
      value = .ok a := by
  cases value with
  | ok b =>
      constructor
      · intro h
        exact congrArg Except.ok (Except.ok.inj h)
      · intro h
        exact congrArg Except.ok (Except.ok.inj h)
  | error fault =>
      constructor
      · intro h
        exact nomatch h
      · intro h
        cases h

end ChannelSync

------------------------------------------------------------
-- Endings
------------------------------------------------------------

namespace ChannelSync

namespace Program

variable {σ α β : Type}

/- A run of a program from a state ends like this. -/
structure Ends
    (remote : Remote σ)
    (p : Program α)
    (s : σ)
    (result : Except Problem α)
    (after : σ)
    (exchanges : List Exchange) :
    Prop where
  result_eq : (p.run remote s).result = result
  state_eq : (p.run remote s).state = after
  exchanges_eq : (p.run remote s).exchanges = exchanges

variable {remote : Remote σ}
variable {s after : σ}
variable {exchanges : List Exchange}

/- Every run ends in some way. -/
theorem ends_run
    (remote : Remote σ)
    (p : Program α)
    (s : σ) :
    p.Ends remote s (p.run remote s).result
      (p.run remote s).state
      (p.run remote s).exchanges :=
  ⟨rfl, rfl, rfl⟩

/- A run that has a result ends with it. -/
theorem ends_of_result
    {p : Program α}
    {result : Except Problem α}
    (h : (p.run remote s).result = result) :
    p.Ends remote s result (p.run remote s).state
      (p.run remote s).exchanges :=
  ⟨h, rfl, rfl⟩

/- A run ends in one way only. -/
theorem Ends.unique
    {p : Program α}
    {result result' : Except Problem α}
    {after' : σ}
    {exchanges' : List Exchange}
    (h : p.Ends remote s result after exchanges)
    (h' : p.Ends remote s result' after' exchanges') :
    result = result' ∧ after = after' ∧
      exchanges = exchanges' :=
  ⟨h.result_eq.symm.trans h'.result_eq,
    h.state_eq.symm.trans h'.state_eq,
    h.exchanges_eq.symm.trans h'.exchanges_eq⟩

end Program

end ChannelSync

------------------------------------------------------------
-- Endings of Simple Programs
------------------------------------------------------------

namespace ChannelSync

namespace Program

variable {σ α β : Type}
variable {remote : Remote σ}
variable {s after : σ}
variable {exchanges : List Exchange}

/- A program that is done ends where it starts. -/
@[simp]
theorem ends_done
    {result result' : Except Problem α} :
    (done result).Ends remote s result' after exchanges ↔
      result' = result ∧ after = s ∧ exchanges = [] := by
  constructor
  · intro h
    rcases h with ⟨rfl, rfl, rfl⟩
    exact ⟨rfl, rfl, rfl⟩
  · intro h
    rcases h with ⟨rfl, rfl, rfl⟩
    exact ⟨rfl, rfl, rfl⟩

/- A block that only answers ends with its answer. -/
@[simp]
theorem ends_pure
    {a : α}
    {result : Except Problem α} :
    (pure a : Program α).Ends remote s result after
        exchanges ↔
      result = .ok a ∧ after = s ∧ exchanges = [] :=
  ends_done

/- So it ends where it starts. -/
theorem ends_pure_self
    {a : α} :
    (pure a : Program α).Ends remote s (.ok a) s [] :=
  ends_pure.mpr ⟨rfl, rfl, rfl⟩

/- A failing program ends with the failure. -/
@[simp]
theorem ends_fail
    {failure : Failure}
    {result : Except Problem α} :
    (fail failure : Program α).Ends remote s result after
        exchanges ↔
      result = .error (.failure failure) ∧ after = s ∧
        exchanges = [] :=
  ends_done

/- An aborted program ends with the fault. -/
@[simp]
theorem ends_abort
    {fault : Fault}
    {result : Except Problem α} :
    (abort fault : Program α).Ends remote s result after
        exchanges ↔
      result = .error (.fault fault) ∧ after = s ∧
        exchanges = [] :=
  ends_done

/- A computation ends with its value or its fault. -/
@[simp]
theorem ends_lift
    {value : Except Fault α}
    {result : Except Problem α} :
    (lift value).Ends remote s result after exchanges ↔
      result = value.mapError .fault ∧ after = s ∧
        exchanges = [] := by
  cases value with
  | ok a => exact ends_done
  | error fault => exact ends_done

/- An event leaves no trace in an ending. -/
@[simp]
theorem ends_record
    {event : Event}
    {result : Except Problem Unit} :
    (record event).Ends remote s result after exchanges ↔
      result = .ok () ∧ after = s ∧ exchanges = [] := by
  constructor
  · intro h
    rcases h with ⟨rfl, rfl, rfl⟩
    exact ⟨rfl, rfl, rfl⟩
  · intro h
    rcases h with ⟨rfl, rfl, rfl⟩
    exact ⟨rfl, rfl, rfl⟩

/- The greatest number of pages is a matter of the state. -/
@[simp]
theorem ends_pageBound
    {listing : Listing}
    {limit : Datum}
    {result : Except Problem Nat} :
    (pageBound listing limit).Ends remote s result after
        exchanges ↔
      result = .ok (remote.pageBound s listing limit) ∧
        after = s ∧ exchanges = [] := by
  constructor
  · intro h
    rcases h with ⟨rfl, rfl, rfl⟩
    exact ⟨rfl, rfl, rfl⟩
  · intro h
    rcases h with ⟨rfl, rfl, rfl⟩
    exact ⟨rfl, rfl, rfl⟩

/- A run of a request is one exchange. -/
theorem run_send
    (remote : Remote σ)
    (request : Request)
    (s : σ) :
    (send request).run remote s =
      ⟨(remote.answer s request).1,
        (remote.answer s request).2,
        [.exchanged
          ⟨request, (remote.answer s request).1⟩]⟩ := by
  simp only [send, run]
  split
  case h_1 answer s' h => simp [h, Run.after]
  case h_2 failure s' h => simp [h, fail, run, Run.after]
  case h_3 fault s' h => simp [h]

/- A request ends with the answer of the remote. -/
@[simp]
theorem ends_send
    {request : Request}
    {result : Except Problem request.Answer} :
    (send request).Ends remote s result after exchanges ↔
      result = (remote.answer s request).1 ∧
        after = (remote.answer s request).2 ∧
        exchanges =
          [⟨request, (remote.answer s request).1⟩] := by
  constructor
  · intro h
    rcases h with ⟨rfl, rfl, rfl⟩
    simp [run_send, Run.exchanges]
  · intro h
    rcases h with ⟨rfl, rfl, rfl⟩
    exact ⟨by rw [run_send], by rw [run_send],
      by simp [run_send, Run.exchanges]⟩

/- An answer of the remote is how the request ends. -/
theorem ends_send_of_answer
    {request : Request}
    {result : Except Problem request.Answer}
    (h : remote.answer s request = (result, after)) :
    (send request).Ends remote s result after
      [⟨request, result⟩] := by
  simp [h]

end Program

end ChannelSync

------------------------------------------------------------
-- Endings of Composed Programs
------------------------------------------------------------

namespace ChannelSync

namespace Program

variable {σ α β : Type}
variable {remote : Remote σ}
variable {s after : σ}
variable {exchanges : List Exchange}

/- More trace before a run means more exchanges before it. -/
theorem exchanges_after
    (trace : List Mark)
    (run : Run σ α) :
    (run.after trace).exchanges =
      (⟨run.result, run.state, trace⟩ :
        Run σ α).exchanges ++ run.exchanges := by
  simp [Run.exchanges, Run.after]

/- An event before a run is no exchange. -/
@[simp]
theorem exchanges_after_noted
    (event : Event)
    (run : Run σ α) :
    (run.after [.noted event]).exchanges =
      run.exchanges := by
  simp [Run.exchanges, Run.after]

/- An exchange before a run comes first. -/
@[simp]
theorem exchanges_after_exchanged
    (x : Exchange)
    (run : Run σ α) :
    (run.after [.exchanged x]).exchanges =
      x :: run.exchanges := by
  simp [Run.exchanges, Run.after]

/- What comes after an event ends as if without it. -/
@[simp]
theorem ends_record_bind
    {event : Event}
    {next : Unit → Program α}
    {result : Except Problem α} :
    (record event >>= next).Ends remote s result after
        exchanges ↔
      (next ()).Ends remote s result after exchanges := by
  have hRun :
      (record event >>= next).run remote s =
        ((next ()).run remote s).after [.noted event] :=
    rfl
  constructor
  · intro h
    rcases h with ⟨rfl, rfl, rfl⟩
    rw [hRun]
    exact ⟨rfl, rfl, (exchanges_after_noted _ _).symm⟩
  · intro h
    rcases h with ⟨rfl, rfl, rfl⟩
    exact ⟨by rw [hRun]; rfl, by rw [hRun]; rfl,
      by rw [hRun]; exact exchanges_after_noted _ _⟩

/-
  Going on ends with a problem of the first part, or else as
  the second part ends from where the first one did.
-/
theorem ends_bind
    {p : Program α}
    {next : α → Program β}
    {result : Except Problem β} :
    (p >>= next).Ends remote s result after exchanges ↔
      (∃ problem,
        p.Ends remote s (.error problem) after exchanges ∧
          result = .error problem) ∨
      ∃ a middle first rest,
        p.Ends remote s (.ok a) middle first ∧
          (next a).Ends remote middle result after rest ∧
          exchanges = first ++ rest := by
  rw [bind_eq]
  have hRun := run_bind remote p next s
  cases hResult : (p.run remote s).result with
  | ok a =>
      rw [hResult] at hRun
      constructor
      · intro h
        rcases h with ⟨rfl, rfl, rfl⟩
        refine Or.inr ⟨a, _, _, _,
          ends_of_result hResult, ⟨?_, ?_, rfl⟩, ?_⟩
        · rw [hRun]
          rfl
        · rw [hRun]
          rfl
        · rw [hRun]
          exact exchanges_after _ _
      · intro h
        rcases h with
          ⟨problem, hEnds, -⟩ |
            ⟨a', middle, first, rest, hFirst, hRest, rfl⟩
        · cases hResult.symm.trans hEnds.result_eq
        · rcases hFirst with ⟨ha, rfl, rfl⟩
          cases hResult.symm.trans ha
          rcases hRest with ⟨rfl, rfl, rfl⟩
          refine ⟨by rw [hRun]; rfl, by rw [hRun]; rfl, ?_⟩
          rw [hRun]
          exact exchanges_after _ _
  | error problem =>
      rw [hResult] at hRun
      constructor
      · intro h
        rcases h with ⟨rfl, rfl, rfl⟩
        refine Or.inl ⟨problem, ?_, by rw [hRun]⟩
        exact ⟨hResult, by rw [hRun], by rw [hRun]; rfl⟩
      · intro h
        rcases h with
          ⟨problem', hEnds, rfl⟩ |
            ⟨a, middle, first, rest, hFirst, -, -⟩
        · rcases hEnds with ⟨hProblem, rfl, rfl⟩
          cases hResult.symm.trans hProblem
          exact ⟨by rw [hRun], by rw [hRun],
            by rw [hRun]; rfl⟩
        · cases hResult.symm.trans hFirst.result_eq

/- Both parts of a program that returns have returned. -/
theorem ends_bind_ok
    {p : Program α}
    {next : α → Program β}
    {b : β} :
    (p >>= next).Ends remote s (.ok b) after exchanges ↔
      ∃ a middle first rest,
        p.Ends remote s (.ok a) middle first ∧
          (next a).Ends remote middle (.ok b) after rest ∧
          exchanges = first ++ rest := by
  rw [ends_bind]
  constructor
  · intro h
    rcases h with ⟨problem, -, h⟩ | h
    · cases h
    · exact h
  · exact Or.inr

/- A program goes on when its first part returns. -/
theorem ends_bind_of_ok
    {p : Program α}
    {next : α → Program β}
    {a : α}
    {middle : σ}
    {first : List Exchange}
    (hFirst : p.Ends remote s (.ok a) middle first)
    {result : Except Problem β} :
    (p >>= next).Ends remote s result after exchanges ↔
      ∃ rest,
        (next a).Ends remote middle result after rest ∧
          exchanges = first ++ rest := by
  rw [ends_bind]
  constructor
  · intro h
    rcases h with
      ⟨problem, h, -⟩ |
        ⟨a', middle', first', rest, h, hRest, rfl⟩
    · cases (hFirst.unique h).1
    · rcases hFirst.unique h with ⟨hValue, rfl, rfl⟩
      cases hValue
      exact ⟨rest, hRest, rfl⟩
  · intro h
    rcases h with ⟨rest, hRest, rfl⟩
    exact Or.inr
      ⟨a, middle, first, rest, hFirst, hRest, rfl⟩

/- A program ends when its first part has a problem. -/
theorem ends_bind_of_error
    {p : Program α}
    {next : α → Program β}
    {problem : Problem}
    {middle : σ}
    {first : List Exchange}
    (hFirst : p.Ends remote s (.error problem) middle first)
    {result : Except Problem β} :
    (p >>= next).Ends remote s result after exchanges ↔
      result = .error problem ∧ after = middle ∧
        exchanges = first := by
  rw [ends_bind]
  constructor
  · intro h
    rcases h with
      ⟨problem', h, rfl⟩ |
        ⟨a, middle', first', rest, h, -, -⟩
    · rcases hFirst.unique h with ⟨hProblem, rfl, rfl⟩
      cases hProblem
      exact ⟨rfl, rfl, rfl⟩
    · cases (hFirst.unique h).1
  · intro h
    rcases h with ⟨rfl, rfl, rfl⟩
    exact Or.inl ⟨problem, hFirst, rfl⟩

/- A program does its first part and then the rest. -/
theorem Ends.bind
    {p : Program α}
    {next : α → Program β}
    {a : α}
    {middle : σ}
    {first rest : List Exchange}
    {result : Except Problem β}
    (hFirst : p.Ends remote s (.ok a) middle first)
    (hRest : (next a).Ends remote middle result after rest) :
    (p >>= next).Ends remote s result after
      (first ++ rest) :=
  (ends_bind_of_ok hFirst).mpr ⟨rest, hRest, rfl⟩

/- A problem of the first part is one of the whole. -/
theorem Ends.bind_error
    {p : Program α}
    {problem : Problem}
    (h : p.Ends remote s (.error problem) after exchanges)
    (next : α → Program β) :
    (p >>= next).Ends remote s (.error problem) after
      exchanges :=
  (ends_bind_of_error h).mpr ⟨rfl, rfl, rfl⟩

/- What is made of the value is all that a map changes. -/
theorem Ends.map
    {p : Program α}
    {result : Except Problem α}
    (h : p.Ends remote s result after exchanges)
    (f : α → β) :
    (f <$> p).Ends remote s (result.map f) after
      exchanges := by
  rw [map_eq_pure_bind]
  cases result with
  | error problem => exact h.bind_error _
  | ok a =>
      rw [← List.append_nil exchanges]
      exact h.bind ends_pure_self

/- What an attempt makes of a result. -/
def attempted :
    Except Problem α → Except Problem (Except Failure α)
  | .ok a => .ok (.ok a)
  | .error (.failure failure) => .ok (.error failure)
  | .error (.fault fault) => .error (.fault fault)

/- An attempt tells different results apart. -/
theorem attempted_injective
    {result result' : Except Problem α}
    (h : attempted result = attempted result') :
    result = result' := by
  rcases result with (_ | _) | _ <;>
    rcases result' with (_ | _) | _ <;>
    simp_all [attempted]

/- An attempt ends as the program does, failures apart. -/
theorem ends_attempt
    {p : Program α}
    (result : Except Problem α) :
    p.attempt.Ends remote s (attempted result) after
        exchanges ↔
      p.Ends remote s result after exchanges := by
  have hRun := run_attempt remote p s
  have hResult :
      (p.attempt.run remote s).result =
        attempted (p.run remote s).result := by
    rw [hRun]
    unfold attempted
    rfl
  have hState :
      (p.attempt.run remote s).state =
        (p.run remote s).state := by
    rw [hRun]
  have hExchanges :
      (p.attempt.run remote s).exchanges =
        (p.run remote s).exchanges := by
    rw [hRun]
    rfl
  constructor
  · intro h
    exact
      { result_eq :=
          attempted_injective
            (hResult.symm.trans h.result_eq)
        state_eq := hState.symm.trans h.state_eq
        exchanges_eq :=
          hExchanges.symm.trans h.exchanges_eq }
  · intro h
    exact
      { result_eq :=
          hResult.trans (congrArg attempted h.result_eq)
        state_eq := hState.trans h.state_eq
        exchanges_eq := hExchanges.trans h.exchanges_eq }

/- An attempt that has a value is a run that returns it. -/
theorem ends_attempt_ok
    {p : Program α}
    {a : α} :
    p.attempt.Ends remote s (.ok (.ok a)) after exchanges ↔
      p.Ends remote s (.ok a) after exchanges :=
  ends_attempt (.ok a)

/- An attempt that has a failure is a run that fails so. -/
theorem ends_attempt_failure
    {p : Program α}
    {failure : Failure} :
    p.attempt.Ends remote s (.ok (.error failure)) after
        exchanges ↔
      p.Ends remote s (.error (.failure failure)) after
        exchanges :=
  ends_attempt (.error (.failure failure))

/- An attempt that has a fault is a run that has it. -/
theorem ends_attempt_fault
    {p : Program α}
    {fault : Fault} :
    p.attempt.Ends remote s (.error (.fault fault)) after
        exchanges ↔
      p.Ends remote s (.error (.fault fault)) after
        exchanges :=
  ends_attempt (.error (.fault fault))

/- Reporting a failure does not change how a run ends. -/
@[simp]
theorem ends_reporting
    {p : Program α}
    {event : Failure → Event}
    {result : Except Problem α} :
    (p.reporting event).Ends remote s result after
        exchanges ↔
      p.Ends remote s result after exchanges := by
  have hRun := run_attempt remote p s
  have hReport :
      ((p.reporting event).run remote s).result =
          (p.run remote s).result ∧
        ((p.reporting event).run remote s).state =
          (p.run remote s).state ∧
        ((p.reporting event).run remote s).exchanges =
          (p.run remote s).exchanges := by
    unfold reporting
    simp only [bind_eq, run_bind, hRun]
    match hResult : (p.run remote s).result with
    | .ok a =>
        simp [pure_eq, run, Run.after, Run.exchanges]
    | .error (.failure failure) =>
        simp [bind, record, fail, run, Run.after,
          Run.exchanges]
    | .error (.fault fault) => simp [Run.exchanges]
  constructor
  · intro h
    rcases h with ⟨rfl, rfl, rfl⟩
    exact ⟨hReport.1.symm, hReport.2.1.symm,
      hReport.2.2.symm⟩
  · intro h
    rcases h with ⟨rfl, rfl, rfl⟩
    exact ⟨hReport.1, hReport.2.1, hReport.2.2⟩

end Program

end ChannelSync

------------------------------------------------------------
-- Returning
------------------------------------------------------------

namespace ChannelSync

namespace Program

variable {σ α β : Type}

/- A run of a program from a state returns a value. -/
structure Returns
    (remote : Remote σ)
    (p : Program α)
    (s : σ)
    (a : α)
    (after : σ) :
    Prop where
  result_eq : (p.run remote s).result = .ok a
  state_eq : (p.run remote s).state = after

variable {remote : Remote σ}
variable {s after : σ}

/- What returns ends with the value. -/
theorem Returns.ends
    {p : Program α}
    {a : α}
    (h : p.Returns remote s a after) :
    p.Ends remote s (.ok a) after
      (p.run remote s).exchanges :=
  ⟨h.result_eq, h.state_eq, rfl⟩

/- What ends with a value returns it. -/
theorem Ends.returns
    {p : Program α}
    {a : α}
    {exchanges : List Exchange}
    (h : p.Ends remote s (.ok a) after exchanges) :
    p.Returns remote s a after :=
  ⟨h.result_eq, h.state_eq⟩

/- A run returns one value only. -/
theorem Returns.unique
    {p : Program α}
    {a a' : α}
    {after' : σ}
    (h : p.Returns remote s a after)
    (h' : p.Returns remote s a' after') :
    a = a' ∧ after = after' := by
  rcases h.ends.unique h'.ends with ⟨hResult, hState, -⟩
  exact ⟨Except.ok.inj hResult, hState⟩

/- A block that only answers returns its answer. -/
@[simp]
theorem returns_pure
    {a b : α} :
    (pure a : Program α).Returns remote s b after ↔
      b = a ∧ after = s := by
  constructor
  · intro h
    have hEnds := ends_pure.mp h.ends
    exact ⟨Except.ok.inj hEnds.1, hEnds.2.1⟩
  · intro h
    rcases h with ⟨rfl, rfl⟩
    exact ⟨rfl, rfl⟩

/- It returns where it starts. -/
theorem returns_pure_self
    {a : α} :
    (pure a : Program α).Returns remote s a s :=
  returns_pure.mpr ⟨rfl, rfl⟩

/- A failing program returns nothing. -/
@[simp]
theorem not_returns_fail
    {failure : Failure}
    {a : α} :
    ¬ (fail failure : Program α).Returns remote s a after := by
  intro h
  cases (ends_fail.mp h.ends).1

/- An aborted program returns nothing. -/
@[simp]
theorem not_returns_abort
    {fault : Fault}
    {a : α} :
    ¬ (abort fault : Program α).Returns remote s a after := by
  intro h
  cases (ends_abort.mp h.ends).1

/- A computation returns its value. -/
@[simp]
theorem returns_lift
    {value : Except Fault α}
    {a : α} :
    (lift value).Returns remote s a after ↔
      value = .ok a ∧ after = s := by
  cases value with
  | ok b =>
      rw [Except.ok.injEq, eq_comm (a := b)]
      exact returns_pure
  | error fault =>
      constructor
      · intro h
        exact absurd h not_returns_abort
      · intro h
        rcases h with ⟨h, -⟩
        cases h

/- The greatest number of pages is returned as it is. -/
@[simp]
theorem returns_pageBound
    {listing : Listing}
    {limit : Datum}
    {n : Nat} :
    (pageBound listing limit).Returns remote s n after ↔
      n = remote.pageBound s listing limit ∧ after = s := by
  constructor
  · intro h
    have hEnds := ends_pageBound.mp h.ends
    exact ⟨Except.ok.inj hEnds.1, hEnds.2.1⟩
  · intro h
    rcases h with ⟨rfl, rfl⟩
    exact ⟨rfl, rfl⟩

/- Going on returns when both parts do. -/
@[simp]
theorem returns_bind
    {p : Program α}
    {next : α → Program β}
    {b : β} :
    (p >>= next).Returns remote s b after ↔
      ∃ a middle,
        p.Returns remote s a middle ∧
          (next a).Returns remote middle b after := by
  constructor
  · intro h
    rcases ends_bind_ok.mp h.ends with
      ⟨a, middle, _, _, hFirst, hRest, -⟩
    exact ⟨a, middle, hFirst.returns, hRest.returns⟩
  · intro h
    rcases h with ⟨a, middle, hFirst, hRest⟩
    exact (hFirst.ends.bind hRest.ends).returns

/- A program returns what its parts return in turn. -/
theorem Returns.bind
    {p : Program α}
    {next : α → Program β}
    {a : α}
    {b : β}
    {middle : σ}
    (hFirst : p.Returns remote s a middle)
    (hRest : (next a).Returns remote middle b after) :
    (p >>= next).Returns remote s b after :=
  returns_bind.mpr ⟨a, middle, hFirst, hRest⟩

/- After a part that returns comes the result of the next. -/
theorem Returns.result_bind
    {p : Program α}
    {next : α → Program β}
    {a : α}
    {middle : σ}
    (h : p.Returns remote s a middle) :
    ((p >>= next).run remote s).result =
      ((next a).run remote middle).result := by
  rw [bind_eq, run_bind, h.result_eq, h.state_eq]
  rfl

/- A problem of a part is the result of the whole. -/
theorem result_bind_of_error
    {p : Program α}
    {next : α → Program β}
    {problem : Problem}
    (h : (p.run remote s).result = .error problem) :
    ((p >>= next).run remote s).result =
      .error problem := by
  rw [bind_eq, run_bind, h]

/- An event changes nothing about what is returned. -/
@[simp]
theorem returns_record
    {event : Event}
    {u : Unit} :
    (record event).Returns remote s u after ↔ after = s := by
  constructor
  · intro h
    exact (ends_record.mp h.ends).2.1
  · intro hSame
    subst hSame
    exact ⟨rfl, rfl⟩

/- An event before an answer does not matter. -/
theorem returns_record_pure
    {event : Event}
    {a : α} :
    (record event >>= fun _ => pure a).Returns remote s a
      s :=
  returns_bind.mpr
    ⟨(), s, returns_record.mpr rfl, returns_pure_self⟩

/- Reporting a failure does not change what is returned. -/
@[simp]
theorem returns_reporting
    {p : Program α}
    {event : Failure → Event}
    {a : α} :
    (p.reporting event).Returns remote s a after ↔
      p.Returns remote s a after :=
  ⟨fun h => (ends_reporting.mp h.ends).returns,
    fun h => (ends_reporting.mpr h.ends).returns⟩

/- An attempt returns what the program returns. -/
theorem returns_attempt_ok
    {p : Program α}
    {a : α} :
    p.attempt.Returns remote s (.ok a) after ↔
      p.Returns remote s a after :=
  ⟨fun h => (ends_attempt_ok.mp h.ends).returns,
    fun h => (ends_attempt_ok.mpr h.ends).returns⟩

/- An attempt returns the failure of the program. -/
theorem returns_attempt_failure
    {p : Program α}
    {failure : Failure} :
    p.attempt.Returns remote s (.error failure) after ↔
      ∃ exchanges,
        p.Ends remote s (.error (.failure failure)) after
          exchanges :=
  ⟨fun h => ⟨_, ends_attempt_failure.mp h.ends⟩,
    fun ⟨_, h⟩ => (ends_attempt_failure.mpr h).returns⟩

end Program

end ChannelSync

------------------------------------------------------------
-- Stopping
------------------------------------------------------------

namespace ChannelSync

namespace Program

variable {σ α β : Type}

/- A run of a program from a state stops at a problem. -/
structure Stops
    (remote : Remote σ)
    (p : Program α)
    (s : σ)
    (problem : Problem)
    (after : σ) :
    Prop where
  result_eq : (p.run remote s).result = .error problem
  state_eq : (p.run remote s).state = after

variable {remote : Remote σ}
variable {s after : σ}
variable {problem : Problem}

/- What stops ends with the problem. -/
theorem Stops.ends
    {p : Program α}
    (h : p.Stops remote s problem after) :
    p.Ends remote s (.error problem) after
      (p.run remote s).exchanges :=
  ⟨h.result_eq, h.state_eq, rfl⟩

/- What ends with a problem stops at it. -/
theorem Ends.stops
    {p : Program α}
    {exchanges : List Exchange}
    (h : p.Ends remote s (.error problem) after
      exchanges) :
    p.Stops remote s problem after :=
  ⟨h.result_eq, h.state_eq⟩

/- A computation with a fault stops at it. -/
theorem stops_lift
    {value : Except Fault α}
    {fault : Fault}
    (h : value = .error fault)
    (s : σ) :
    (lift value).Stops remote s (.fault fault) s :=
  (ends_lift.mpr ⟨by rw [h]; rfl, rfl, rfl⟩).stops

/- Where a part stops, the whole does. -/
theorem Stops.bind
    {p : Program α}
    (h : p.Stops remote s problem after)
    (next : α → Program β) :
    (p >>= next).Stops remote s problem after :=
  (h.ends.bind_error _).stops

/- After a part that returns, the whole stops as the rest. -/
theorem Returns.bind_stops
    {p : Program α}
    {next : α → Program β}
    {a : α}
    {middle : σ}
    (hFirst : p.Returns remote s a middle)
    (hRest : (next a).Stops remote middle problem after) :
    (p >>= next).Stops remote s problem after :=
  ((ends_bind_of_ok hFirst.ends).mpr
    ⟨_, hRest.ends, rfl⟩).stops

/- After a part that returns comes the state of the next. -/
theorem Returns.state_bind
    {p : Program α}
    {next : α → Program β}
    {a : α}
    {middle : σ}
    (h : p.Returns remote s a middle) :
    ((p >>= next).run remote s).state =
      ((next a).run remote middle).state := by
  rw [bind_eq, run_bind, h.result_eq, h.state_eq]
  rfl

end Program

end ChannelSync
