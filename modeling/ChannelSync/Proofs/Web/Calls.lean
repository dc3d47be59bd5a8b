import ChannelSync.Proofs.Run.Ending
import ChannelSync.Web.Remote
import ChannelSync.Web.Script

/-
  The calls behind the exchanges of a run.

  A platform behind the web API answers a request by calls of
  a client.  A client can be made to keep its calls on record,
  each with what came back; nothing else changes by that.

  The calls behind an exchange are those whose answers, put
  into a script, lead to the same exchange and the same
  calls.  The record of a run is made of the calls behind its
  exchanges, one after the other.

  Key definitions include:
    * `ClientExchange`
    * `Client.recorded`
    * `Web.Makes` and `Web.Made`

  Key theorems include:
    * `Web.answer_recorded`
    * `Web.run_recorded`
    * `Web.makes_perform`
    * `Web.Makes.methods`
-/

------------------------------------------------------------
-- Calls on Record
------------------------------------------------------------

namespace ChannelSync

/- A call with what came back. -/
structure ClientExchange where
  call : ClientCall
  answer : Except ClientError Datum

/- What a call means to the request that it was made for. -/
def ClientExchange.reading
    (c : ClientExchange)
    (read : Datum → Except Fault α) :
    Except Problem α :=
  match c.answer with
  | .error error => .error (error.toProblem c.call.method)
  | .ok response => (read response).mapError .fault

/- Only a response that can be read means success. -/
theorem ClientExchange.reading_eq_ok
    {c : ClientExchange}
    {read : Datum → Except Fault α}
    {a : α} :
    c.reading read = .ok a ↔
      ∃ response, c.answer = .ok response ∧
        read response = .ok a := by
  unfold reading
  cases c.answer with
  | error error => simp
  | ok response =>
      constructor
      · intro h
        exact ⟨response, rfl, mapError_eq_ok.mp h⟩
      · intro h
        rcases h with
          ⟨_, hSame, hRead⟩
        cases hSame
        exact mapError_eq_ok.mpr hRead

namespace Client

variable {σ α : Type}

/- The same client, with its calls on record. -/
def recorded
    (client : Client σ) :
    Client (σ × List ClientExchange) where
  send := fun s call =>
    let sent := client.send s.1 call
    (sent.1, sent.2, s.2 ++ [⟨call, sent.1⟩])
  callBound := fun s => client.callBound s.1

/- A call is sent and its response is read. -/
theorem perform_eq
    (client : Client σ)
    (s : σ)
    (call : ClientCall)
    (read : Datum → Except Fault α) :
    client.perform s call read =
      (ClientExchange.reading
          ⟨call, (client.send s call).1⟩ read,
        (client.send s call).2) := by
  unfold perform ClientExchange.reading
  split <;> simp_all

/- A recorded call gives the same, and one entry. -/
theorem perform_recorded
    (client : Client σ)
    (s : σ)
    (log : List ClientExchange)
    (call : ClientCall)
    (read : Datum → Except Fault α) :
    client.recorded.perform (s, log) call read =
      ((client.perform s call read).1,
        (client.perform s call read).2,
        log ++ [⟨call, (client.send s call).1⟩]) := by
  simp [perform_eq, recorded]

end Client

/- A script answers a call with its next entry. -/
theorem Script.perform_cons
    {α : Type}
    (entry : Except ClientError Datum)
    (entries : List (Except ClientError Datum))
    (sent : List ClientCall)
    (call : ClientCall)
    (read : Datum → Except Fault α) :
    client.perform ⟨entry :: entries, sent⟩ call read =
      (ClientExchange.reading ⟨call, entry⟩ read,
        ⟨entries, sent ++ [call]⟩) := by
  rw [Client.perform_eq]
  rfl

end ChannelSync

------------------------------------------------------------
-- Calls behind Exchanges
------------------------------------------------------------

namespace ChannelSync

namespace Web

variable {σ : Type}

/-
  The calls behind an exchange: a script of their answers
  leads to the same answer by the same calls.
-/
def Makes
    (calls : List ClientExchange)
    (x : Exchange) :
    Prop :=
  answer Script.client
      { entries := calls.map fun c => c.answer }
      x.request =
    (x.answer,
      { entries := [], sent := calls.map fun c => c.call })

/- The calls behind some exchanges, one after the other. -/
inductive Made :
    List ClientExchange → List Exchange → Prop where
  | nil : Made [] []
  | cons
      {calls more : List ClientExchange}
      {x : Exchange}
      {rest : List Exchange}
      (hCalls : Makes calls x)
      (hMore : Made more rest) :
      Made (calls ++ more) (x :: rest)

/- A purpose that cannot be set is not followed up. -/
theorem setPurpose_error
    {client : Client σ}
    {s s' : σ}
    {id purpose : Datum}
    {error : ClientError}
    (h :
      client.send s (purposeCall id purpose) =
        (.error error, s')) :
    setPurpose client s id purpose =
      (.error (error.toProblem "conversations_setPurpose"),
        s') := by
  simp only [setPurpose, Client.perform, h]
  rfl

/- After a purpose is set the channel is asked for. -/
theorem setPurpose_ok
    {client : Client σ}
    {s s' : σ}
    {id purpose response : Datum}
    (h :
      client.send s (purposeCall id purpose) =
        (.ok response, s')) :
    setPurpose client s id purpose =
      channelInfo client s' id := by
  simp only [setPurpose, Client.perform, h,
    Response.ofNothing]
  rfl

/- The calls behind a request that is one call. -/
theorem makes_perform
    {request : Request}
    {call : ClientCall}
    {read : Datum → Except Fault request.Answer}
    (hAnswer :
      ∀ script, answer Script.client script request =
        Script.client.perform script call read)
    {result : Except Problem request.Answer}
    {calls : List ClientExchange} :
    Makes calls ⟨request, result⟩ ↔
      ∃ raw, calls = [⟨call, raw⟩] ∧
        result = ClientExchange.reading ⟨call, raw⟩ read := by
  unfold Makes
  rw [hAnswer]
  constructor
  · intro h
    match calls, h with
    | [], h =>
        have hSent := congrArg (fun r => r.2.sent) h
        simp [Client.perform_eq, Script.client,
          Script.send] at hSent
    | [c], h =>
        simp only [List.map_cons, List.map_nil,
          Script.perform_cons, Prod.mk.injEq,
          Script.mk.injEq, List.nil_append,
          List.cons.injEq] at h
        rcases h with ⟨hResult, -, rfl, -⟩
        exact ⟨c.answer, rfl, hResult.symm⟩
    | c :: d :: rest, h =>
        simp [Script.perform_cons] at h
  · intro h
    rcases h with ⟨raw, rfl, rfl⟩
    simp only [List.map_cons, List.map_nil,
      Script.perform_cons, List.nil_append]

/- A recorded client gives the same answers by its calls. -/
theorem answer_recorded
    (client : Client σ)
    (s : σ)
    (log : List ClientExchange)
    (request : Request) :
    ∃ calls,
      answer client.recorded (s, log) request =
          ((answer client s request).1,
            (answer client s request).2, log ++ calls) ∧
        Makes calls
          ⟨request, (answer client s request).1⟩ := by
  -- Most requests are one call.
  have hOne :
      ∀ (call : ClientCall)
        (read : Datum → Except Fault request.Answer),
        (∀ {τ : Type} (c : Client τ) (t : τ),
          answer c t request = c.perform t call read) →
        ∃ calls,
          answer client.recorded (s, log) request =
              ((answer client s request).1,
                (answer client s request).2, log ++ calls) ∧
            Makes calls
              ⟨request, (answer client s request).1⟩ := by
    intro call read hAnswer
    refine ⟨[⟨call, (client.send s call).1⟩], ?_, ?_⟩
    · simp only [hAnswer, Client.perform_recorded]
    · rw [makes_perform (hAnswer _), hAnswer,
        Client.perform_eq]
      exact ⟨_, rfl, rfl⟩
  cases request with
  | setPurpose id purpose =>
      simp only [answer, Makes]
      -- The second call is made if the first is answered.
      cases hFirst : client.send s (purposeCall id purpose)
        with
      | mk raw s' =>
          have hRecorded :
              client.recorded.send (s, log)
                  (purposeCall id purpose) =
                (raw, s', log ++
                  [⟨purposeCall id purpose, raw⟩]) := by
            simp only [Client.recorded, hFirst]
          cases raw with
          | error error =>
              refine ⟨[⟨purposeCall id purpose,
                .error error⟩], ?_, ?_⟩
              · rw [setPurpose_error hRecorded,
                  setPurpose_error hFirst]
              · rw [setPurpose_error hFirst]
                exact setPurpose_error rfl
          | ok response =>
              refine ⟨[⟨purposeCall id purpose, .ok response⟩,
                ⟨infoCall id,
                  (client.send s' (infoCall id)).1⟩], ?_, ?_⟩
              · rw [setPurpose_ok hRecorded,
                  setPurpose_ok hFirst, channelInfo,
                  channelInfo, Client.perform_recorded,
                  List.append_assoc, List.singleton_append]
              · have hScript :
                    Script.client.send
                        ⟨[.ok response,
                          (client.send s' (infoCall id)).1],
                          []⟩
                        (purposeCall id purpose) =
                      (.ok response,
                        ⟨[(client.send s' (infoCall id)).1],
                          [purposeCall id purpose]⟩) :=
                  rfl
                rw [setPurpose_ok hFirst, channelInfo,
                  Client.perform_eq]
                apply (setPurpose_ok hScript).trans
                rw [channelInfo, Script.perform_cons]
                rfl
  | inviteMembers id userIds =>
      cases hJoined : joined userIds with
      | error fault =>
          refine ⟨[], ?_, ?_⟩
          · simp [answer, inviteMembers, hJoined]
          · simp [Makes, answer, inviteMembers, hJoined]
      | ok users =>
          apply hOne
            ⟨"conversations_invite",
              [("channel", id), ("users", users)]⟩
            Response.ofNothing
          intro _ c t
          simp only [answer, inviteMembers, hJoined]
  | _ => exact hOne _ _ fun _ _ => rfl

end Web

end ChannelSync

------------------------------------------------------------
-- Runs on Record
------------------------------------------------------------

namespace ChannelSync

namespace Web

variable {σ α : Type}
variable {exchanges : List Exchange}
variable {calls : List ClientExchange}

/-
  A run with its calls on record is the same run, and the
  record grows by the calls behind its exchanges.
-/
theorem run_recorded
    (client : Client σ)
    (p : Program α)
    (s : σ)
    (log : List ClientExchange) :
    ∃ calls,
      p.run (remote client.recorded) (s, log) =
          { result := (p.run (remote client) s).result
            state :=
              ((p.run (remote client) s).state, log ++ calls)
            trace := (p.run (remote client) s).trace } ∧
        Made calls (p.run (remote client) s).exchanges := by
  induction p generalizing s log with
  | done result =>
      refine ⟨[], ?_, Made.nil⟩
      simp only [Program.run, List.append_nil]
  | note event rest ih =>
      rcases ih s log with
        ⟨calls, hRun, hMade⟩
      refine ⟨calls, ?_, ?_⟩
      · simp only [Program.run, Run.after, hRun]
      · simp only [Program.run,
          Program.exchanges_after_noted]
        exact hMade
  | pages listing limit resume ih => exact ih _ s log
  | call request resume ih =>
      rcases answer_recorded client s log request with
        ⟨own, hAnswer, hOwn⟩
      have hFirst :
          (remote client.recorded).answer (s, log) request =
            (((remote client).answer s request).1,
              ((remote client).answer s request).2,
              log ++ own) :=
        hAnswer
      replace hOwn :
          Makes own
            ⟨request, ((remote client).answer s request).1⟩ :=
        hOwn
      simp only [Program.run, hFirst]
      cases hSent : (remote client).answer s request with
      | mk result s' =>
          rw [hSent] at hOwn
          cases result with
          | ok value =>
              rcases ih (.ok value) s' (log ++ own) with
                ⟨calls, hRun, hMade⟩
              refine ⟨own ++ calls, ?_, ?_⟩
              · simp only [hRun, Run.after,
                  List.append_assoc]
              · rw [Program.exchanges_after_exchanged]
                exact Made.cons hOwn hMade
          | error problem =>
              cases problem with
              | failure failure =>
                  rcases ih (.error failure) s'
                      (log ++ own) with
                    ⟨calls, hRun, hMade⟩
                  refine ⟨own ++ calls, ?_, ?_⟩
                  · simp only [hRun, Run.after,
                      List.append_assoc]
                  · rw [Program.exchanges_after_exchanged]
                    exact Made.cons hOwn hMade
              | fault fault =>
                  refine ⟨own, rfl, ?_⟩
                  simpa [Run.exchanges] using
                    Made.cons hOwn Made.nil

/- Behind each exchange of a run are calls on its record. -/
theorem Made.of_mem_exchanges
    (h : Made calls exchanges)
    {x : Exchange}
    (hMem : x ∈ exchanges) :
    ∃ own, Makes own x ∧ own ⊆ calls := by
  induction h with
  | nil => cases hMem
  | @cons own more first rest hOwn hMore ih =>
      rcases List.mem_cons.mp hMem with rfl | hLater
      · exact ⟨own, hOwn, List.subset_append_left _ _⟩
      · rcases ih hLater with
          ⟨other, hOther, hSub⟩
        exact ⟨other, hOther,
          List.subset_append_of_subset_right _ hSub⟩

/- Each call on the record of a run is behind an exchange. -/
theorem Made.of_mem_calls
    (h : Made calls exchanges)
    {c : ClientExchange}
    (hMem : c ∈ calls) :
    ∃ x ∈ exchanges, ∃ own, Makes own x ∧ c ∈ own := by
  induction h with
  | nil => cases hMem
  | @cons own more first rest hOwn hMore ih =>
      rcases List.mem_append.mp hMem with hNow | hLater
      · exact ⟨first, List.mem_cons_self, own, hOwn, hNow⟩
      · rcases ih hLater with
          ⟨x, hx, other, hOther, hIn⟩
        exact ⟨x, List.mem_cons_of_mem _ hx, other, hOther,
          hIn⟩

end Web

end ChannelSync

------------------------------------------------------------
-- Methods of Calls
------------------------------------------------------------

namespace ChannelSync

namespace Web

/- The methods that a request can call. -/
def methods : Request → List String
  | .channelInfo _ => ["conversations_info"]
  | .createChannel _ _ => ["conversations_create"]
  | .setPurpose _ _ =>
      ["conversations_setPurpose", "conversations_info"]
  | .setTopic _ _ => ["conversations_setTopic"]
  | .renameChannel _ _ => ["conversations_rename"]
  | .archiveChannel _ => ["conversations_archive"]
  | .unarchiveChannel _ => ["conversations_unarchive"]
  | .memberPage _ _ _ => ["conversations_members"]
  | .inviteMembers _ _ => ["conversations_invite"]
  | .removeMember _ _ => ["conversations_kick"]
  | .channelPage _ _ => ["conversations_list"]
  | .userByEmail _ => ["users_lookupByEmail"]
  | .userById _ => ["users_info"]

/- A script keeps the call that it answers. -/
theorem sent_perform
    {α : Type}
    (script : Script)
    (call : ClientCall)
    (read : Datum → Except Fault α) :
    (Script.client.perform script call read).2.sent =
      script.sent ++ [call] := by
  rw [Client.perform_eq]
  change (script.send call).2.sent = _
  unfold Script.send
  split <;> rfl

/- A request makes only calls of its methods. -/
theorem sent_answer
    (script : Script)
    (request : Request) :
    ∃ calls,
      (answer Script.client script request).2.sent =
          script.sent ++ calls ∧
        ∀ call ∈ calls, call.method ∈ methods request := by
  cases request with
  | setPurpose id purpose =>
      simp only [answer, setPurpose, channelInfo]
      split
      case h_1 problem script' hFirst =>
          refine ⟨[purposeCall id purpose], ?_, ?_⟩
          · rw [← sent_perform script _ Response.ofNothing,
              hFirst]
          · simp [purposeCall, methods]
      case h_2 script' hFirst =>
          refine ⟨[purposeCall id purpose, infoCall id], ?_,
            ?_⟩
          · have hSent := sent_perform script
              (purposeCall id purpose) Response.ofNothing
            rw [hFirst] at hSent
            rw [sent_perform, hSent, List.append_assoc]
            rfl
          · simp [purposeCall, infoCall, methods]
  | inviteMembers id userIds =>
      simp only [answer, inviteMembers]
      split
      case h_1 => exact ⟨[], by simp, by simp⟩
      case h_2 users hJoined =>
          refine ⟨_, sent_perform _ _ _, ?_⟩
          simp [methods]
  | _ =>
      refine ⟨_, sent_perform _ _ _, ?_⟩
      simp [methods, infoCall, memberPageCall,
        channelPageCall]

/- The calls behind an exchange are of its methods. -/
theorem Makes.methods
    {calls : List ClientExchange}
    {x : Exchange}
    (h : Makes calls x)
    {c : ClientExchange}
    (hMem : c ∈ calls) :
    c.call.method ∈ methods x.request := by
  rcases sent_answer
      ⟨calls.map fun c => c.answer, []⟩ x.request with
    ⟨sent, hSent, hMethods⟩
  rw [h, List.nil_append] at hSent
  apply hMethods
  rw [← hSent]
  exact List.mem_map_of_mem hMem

end Web

end ChannelSync
