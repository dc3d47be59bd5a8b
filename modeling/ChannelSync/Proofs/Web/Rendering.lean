import ChannelSync.Proofs.Web.Faithful
import Mathlib.Data.List.Forall2

/-
  Answers as responses of the web API.

  Every exchange with a platform can be turned into entries
  for a script: an answer becomes a response with the channel
  or user in it, and a failure becomes a rejection with the
  code of the failure.  A purpose that is set becomes two
  responses.

  Given these entries, a platform behind the web API gives
  the same answer, up to the text of a failure, and makes the
  calls that correspond to the request.  These calls are
  written out here, whatever the platform builds them from.

  Key definitions include:
    * `Failure.Same` and `Matches`
    * `Observed.rendered` and `User.rendered`
    * `Web.scripted`
    * `Web.callOf` and `Web.callsOf`

  Key theorems include:
    * `Web.reader_response`
    * `Web.answer_scripted`
-/

------------------------------------------------------------
-- Results That Say the Same
------------------------------------------------------------

namespace ChannelSync

/-
  Failures of the same kind with the same code, or as many
  failed invitations of the same kinds with the same codes.
-/
inductive Failure.Same : Failure → Failure → Prop where
  | single
      (kind : FailureKind)
      (code : Datum)
      (text text' : String)
      (origin origin' : Option Origin) :
      Same (.single kind text code origin)
        (.single kind text' code origin')
  | partialMembership
      {failures failures' : List Failure}
      (h : List.Forall₂ Same failures failures') :
      Same (.partialMembership failures)
        (.partialMembership failures')

/- Failures that say the same, or one fault. -/
inductive Problem.Same : Problem → Problem → Prop where
  | failure
      {failure failure' : Failure}
      (h : failure.Same failure') :
      Same (.failure failure) (.failure failure')
  | fault
      (cause : Fault) :
      Same (.fault cause) (.fault cause)

/- Results with related values, or with the same problem. -/
inductive Matches
    (R : α → α → Prop) :
    Except Problem α → Except Problem α → Prop where
  | ok
      {a b : α}
      (h : R a b) :
      Matches R (.ok a) (.ok b)
  | error
      {problem problem' : Problem}
      (h : problem.Same problem') :
      Matches R (.error problem) (.error problem')

/- Failures that say the same have the same code. -/
theorem Failure.Same.code_eq
    {failure failure' : Failure}
    (h : failure.Same failure') :
    failure.code = failure'.code := by
  cases h <;> rfl

/- They are conflicts alike. -/
theorem Failure.Same.isConflict_eq
    {failure failure' : Failure}
    (h : failure.Same failure') :
    failure.isConflict = failure'.isConflict := by
  cases h with
  | single kind => cases kind <;> rfl
  | partialMembership => rfl

/- They say alike that something is missing. -/
theorem Failure.Same.isNotFound_eq
    {failure failure' : Failure}
    (h : failure.Same failure') :
    failure.isNotFound = failure'.isNotFound := by
  cases h with
  | single kind => cases kind <;> rfl
  | partialMembership => rfl

end ChannelSync

------------------------------------------------------------
-- Channels and Users in Responses
------------------------------------------------------------

namespace ChannelSync

/- A channel as a record of a response. -/
def Observed.rendered
    (channel : Observed) :
    Datum :=
  .object
    [("id", channel.id),
      ("is_archived", channel.archived),
      ("is_private", channel.isPrivate),
      ("name", channel.name),
      ("purpose", .object [("value", channel.description)]),
      ("topic", .object [("value", channel.topic)])]

/- A user as a record of a response. -/
def User.rendered
    (user : User) :
    Datum :=
  .object
    [("id", user.id),
      ("is_bot", user.isBot),
      ("profile", .object [("email", user.email)])]

/- A page of a listing as a response. -/
def Web.listing
    (key : String)
    (items : List Datum)
    (next : Datum) :
    Datum :=
  .object
    [(key, .list items),
      ("response_metadata",
        .object [("next_cursor", next)])]

/- A text that may be left out when it is empty. -/
theorem Datum.orElse_empty
    {d : Datum}
    (h : d.isText = true) :
    d.orElse (.text "") = d := by
  rcases Datum.exists_text h with ⟨s, rfl⟩
  unfold orElse
  split
  case isTrue => rfl
  case isFalse hEmpty =>
      simp only [truthy_text, bne_iff_ne, ne_eq,
        Decidable.not_not] at hEmpty
      rw [hEmpty]

/- A flag is as truthy as it says. -/
theorem Datum.flag_truthy
    {d : Datum}
    (h : d.isFlag = true) :
    .flag d.truthy = d := by
  rcases Datum.exists_flag h with ⟨b, rfl⟩
  rfl

namespace Response

/- A channel is read as it was rendered. -/
theorem channel_rendered
    {observed : Observed}
    (h : observed.Reported) :
    channel observed.rendered = .ok observed := by
  have hRead :
      channel observed.rendered =
        .ok
          { id := observed.id
            name := observed.name
            description := observed.description
            topic := observed.topic
            isPrivate := .flag observed.isPrivate.truthy
            archived := .flag observed.archived.truthy } :=
    rfl
  rw [hRead, Datum.flag_truthy h.typed.isPrivate,
    Datum.flag_truthy h.typed.archived, ← h.memberIds]

/- A user is read as it was rendered. -/
theorem user_rendered
    {known : User}
    (h : known.WellTyped) :
    user known.rendered = .ok known := by
  have hRead :
      user known.rendered =
        .ok
          { id := known.id
            email := known.email.orElse (.text "")
            isBot := .flag known.isBot.truthy } :=
    rfl
  rw [hRead, Datum.orElse_empty h.email,
    Datum.flag_truthy h.isBot]

/- Channels are read as they were rendered. -/
theorem channels_rendered
    {channels : List Observed}
    (h : ∀ channel ∈ channels, channel.Reported) :
    (channels.map Observed.rendered).mapM channel =
      .ok channels := by
  induction channels with
  | nil => rfl
  | cons first rest ih =>
      rw [List.forall_mem_cons] at h
      rw [List.map_cons, List.mapM_cons,
        channel_rendered h.1, ih h.2]
      rfl

/- The cursor of a listing is read as it was written. -/
theorem nextCursor_listing
    (key : String)
    (items : List Datum)
    {next : Datum}
    (hKey : key ≠ "response_metadata")
    (hNext : next.isText = true) :
    nextCursor (Web.listing key items next) = .ok next := by
  have hPart :
      part (Web.listing key items next) "response_metadata" =
        .ok (.object [("next_cursor", next)]) := by
    have hOther : ("response_metadata" == key) = false := by
      simpa using hKey.symm
    simp only [part, Web.listing, Datum.field,
      List.lookup_cons, hOther]
    rfl
  unfold nextCursor
  rw [hPart]
  have hCursor :
      (Datum.object [("next_cursor", next)]).field
          "next_cursor" (.text "") =
        .ok next :=
    rfl
  simp only [bind, Except.bind, hCursor,
    Datum.orElse_empty hNext]
  rfl

end Response

end ChannelSync

------------------------------------------------------------
-- Responses to Requests
------------------------------------------------------------

namespace ChannelSync

namespace Web

/- What is sent for a cursor; the first page has null. -/
def sentCursor : Datum → Datum
  | .text "" => .null
  | cursor => cursor

/- The call for members of a channel. -/
def membersCall
    (limit id cursor : Datum) :
    ClientCall :=
  ⟨"conversations_members",
    [("channel", id), ("cursor", cursor), ("limit", limit)]⟩

/- The call for channels of every kind. -/
def channelsCall
    (limit cursor : Datum) :
    ClientCall :=
  ⟨"conversations_list",
    [("types", .text "private_channel,public_channel"),
      ("exclude_archived", .flag false),
      ("cursor", cursor),
      ("limit", limit)]⟩

/- The call of a request; for a purpose, the first call. -/
def callOf : Request → ClientCall
  | .channelInfo id =>
      ⟨"conversations_info", [("channel", id)]⟩
  | .createChannel name isPrivate =>
      ⟨"conversations_create",
        [("name", name), ("is_private", isPrivate)]⟩
  | .setPurpose id purpose =>
      ⟨"conversations_setPurpose",
        [("channel", id), ("purpose", purpose)]⟩
  | .setTopic id topic =>
      ⟨"conversations_setTopic",
        [("channel", id), ("topic", topic)]⟩
  | .renameChannel id name =>
      ⟨"conversations_rename",
        [("channel", id), ("name", name)]⟩
  | .archiveChannel id =>
      ⟨"conversations_archive", [("channel", id)]⟩
  | .unarchiveChannel id =>
      ⟨"conversations_unarchive", [("channel", id)]⟩
  | .memberPage id cursor limit =>
      membersCall limit id (sentCursor cursor)
  | .inviteMembers id userIds =>
      ⟨"conversations_invite",
        [("channel", id),
          ("users",
            .text
              (",".intercalate
                (userIds.map Datum.spelling)))]⟩
  | .removeMember id userId =>
      ⟨"conversations_kick",
        [("channel", id), ("user", userId)]⟩
  | .channelPage cursor limit =>
      channelsCall limit (sentCursor cursor)
  | .userByEmail email =>
      ⟨"users_lookupByEmail", [("email", email)]⟩
  | .userById id => ⟨"users_info", [("user", id)]⟩

/-
  The calls behind an exchange.  After a purpose is set the
  channel is asked for.
-/
def callsOf : Exchange → List ClientCall
  | ⟨.setPurpose id purpose, .ok _⟩ =>
      [⟨"conversations_setPurpose",
          [("channel", id), ("purpose", purpose)]⟩,
        ⟨"conversations_info", [("channel", id)]⟩]
  | ⟨request, _⟩ => [callOf request]

/- A text is sent as a cursor unless it is empty. -/
theorem cursorArgument_eq
    {cursor : Datum}
    (h : cursor.isText = true) :
    cursorArgument cursor = sentCursor cursor := by
  rcases Datum.exists_text h with ⟨s, rfl⟩
  unfold sentCursor
  split
  case h_1 hEmpty =>
      rw [hEmpty]
      rfl
  case h_2 hOther =>
      have hNonempty : s ≠ "" := by
        intro hEmpty
        exact hOther (congrArg Datum.text hEmpty)
      simp [cursorArgument, Datum.orElse, hNonempty]

/- The response with the answer to a request. -/
def response :
    (request : Request) → request.Answer → Datum
  | .channelInfo _, channel =>
      .object [("channel", Observed.rendered channel)]
  | .createChannel _ _, channel =>
      .object [("channel", Observed.rendered channel)]
  | .setPurpose _ _, channel =>
      .object [("channel", Observed.rendered channel)]
  | .setTopic _ _, channel =>
      .object [("channel", Observed.rendered channel)]
  | .renameChannel _ _, channel =>
      .object [("channel", Observed.rendered channel)]
  | .archiveChannel _, _ => .object []
  | .unarchiveChannel _, _ => .object []
  | .memberPage _ _ _, page =>
      listing "members" (Page.items page) (Page.next page)
  | .inviteMembers _ _, _ => .object []
  | .removeMember _ _, _ => .object []
  | .channelPage _ _, page =>
      listing "channels"
        ((Page.items page).map Observed.rendered)
        (Page.next page)
  | .userByEmail _, user =>
      .object [("user", User.rendered user)]
  | .userById _, user =>
      .object [("user", User.rendered user)]

/- How the response with the answer to a request is read. -/
def reader :
    (request : Request) → Datum →
      Except Fault request.Answer
  | .channelInfo _ => Response.ofChannel
  | .createChannel _ _ => Response.ofChannel
  | .setPurpose _ _ => Response.ofChannel
  | .setTopic _ _ => Response.ofChannel
  | .renameChannel _ _ => Response.ofChannel
  | .archiveChannel _ => Response.ofNothing
  | .unarchiveChannel _ => Response.ofNothing
  | .memberPage _ _ _ => Response.memberPage
  | .inviteMembers _ _ => Response.ofNothing
  | .removeMember _ _ => Response.ofNothing
  | .channelPage _ _ => Response.channelPage
  | .userByEmail _ => Response.ofUser
  | .userById _ => Response.ofUser

/- A channel is read from the response that has it. -/
theorem ofChannel_rendered
    {channel : Observed}
    (h : channel.Reported) :
    Response.ofChannel
        (.object [("channel", channel.rendered)]) =
      .ok channel :=
  Response.channel_rendered h

/- A user is read from the response that has it. -/
theorem ofUser_rendered
    {user : User}
    (h : user.WellTyped) :
    Response.ofUser (.object [("user", user.rendered)]) =
      .ok user :=
  Response.user_rendered h

/- An answer is read from the response that has it. -/
theorem reader_response
    {request : Request}
    {a : request.Answer}
    (h : request.Shows a) :
    reader request (response request a) = .ok a := by
  cases request with
  | channelInfo id => exact ofChannel_rendered h
  | createChannel name isPrivate =>
      exact ofChannel_rendered h
  | setPurpose id purpose => exact ofChannel_rendered h
  | setTopic id topic => exact ofChannel_rendered h
  | renameChannel id name => exact ofChannel_rendered h
  | archiveChannel id => rfl
  | unarchiveChannel id => rfl
  | memberPage id cursor limit =>
      have hNext :=
        Response.nextCursor_listing "members" a.items
          (by decide) h.2
      have hItems :
          (listing "members" a.items a.next).field "members"
              (.list []) =
            .ok (.list a.items) :=
        rfl
      simp only [reader, response, Response.memberPage,
        bind, Except.bind, hItems, hNext, Datum.elements]
      rfl
  | inviteMembers id userIds => rfl
  | removeMember id userId => rfl
  | channelPage cursor limit =>
      have hNext :=
        Response.nextCursor_listing "channels"
          (a.items.map Observed.rendered) (by decide) h.2
      have hItems :
          (listing "channels"
                (a.items.map Observed.rendered)
                a.next).field
              "channels" (.list []) =
            .ok (.list (a.items.map Observed.rendered)) :=
        rfl
      have hChannels := Response.channels_rendered h.1
      simp only [reader, response, Response.channelPage,
        bind, Except.bind, hItems, hNext, Datum.elements,
        hChannels]
      rfl
  | userByEmail email => exact ofUser_rendered h
  | userById id => exact ofUser_rendered h

end Web

end ChannelSync

------------------------------------------------------------
-- Scripts of Exchanges
------------------------------------------------------------

namespace ChannelSync

/- A failure as a rejection with its code. -/
def Problem.rendered : Problem → ClientError
  | .failure refused =>
      .rejected (.text refused.message)
        (.object [("error", refused.code)])
  | .fault cause => .fault cause

/- A rejection with a code means a failure of its kind. -/
theorem Problem.same_toProblem
    {problem : Problem}
    (h :
      ∀ failure, problem = .failure failure →
        failure.Mapped)
    (method : String) :
    problem.Same (problem.rendered.toProblem method) := by
  cases problem with
  | fault cause => exact .fault cause
  | failure failure =>
      rcases h failure rfl with
        @⟨kind, code, message, origin, hKind⟩
      have hRendered :
          ClientError.errorCode
              (.object [("error", .text code)]) =
            .ok (.text code) := by
        have hOrElse : (Datum.text code).orElse (.text "") =
            .text code :=
          Datum.orElse_empty rfl
        simp only [ClientError.errorCode, Datum.field,
          List.lookup_cons, beq_self_eq_true,
          Option.getD_some, Except.map, hOrElse]
      simp only [Problem.rendered, ClientError.toProblem,
        ClientError.rejection, Failure.code, bind,
        Except.bind, hRendered, hKind]
      exact .failure (.single _ _ _ _ _ _)

namespace Web

/- The entries of a script that answer like an exchange. -/
def scripted : Exchange → List (Except ClientError Datum)
  | ⟨_, .error problem⟩ => [.error problem.rendered]
  | ⟨.setPurpose id purpose, .ok channel⟩ =>
      [.ok (.object [("purpose", purpose)]),
        .ok (response (.setPurpose id purpose) channel)]
  | ⟨request, .ok a⟩ => [.ok (response request a)]

/- Every exchange takes an entry of the script. -/
theorem length_scripted_pos
    (x : Exchange) :
    0 < (scripted x).length := by
  unfold scripted
  split <;> exact Nat.succ_pos _

/- A problem is one entry of a script. -/
theorem scripted_error
    (request : Request)
    (problem : Problem) :
    scripted ⟨request, .error problem⟩ =
      [.error problem.rendered] := by
  cases request <;> rfl

/- A request with a problem made one call. -/
theorem callsOf_error
    (request : Request)
    (problem : Problem) :
    callsOf ⟨request, .error problem⟩ =
      [callOf request] := by
  cases request <;> rfl

variable {request : Request}

/- Most requests are answered by one call. -/
theorem answer_eq_perform
    {σ : Type}
    (client : Client σ)
    (s : σ)
    (hTyped : request.WellTyped)
    (hOne : ∀ id purpose, request ≠ .setPurpose id purpose) :
    answer client s request =
      client.perform s (callOf request)
        (reader request) := by
  cases request with
  | setPurpose id purpose =>
      exact absurd rfl (hOne id purpose)
  | inviteMembers id userIds =>
      have hTexts : userIds.all Datum.isText = true :=
        List.all_eq_true.mpr hTyped.2
      simp only [answer, inviteMembers, joined, hTexts,
        if_true]
      rfl
  | memberPage id cursor limit =>
      simp only [answer, callOf, ← cursorArgument_eq
        hTyped.2.1]
      rfl
  | channelPage cursor limit =>
      simp only [answer, callOf, ← cursorArgument_eq hTyped.1]
      rfl
  | _ => rfl

/- Their answers are one entry of a script. -/
theorem scripted_ok
    (hOne : ∀ id purpose, request ≠ .setPurpose id purpose)
    (a : request.Answer) :
    scripted ⟨request, .ok a⟩ =
      [.ok (response request a)] := by
  cases request with
  | setPurpose id purpose =>
      exact absurd rfl (hOne id purpose)
  | _ => rfl

/- There was one call for such an answer. -/
theorem callsOf_ok
    (hOne : ∀ id purpose, request ≠ .setPurpose id purpose)
    (a : request.Answer) :
    callsOf ⟨request, .ok a⟩ = [callOf request] := by
  cases request with
  | setPurpose id purpose =>
      exact absurd rfl (hOne id purpose)
  | _ => rfl

variable (rest : List (Except ClientError Datum))
variable (sent : List ClientCall)

/- A request that is rejected was one call. -/
theorem answer_rejected
    (hTyped : request.WellTyped)
    (error : ClientError) :
    answer Script.client ⟨.error error :: rest, sent⟩
        request =
      (.error (error.toProblem (callOf request).method),
        ⟨rest, sent ++ [callOf request]⟩) := by
  by_cases hPurpose :
      ∃ id purpose, request = .setPurpose id purpose
  · rcases hPurpose with ⟨id, purpose, rfl⟩
    have hFirst :
        Script.client.send ⟨.error error :: rest, sent⟩
            (purposeCall id purpose) =
          (.error error,
            ⟨rest, sent ++ [purposeCall id purpose]⟩) :=
      rfl
    exact setPurpose_error hFirst
  · rw [answer_eq_perform _ _ hTyped
      (fun id purpose h => hPurpose ⟨id, purpose, h⟩),
      Script.perform_cons]
    rfl

/- A purpose is set by two calls, given both responses. -/
theorem answer_purpose
    {id purpose : Datum}
    {channel : Observed}
    (h : channel.Reported) :
    answer Script.client
        ⟨scripted ⟨.setPurpose id purpose, .ok channel⟩ ++
          rest, sent⟩
        (.setPurpose id purpose) =
      (.ok channel,
        ⟨rest, sent ++
          callsOf ⟨.setPurpose id purpose, .ok channel⟩⟩) := by
  let shown : Except ClientError Datum :=
    .ok (.object [("channel", channel.rendered)])
  have hFirst :
      Script.client.send
          ⟨.ok (.object [("purpose", purpose)]) ::
            shown :: rest, sent⟩
          (purposeCall id purpose) =
        (.ok (.object [("purpose", purpose)]),
          ⟨shown :: rest,
            sent ++ [purposeCall id purpose]⟩) :=
    rfl
  have hRead :
      ClientExchange.reading ⟨infoCall id, shown⟩
          Response.ofChannel =
        .ok channel :=
    ClientExchange.reading_eq_ok.mpr
      ⟨_, rfl, ofChannel_rendered h⟩
  apply (setPurpose_ok hFirst).trans
  rw [channelInfo, Script.perform_cons, hRead,
    List.append_assoc]
  rfl

/- A request is answered with what the script shows. -/
theorem answer_shown
    (hTyped : request.WellTyped)
    {a : request.Answer}
    (hShows : request.Shows a) :
    answer Script.client
        ⟨scripted ⟨request, .ok a⟩ ++ rest, sent⟩ request =
      (.ok a, ⟨rest, sent ++ callsOf ⟨request, .ok a⟩⟩) := by
  by_cases hPurpose :
      ∃ id purpose, request = .setPurpose id purpose
  · rcases hPurpose with ⟨id, purpose, rfl⟩
    exact answer_purpose rest sent hShows
  · have hOne : ∀ id purpose,
        request ≠ .setPurpose id purpose :=
      fun id purpose h => hPurpose ⟨id, purpose, h⟩
    have hRead :
        ClientExchange.reading
            ⟨callOf request, .ok (response request a)⟩
            (reader request) =
          .ok a :=
      ClientExchange.reading_eq_ok.mpr
        ⟨_, rfl, reader_response hShows⟩
    rw [answer_eq_perform _ _ hTyped hOne,
      scripted_ok hOne, callsOf_ok hOne,
      List.singleton_append, Script.perform_cons, hRead]

/-
  With the entries of an exchange in the script, the request
  is answered as in the exchange, by its calls.
-/
theorem answer_scripted
    (hTyped : request.WellTyped)
    {result : Except Problem request.Answer}
    (hShows : ∀ a, result = .ok a → request.Shows a)
    (hMapped : Fails Failure.Mapped result) :
    ∃ result',
      answer Script.client
          ⟨scripted ⟨request, result⟩ ++ rest, sent⟩
          request =
        (result',
          ⟨rest, sent ++ callsOf ⟨request, result⟩⟩) ∧
      Matches Eq result result' := by
  cases result with
  | ok a =>
      exact ⟨.ok a,
        answer_shown rest sent hTyped (hShows a rfl),
        .ok rfl⟩
  | error problem =>
      rw [scripted_error, callsOf_error,
        List.singleton_append]
      refine ⟨_, answer_rejected rest sent hTyped _,
        .error ?_⟩
      apply Problem.same_toProblem
      intro failure hFailure
      exact hMapped failure (congrArg _ hFailure)

end Web

end ChannelSync
