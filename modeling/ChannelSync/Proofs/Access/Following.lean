import ChannelSync.Proofs.Access.Fetching
import ChannelSync.Proofs.Access.Setting
import ChannelSync.Proofs.Web.Correspondence

/-
  Access to one channel on both platforms.

  The programs that read and change a channel, and look users
  up, follow themselves: on the platform behind the web API
  they do what they did on the workspace.

  A listing is followed page by page.  On the workspace it is
  bounded by the number of members, and on the web API by the
  number of entries in the script; neither bound is met.

  Key theorems include:
    * `Access.replays_membersFrom`
    * `Access.follows_memberIds`
    * `Access.follows_fetch`
    * `Access.follows_ensure`
-/

------------------------------------------------------------
-- Single Requests
------------------------------------------------------------

namespace ChannelSync

namespace Access

open Program

variable {id : Datum}

/- The attributes of a channel are asked for. -/
theorem follows_info
    (hId : id.isText = true) :
    Follows Eq (info id) (info id) := by
  have hTyped : (Request.channelInfo id).WellTyped := hId
  exact follows_reported hTyped _

/- A channel is created under a text. -/
theorem follows_create
    {name isPrivate : Datum}
    (hName : name.isText = true)
    (hPrivate : isPrivate.isFlag = true) :
    Follows (Shared fun id => id.isText = true)
      (create name isPrivate) (create name isPrivate) := by
  have hTyped :
      (Request.createChannel name isPrivate).WellTyped :=
    ⟨hName, hPrivate⟩
  apply (follows_record _ _).bind
  rintro _ _ rfl
  apply (follows_send hTyped).bind
  rintro channel _ ⟨rfl, hChannel⟩
  apply (follows_record _ _).bind
  rintro _ _ rfl
  exact follows_pure ⟨rfl, hChannel.typed.id⟩

/- A request may be put on record before it is sent. -/
theorem follows_announced
    {request : Request}
    (hTyped : request.WellTyped)
    (announced : Event)
    (failed : Failure → Event) :
    Follows Eq
      (record announced >>= fun _ =>
        (send request).reporting failed)
      (record announced >>= fun _ =>
        (send request).reporting failed) := by
  apply (follows_record _ _).bind
  rintro _ _ rfl
  exact follows_reported hTyped failed

/- A channel is put into the archive. -/
theorem follows_archive
    (hId : id.isText = true) :
    Follows Eq (archive id) (archive id) := by
  have hTyped : (Request.archiveChannel id).WellTyped := hId
  exact follows_announced hTyped _ _

/- A channel is taken out of the archive. -/
theorem follows_unarchive
    (hId : id.isText = true) :
    Follows Eq (unarchive id) (unarchive id) := by
  have hTyped : (Request.unarchiveChannel id).WellTyped :=
    hId
  exact follows_announced hTyped _ _

/- One user is invited. -/
theorem follows_invite
    {userId : Datum}
    (hId : id.isText = true)
    (hUserId : userId.isText = true) :
    Follows Eq (invite id userId) (invite id userId) := by
  have hTyped :
      (Request.inviteMembers id [userId]).WellTyped :=
    ⟨hId, by simpa using hUserId⟩
  exact (follows_send hTyped).same

/- One user is removed. -/
theorem follows_remove
    {userId : Datum}
    (hId : id.isText = true)
    (hUserId : userId.isText = true) :
    Follows Eq (remove id userId) (remove id userId) := by
  have hTyped :
      (Request.removeMember id userId).WellTyped :=
    ⟨hId, hUserId⟩
  exact (follows_send hTyped).same

/- A user is looked up by an address. -/
theorem follows_userByEmail
    {email : Datum}
    (hEmail : email.isText = true) :
    Follows (Shared User.WellTyped) (userByEmail email)
      (userByEmail email) := by
  have hTyped : (Request.userByEmail email).WellTyped :=
    hEmail
  exact (follows_send hTyped).reporting _ _

/- A user is looked up by an identifier. -/
theorem follows_userById
    {userId : Datum}
    (hUserId : userId.isText = true) :
    Follows Eq (userById userId) (userById userId) := by
  have hTyped : (Request.userById userId).WellTyped :=
    hUserId
  exact follows_reported hTyped _

end Access

end ChannelSync

------------------------------------------------------------
-- Setters
------------------------------------------------------------

namespace ChannelSync

namespace Access

open Program

/- A setter reads the same text and sets it alike. -/
theorem follows_ensure
    {id : Datum}
    (hId : id.isText = true)
    {declared : Datum}
    {field : Observed → Datum}
    {event : Event}
    {set : Program Observed}
    (hSet : Follows Eq set set) :
    Follows Eq (ensure id declared field event set)
      (ensure id declared field event set) := by
  apply (follows_info hId).bind
  rintro channel _ rfl
  apply (follows_lift _).bind
  rintro current _ ⟨rfl, -⟩
  split
  · exact follows_pure rfl
  · apply (follows_record _ _).bind
    rintro _ _ rfl
    exact hSet

/- The attributes of a channel are set one by one. -/
theorem follows_alignAttributes
    {desired : Desired}
    (hDesired : desired.WellTyped)
    {id : Datum}
    (hId : id.isText = true) :
    Follows Eq (alignAttributes desired id)
      (alignAttributes desired id) := by
  have hName :
      (Request.renameChannel id desired.name).WellTyped :=
    ⟨hId, hDesired.name⟩
  have hTopic :
      (Request.setTopic id desired.topic).WellTyped :=
    ⟨hId, hDesired.topic⟩
  have hDescription :
      (Request.setPurpose id desired.description).WellTyped :=
    ⟨hId, hDesired.description⟩
  apply Follows.bind
    (follows_ensure hId (follows_reported hName _))
  rintro _ _ rfl
  apply Follows.bind
    (follows_ensure hId (follows_reported hTopic _))
  rintro _ _ rfl
  apply Follows.bind
    (follows_ensure hId (follows_reported hDescription _))
  rintro _ _ rfl
  exact follows_pure rfl

end Access

end ChannelSync

------------------------------------------------------------
-- Listing Members
------------------------------------------------------------

namespace ChannelSync

namespace Access

open Program

variable {w after : Workspace}
variable {id : Datum}
variable {size : Nat}

/- A page of members is asked for. -/
theorem follows_memberPage
    (hId : id.isText = true)
    (start size : Nat) :
    Follows
      (Shared (Request.memberPage id (Paging.cursorAt start)
        (.number size)).Shows)
      (memberPage (.number size) id (Paging.cursorAt start))
      (memberPage (.number size) id
        (Paging.cursorAt start)) := by
  have hTyped :
      (Request.memberPage id (Paging.cursorAt start)
        (.number size)).WellTyped :=
    ⟨hId, Paging.isText_cursorAt start, rfl⟩
  exact (follows_send hTyped).reporting _ _

/-
  The pages from a cursor on are replayed, if both bounds are
  large enough: one for the members from there on, the other
  for the entries of the script.
-/
theorem replays_membersFrom
    (hw : w.Faithful)
    (hId : id.isText = true)
    (hSize : 0 < size)
    {bound bound' start : Nat}
    {seen : List Datum}
    (hStart : start < Numeral.numberLimit)
    (hSeen : ∀ userId ∈ seen, userId.isText = true)
    (hBound : 0 < bound)
    (hRoom :
      ∀ room, w.channels.get? id = some room →
        room.members.length < start + bound)
    {result : Except Problem (List Datum)}
    {exchanges : List Exchange}
    (h :
      (membersFrom (.number size) id bound
          (Paging.cursorAt start) seen).Ends
        Workspace.remote w result after exchanges)
    {rest : List (Except ClientError Datum)}
    {sent : List ClientCall}
    (hBound' :
      (exchanges.flatMap Web.scripted ++ rest).length <
        bound') :
    (membersFrom (.number size) id bound'
        (Paging.cursorAt start) seen).Replays
      (Shared fun ids => ∀ userId ∈ ids, userId.isText = true)
      exchanges result rest sent := by
  induction bound generalizing bound' start seen exchanges
      sent with
  | zero => omega
  | succ bound ih =>
      cases bound' with
      | zero => omega
      | succ bound' =>
          unfold membersFrom at h ⊢
          apply replays_read_bind hw
            (follows_memberPage hId start size)
            rfl ends_reporting.mp h hBound'
          intro page later sent hAnswer hShows hLater hFewer
          rcases Workspace.room_of_memberPage hAnswer with
            ⟨room, hFound, hItems⟩
          have hMembers :=
            hRoom room ((Workspace.room_eq_ok hId).mp hFound)
          rcases Datum.addNew_texts hShows.1 seen with
            ⟨ids, hIds, hMem, -⟩
          have hTexts :
              ∀ userId ∈ ids, userId.isText = true := by
            intro userId hUserId
            rcases (hMem userId).mp hUserId with hOld | hNew
            · exact hSeen userId hOld
            · exact hShows.1 userId hNew
          rw [hIds] at hLater ⊢
          replace hLater :
              (if page.next.truthy then
                  membersFrom (.number size) id bound
                    page.next ids
                else pure ids).Ends Workspace.remote
                w result after later :=
            hLater
          change (if page.next.truthy then
              membersFrom (.number size) id bound'
                page.next ids
            else pure ids).Replays _ _ _ _ _
          rcases Paging.page_cases hSize hStart hItems with
            ⟨hMore, hShort, rfl⟩ | ⟨hLast, rfl⟩
          · have hTruthy :=
              Paging.truthy_cursorAt
                (show start + size ≠ 0 by omega)
            simp only [hTruthy, if_true] at hLater ⊢
            refine ih hShort hTexts (by omega) ?_ hLater
              hFewer
            intro other hOther
            have hLength := hRoom other hOther
            omega
          · rcases ends_pure.mp hLater with ⟨rfl, -, rfl⟩
            exact replays_done (.ok ⟨rfl, hTexts⟩)

/- All members of a channel are listed, and are texts. -/
theorem follows_memberIds
    (hId : id.isText = true)
    (hSize : 0 < size) :
    Follows
      (Shared fun ids => ∀ userId ∈ ids, userId.isText = true)
      (memberIds (.number size) id)
      (memberIds (.number size) id) := by
  apply follows_pages hSize (reads_memberIds _ id)
  intro w hw result exchanges h rest sent bound hBound
  refine replays_membersFrom hw hId hSize
    Numeral.numberLimit_pos (by simp) (Nat.succ_pos _) ?_ h
    hBound
  intro room hRoom
  simp only [Workspace.listingLength, hRoom]
  omega

/- A channel is fetched with its members. -/
theorem follows_fetch
    (hId : id.isText = true)
    (hSize : 0 < size) :
    Follows
      (Shared fun observed =>
        ∀ userId ∈ observed.memberIds, userId.isText = true)
      (fetch (.number size) id)
      (fetch (.number size) id) := by
  apply (follows_info hId).bind
  rintro channel _ rfl
  apply (follows_memberIds hId hSize).bind
  rintro ids _ ⟨rfl, hIds⟩
  exact follows_pure ⟨rfl, hIds⟩

end Access

end ChannelSync
