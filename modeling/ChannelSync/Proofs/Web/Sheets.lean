import ChannelSync.Proofs.Access.Walking
import ChannelSync.Proofs.Web.Rendering

/-
  Collections of the web API, sheet by sheet.

  A sheet is a response with some items of a collection and
  the cursor of the next sheet.  That there is no next one
  can be said in several ways: the cursor is empty, null or
  missing, or the part of the response that would carry it
  is.

  Whatever the cursors and the items are, a listing asks for
  one sheet after the other up to the last one, and a search
  up to the first one with a channel of the name.  Sheets
  without items are sheets like others, and cursors may come
  again.  No entry of the script behind the last sheet that
  is needed is taken, and at an error both stop.

  Key definitions include:
    * `Sheet` and `Sheet.CursorIs`
    * `Sheet.HasMembers` and `Sheet.HasChannels`
    * `Web.ListsSheets` and `Web.SearchesSheets`

  Key theorems include:
    * `Sheet.nextCursor_eq`
    * `Sheet.leads_sheets`
    * `Web.collections_walked`
-/

------------------------------------------------------------
-- Sheets
------------------------------------------------------------

namespace ChannelSync

/- A response with a part of a collection. -/
structure Sheet (α : Type) where
  fields : List (String × Datum)
  /- What the response shows. -/
  items : List α
  /- The cursor of the next sheet, if not empty. -/
  cursor : String

namespace Sheet

variable {α : Type}

/- The entry of a script that answers with a sheet. -/
def entry
    (sheet : Sheet α) :
    Except ClientError Datum :=
  .ok (.object sheet.fields)

/- The page that a sheet is. -/
def page
    (sheet : Sheet α) :
    Page α :=
  ⟨sheet.items, .text sheet.cursor⟩

/- The fields of a response carry a cursor. -/
inductive CursorIs
    (fields : List (String × Datum)) :
    String → Prop where
  | noMetadata
      (h : fields.lookup "response_metadata" = none) :
      CursorIs fields ""
  | nullMetadata
      (h : fields.lookup "response_metadata" = some .null) :
      CursorIs fields ""
  | noCursor
      {metadata : List (String × Datum)}
      (h :
        fields.lookup "response_metadata" =
          some (.object metadata))
      (hCursor : metadata.lookup "next_cursor" = none) :
      CursorIs fields ""
  | nullCursor
      {metadata : List (String × Datum)}
      (h :
        fields.lookup "response_metadata" =
          some (.object metadata))
      (hCursor :
        metadata.lookup "next_cursor" = some .null) :
      CursorIs fields ""
  | carried
      {metadata : List (String × Datum)}
      {cursor : String}
      (h :
        fields.lookup "response_metadata" =
          some (.object metadata))
      (hCursor :
        metadata.lookup "next_cursor" =
          some (.text cursor)) :
      CursorIs fields cursor

/- A sheet with members of a channel. -/
structure HasMembers
    (sheet : Sheet Datum) :
    Prop where
  listed :
    (sheet.fields.lookup "members").getD (.list []) =
      .list sheet.items
  texts : ∀ userId ∈ sheet.items, userId.isText = true
  cursor : CursorIs sheet.fields sheet.cursor

/- A sheet with channels. -/
structure HasChannels
    (sheet : Sheet Observed) :
    Prop where
  listed :
    ∃ parts,
      (sheet.fields.lookup "channels").getD (.list []) =
          .list parts ∧
        parts.mapM Response.channel = .ok sheet.items
  cursor : CursorIs sheet.fields sheet.cursor

/- A sheet leads on to a next one. -/
def Leading
    (sheet : Sheet α) :
    Prop :=
  sheet.cursor ≠ ""

/- The items of some sheets, one sheet after the other. -/
def allItems
    (sheets : List (Sheet α)) :
    List α :=
  sheets.flatMap fun sheet => sheet.items

/-
  The cursors that some sheets and the one behind them are
  asked for with: null at first, and then those of the
  sheets.
-/
def cursors
    (sheets : List (Sheet α)) :
    List Datum :=
  .null :: sheets.map fun sheet => .text sheet.cursor

end Sheet

end ChannelSync

------------------------------------------------------------
-- Reading a Sheet
------------------------------------------------------------

namespace ChannelSync

namespace Sheet

variable {fields metadata : List (String × Datum)}
variable {cursor : String}

/- A part that is a record is looked into. -/
theorem nextCursor_of_record
    (h :
      fields.lookup "response_metadata" =
        some (.object metadata)) :
    Response.nextCursor (.object fields) =
      .ok
        (((metadata.lookup "next_cursor").getD
          (.text "")).orElse (.text "")) := by
  have hPart :
      Response.part (.object fields) "response_metadata" =
        .ok
          ((Datum.object metadata).orElse
            (.object [])) := by
    simp only [Response.part, Datum.field, h]
    rfl
  unfold Response.nextCursor
  rw [hPart]
  cases metadata with
  | nil => rfl
  | cons entry rest => rfl

/- The cursor that a response carries is read from it. -/
theorem nextCursor_eq
    (h : CursorIs fields cursor) :
    Response.nextCursor (.object fields) =
      .ok (.text cursor) := by
  cases h with
  | noMetadata h =>
      simp only [Response.nextCursor, Response.part,
        Datum.field, h]
      rfl
  | nullMetadata h =>
      simp only [Response.nextCursor, Response.part,
        Datum.field, h]
      rfl
  | noCursor h hCursor =>
      rw [nextCursor_of_record h, hCursor]
      rfl
  | nullCursor h hCursor =>
      rw [nextCursor_of_record h, hCursor]
      rfl
  | carried h hCursor =>
      rw [nextCursor_of_record h, hCursor]
      exact congrArg Except.ok (Datum.orElse_empty rfl)

/- A sheet with members is read as the page it is. -/
theorem HasMembers.read_eq
    {sheet : Sheet Datum}
    (h : sheet.HasMembers) :
    Response.memberPage (.object sheet.fields) =
      .ok sheet.page := by
  simp only [Response.memberPage, Datum.field, h.listed,
    nextCursor_eq h.cursor, bind, Except.bind,
    Datum.elements]
  rfl

/- So is a sheet with channels. -/
theorem HasChannels.read_eq
    {sheet : Sheet Observed}
    (h : sheet.HasChannels) :
    Response.channelPage (.object sheet.fields) =
      .ok sheet.page := by
  rcases h.listed with ⟨parts, hListed, hChannels⟩
  simp only [Response.channelPage, Datum.field, hListed,
    nextCursor_eq h.cursor, bind, Except.bind,
    Datum.elements, hChannels]
  rfl

end Sheet

end ChannelSync

------------------------------------------------------------
-- Walking over Sheets
------------------------------------------------------------

namespace ChannelSync

open Paging

/- The pages that a scripted client answers with. -/
def Script.source
    (call : Datum → ClientCall)
    (read : Datum → Except Fault (Page α)) :
    Source Script Problem α :=
  fun script cursor =>
    Script.client.perform script (call cursor) read

namespace Sheet

variable {α : Type}

/- The visits on some sheets, from a first cursor on. -/
def visits :
    Datum → List (Sheet α) → List (Visit α)
  | _, [] => []
  | cursor, sheet :: rest =>
      ⟨cursor, sheet.page⟩ :: visits (.text sheet.cursor) rest

/- The cursor behind some sheets. -/
def behind :
    Datum → List (Sheet α) → Datum
  | cursor, [] => cursor
  | _, sheet :: rest => behind (.text sheet.cursor) rest

/- There is one visit for each sheet. -/
theorem length_visits
    (cursor : Datum)
    (sheets : List (Sheet α)) :
    (visits cursor sheets).length = sheets.length := by
  induction sheets generalizing cursor with
  | nil => rfl
  | cons sheet rest ih =>
      exact congrArg Nat.succ (ih (.text sheet.cursor))

/- The visits show what the sheets do. -/
theorem shown_visits
    (cursor : Datum)
    (sheets : List (Sheet α)) :
    shown (visits cursor sheets) = allItems sheets := by
  induction sheets generalizing cursor with
  | nil => rfl
  | cons sheet rest ih =>
      exact congrArg (sheet.items ++ ·)
        (ih (.text sheet.cursor))

/- Each sheet is visited with the cursor before it. -/
theorem cursors_visits
    (cursor : Datum)
    (sheets : List (Sheet α)) :
    ((visits cursor sheets).map fun visit =>
        visit.cursor) ++ [behind cursor sheets] =
      cursor :: sheets.map fun sheet =>
        .text sheet.cursor := by
  induction sheets generalizing cursor with
  | nil => rfl
  | cons sheet rest ih =>
      exact congrArg (cursor :: ·)
        (ih (.text sheet.cursor))

variable {call : Datum → ClientCall}
variable {read : Datum → Except Fault (Page α)}
variable {sheets : List (Sheet α)}

/- Sheets that lead on are walked over. -/
theorem leads_sheets
    (call : Datum → ClientCall)
    (hRead :
      ∀ sheet ∈ sheets,
        read (.object sheet.fields) = .ok sheet.page)
    (hLeading : ∀ sheet ∈ sheets, sheet.Leading)
    (entries : List (Except ClientError Datum))
    (sent : List ClientCall)
    (cursor : Datum) :
    Leads (Script.source call read)
      ⟨sheets.map entry ++ entries, sent⟩ cursor
      (visits cursor sheets)
      ⟨entries,
        sent ++ (visits cursor sheets).map
          fun visit => call visit.cursor⟩
      (behind cursor sheets) := by
  induction sheets generalizing sent cursor with
  | nil =>
      have hSent :
          sent ++ (visits cursor ([] : List (Sheet α))).map
              (fun visit => call visit.cursor) = sent :=
        List.append_nil sent
      rw [hSent]
      exact Leads.here _ _
  | cons sheet rest ih =>
      rcases List.forall_mem_cons.mp hRead with
        ⟨hSheet, hRest⟩
      rcases List.forall_mem_cons.mp hLeading with
        ⟨hNext, hLater⟩
      have hPage :
          Script.source call read
              ⟨(sheet :: rest).map entry ++ entries, sent⟩
              cursor =
            (.ok sheet.page,
              ⟨rest.map entry ++ entries,
                sent ++ [call cursor]⟩) := by
        have hReading :
            ClientExchange.reading
                ⟨call cursor, .ok (.object sheet.fields)⟩
                read =
              .ok sheet.page :=
          mapError_eq_ok.mpr hSheet
        rw [← hReading]
        exact Script.perform_cons _ _ _ _ _
      have hMore : sheet.page.next.truthy = true := by
        have hNe : sheet.cursor ≠ "" := hNext
        simpa [page] using hNe
      have hSent :
          sent ++ (visits cursor (sheet :: rest)).map
              (fun visit => call visit.cursor) =
            (sent ++ [call cursor]) ++
              (visits (.text sheet.cursor) rest).map
                fun visit => call visit.cursor := by
        simp [visits]
      rw [hSent]
      exact Leads.onward hPage hMore
        (ih hRest hLater _ (.text sheet.cursor))

/-
  The calls on the way, and the one behind, have the cursors
  of the sheets.
-/
theorem sent_sheets
    {raw : Datum → ClientCall}
    (hCall :
      ∀ cursor, call cursor = raw (Web.cursorArgument cursor))
    (hLeading : ∀ sheet ∈ sheets, sheet.Leading) :
    ((visits (.text "") sheets).map fun visit =>
        call visit.cursor) ++
        [call (behind (.text "") sheets)] =
      (cursors sheets).map raw := by
  have hCursors :=
    congrArg (List.map call)
      (cursors_visits (.text "") sheets)
  rw [List.map_append, List.map_map, List.map_cons,
    List.map_cons, List.map_map] at hCursors
  refine hCursors.trans ?_
  rw [cursors, List.map_cons, List.map_map, hCall]
  refine congrArg _ ?_
  apply List.map_congr_left
  intro sheet hSheet
  have hArgument :
      Web.cursorArgument (.text sheet.cursor) =
        .text sheet.cursor := by
    have hNext := hLeading sheet hSheet
    unfold Leading at hNext
    simp [Web.cursorArgument, Datum.orElse, hNext]
  simp only [Function.comp_apply, hCall, hArgument]

/- The next entry answers behind the sheets. -/
theorem answer_behind
    {raw : Datum → ClientCall}
    (hCall :
      ∀ cursor, call cursor = raw (Web.cursorArgument cursor))
    (read : Datum → Except Fault (Page α))
    (hLeading : ∀ sheet ∈ sheets, sheet.Leading)
    (next : Except ClientError Datum)
    (entries : List (Except ClientError Datum))
    (sent : List ClientCall) :
    Script.source call read
        ⟨next :: entries,
          sent ++ (visits (.text "") sheets).map
            fun visit => call visit.cursor⟩
        (behind (.text "") sheets) =
      (ClientExchange.reading
          ⟨call (behind (.text "") sheets), next⟩ read,
        ⟨entries, sent ++ (cursors sheets).map raw⟩) := by
  rw [← sent_sheets hCall hLeading, ← List.append_assoc]
  exact Script.perform_cons _ _ _ _ _

/- Sheets up to a last one are a tour. -/
theorem tours_sheets
    {raw : Datum → ClientCall}
    (hCall :
      ∀ cursor, call cursor = raw (Web.cursorArgument cursor))
    {last : Sheet α}
    (hRead :
      ∀ sheet ∈ sheets,
        read (.object sheet.fields) = .ok sheet.page)
    (hLeading : ∀ sheet ∈ sheets, sheet.Leading)
    (hReadLast :
      read (.object last.fields) = .ok last.page)
    (hLast : ¬ last.Leading)
    (entries : List (Except ClientError Datum))
    (sent : List ClientCall) :
    Tours (Script.source call read)
      ⟨sheets.map entry ++ last.entry :: entries, sent⟩
      (visits (.text "") sheets ++
        [⟨behind (.text "") sheets, last.page⟩])
      ⟨entries, sent ++ (cursors sheets).map raw⟩ := by
  have hPage :=
    answer_behind hCall read hLeading last.entry entries sent
  have hReading :
      ClientExchange.reading
          ⟨call (behind (.text "") sheets), last.entry⟩
          read =
        .ok last.page :=
    mapError_eq_ok.mpr hReadLast
  rw [hReading] at hPage
  refine Tours.ended
    (leads_sheets call hRead hLeading _ _ _) hPage ?_
  have hEmpty : last.cursor = "" := not_not.mp hLast
  simp [page, hEmpty]

end Sheet

end ChannelSync

------------------------------------------------------------
-- Collections
------------------------------------------------------------

namespace ChannelSync

namespace Web

open Paging Program

/-
  A listing of members takes all sheets up to the last one,
  and no entry behind it.  At an error it stops.
-/
structure ListsSheets
    (limit id : Datum) :
    Prop where
  complete :
    ∀ (front : List (Sheet Datum)) (last : Sheet Datum)
      (entries : List (Except ClientError Datum))
      (sent : List ClientCall),
      (∀ sheet ∈ front, sheet.HasMembers) →
      (∀ sheet ∈ front, sheet.Leading) →
      last.HasMembers →
      ¬ last.Leading →
      (Access.memberIds limit id).Returns
        (remote Script.client)
        ⟨front.map Sheet.entry ++ last.entry :: entries,
          sent⟩
        (Sheet.allItems (front ++ [last])).eraseDups
        ⟨entries,
          sent ++ (Sheet.cursors front).map
            (membersCall limit id)⟩
  refused :
    ∀ (front : List (Sheet Datum)) (error : ClientError)
      (entries : List (Except ClientError Datum))
      (sent : List ClientCall),
      (∀ sheet ∈ front, sheet.HasMembers) →
      (∀ sheet ∈ front, sheet.Leading) →
      (Access.memberIds limit id).Stops
        (remote Script.client)
        ⟨front.map Sheet.entry ++ .error error :: entries,
          sent⟩
        (error.toProblem "conversations_members")
        ⟨entries,
          sent ++ (Sheet.cursors front).map
            (membersCall limit id)⟩

/-
  A search takes the sheets up to the first one with a
  channel of the name, and returns the first such channel on
  it.  Without one it takes all sheets, and says that none
  was found.  At an error it stops.
-/
structure SearchesSheets
    (limit name : Datum) :
    Prop where
  found :
    ∀ (front : List (Sheet Observed))
      (sheet : Sheet Observed)
      (channel : Observed)
      (entries : List (Except ClientError Datum))
      (sent : List ClientCall),
      (∀ sheet ∈ front, sheet.HasChannels) →
      (∀ sheet ∈ front, sheet.Leading) →
      Search.firstOf name (Sheet.allItems front) = none →
      sheet.HasChannels →
      Search.firstOf name sheet.items = some channel →
      (findByName limit name).Returns (remote Script.client)
        ⟨front.map Sheet.entry ++ sheet.entry :: entries,
          sent⟩
        channel
        ⟨entries,
          sent ++ (Sheet.cursors front).map
            (channelsCall limit)⟩
  missing :
    ∀ (front : List (Sheet Observed))
      (last : Sheet Observed)
      (entries : List (Except ClientError Datum))
      (sent : List ClientCall),
      (∀ sheet ∈ front, sheet.HasChannels) →
      (∀ sheet ∈ front, sheet.Leading) →
      last.HasChannels →
      ¬ last.Leading →
      Search.firstOf name (Sheet.allItems (front ++ [last])) =
        none →
      (findByName limit name).Stops (remote Script.client)
        ⟨front.map Sheet.entry ++ last.entry :: entries,
          sent⟩
        (.failure
          (.single .notFound
            ("No channel named " ++ name.written)
            (.text "") none))
        ⟨entries,
          sent ++ (Sheet.cursors front).map
            (channelsCall limit)⟩
  refused :
    ∀ (front : List (Sheet Observed)) (error : ClientError)
      (entries : List (Except ClientError Datum))
      (sent : List ClientCall),
      (∀ sheet ∈ front, sheet.HasChannels) →
      (∀ sheet ∈ front, sheet.Leading) →
      Search.firstOf name (Sheet.allItems front) = none →
      (findByName limit name).Stops (remote Script.client)
        ⟨front.map Sheet.entry ++ .error error :: entries,
          sent⟩
        (error.toProblem "conversations_list")
        ⟨entries,
          sent ++ (Sheet.cursors front).map
            (channelsCall limit)⟩

/- The members that a script answers with. -/
theorem memberSource_script
    (limit id : Datum) :
    Script.source
        (fun cursor => memberPageCall id cursor limit)
        Response.memberPage =
      Access.memberSource (remote Script.client) limit id :=
  rfl

/- The channels that a script answers with. -/
theorem channelSource_script
    (limit : Datum) :
    Script.source
        (fun cursor => channelPageCall cursor limit)
        Response.channelPage =
      Search.channelSource (remote Script.client) limit :=
  rfl

/- A script has more pages in its bound than sheets. -/
theorem length_visits_lt
    (listing : Listing)
    (limit cursor : Datum)
    (front : List (Sheet α))
    (next : Except ClientError Datum)
    (entries : List (Except ClientError Datum))
    (sent : List ClientCall) :
    (Sheet.visits cursor front).length <
      (remote Script.client).pageBound
        ⟨front.map Sheet.entry ++ next :: entries, sent⟩
        listing limit := by
  have hBound :
      (remote Script.client).pageBound
          ⟨front.map Sheet.entry ++ next :: entries, sent⟩
          listing limit =
        (front.map Sheet.entry ++ next :: entries).length +
          1 :=
    rfl
  rw [hBound, Sheet.length_visits, List.length_append,
    List.length_map, List.length_cons]
  omega

/- Items on sheets with members are texts. -/
theorem isText_allItems
    {sheets : List (Sheet Datum)}
    (h : ∀ sheet ∈ sheets, sheet.HasMembers) :
    ∀ userId ∈ Sheet.allItems sheets,
      userId.isText = true := by
  intro userId hUserId
  rcases List.mem_flatMap.mp hUserId with
    ⟨sheet, hSheet, hItem⟩
  exact (h sheet hSheet).texts userId hItem

/- What a tour of sheets shows are all of their items. -/
theorem shown_tour
    (front : List (Sheet α))
    (last : Sheet α) :
    shown (Sheet.visits (.text "") front ++
        [⟨Sheet.behind (.text "") front, last.page⟩]) =
      Sheet.allItems (front ++ [last]) := by
  rw [shown_snoc, Sheet.shown_visits]
  simp [Sheet.allItems, Sheet.page]

/- A listing of members walks over the sheets. -/
theorem listsSheets
    (limit id : Datum) :
    ListsSheets limit id := by
  have hCall :
      ∀ cursor,
        memberPageCall id cursor limit =
          membersCall limit id (cursorArgument cursor) :=
    fun _ => rfl
  constructor
  case complete =>
      intro front last entries sent hFront hLeading hLast
        hEnd
      have hTours :=
        Sheet.tours_sheets hCall
          (fun sheet hSheet => (hFront sheet hSheet).read_eq)
          hLeading hLast.read_eq hEnd entries sent
      have hAll :
          ∀ sheet ∈ front ++ [last], sheet.HasMembers := by
        intro sheet hSheet
        rcases List.mem_append.mp hSheet with hOld | hNew
        · exact hFront sheet hOld
        · rw [List.mem_singleton.mp hNew]
          exact hLast
      rw [memberSource_script] at hTours
      have hTexts := isText_allItems hAll
      have hBound :=
        length_visits_lt (.members id) limit (.text "") front
          last.entry entries sent
      rw [← shown_tour] at hTexts ⊢
      refine (Access.ends_memberIds_of_tours hTours hTexts
        ?_).returns
      rw [List.length_append]
      exact hBound
  case refused =>
      intro front error entries sent hFront hLeading
      have hLeads :=
        Sheet.leads_sheets
          (fun cursor => memberPageCall id cursor limit)
          (fun sheet hSheet => (hFront sheet hSheet).read_eq)
          hLeading (.error error :: entries) sent (.text "")
      have hPage :=
        Sheet.answer_behind hCall Response.memberPage
          hLeading (.error error) entries sent
      rw [memberSource_script] at hLeads hPage
      have hTexts := isText_allItems hFront
      rw [← Sheet.shown_visits (.text "")] at hTexts
      exact (Access.ends_memberIds_of_refused hLeads hPage
        hTexts (length_visits_lt _ _ _ _ _ _ _)).stops

/- So does a search. -/
theorem searchesSheets
    (limit name : Datum) :
    SearchesSheets limit name := by
  have hCall :
      ∀ cursor,
        channelPageCall cursor limit =
          channelsCall limit (cursorArgument cursor) :=
    fun _ => rfl
  have hLeads :
      ∀ (front : List (Sheet Observed))
        (entries : List (Except ClientError Datum))
        (sent : List ClientCall),
        (∀ sheet ∈ front, sheet.HasChannels) →
        (∀ sheet ∈ front, sheet.Leading) →
        Leads
          (Search.channelSource (remote Script.client) limit)
          ⟨front.map Sheet.entry ++ entries, sent⟩ (.text "")
          (Sheet.visits (.text "") front)
          ⟨entries,
            sent ++ (Sheet.visits (.text "") front).map
              fun visit =>
                channelPageCall visit.cursor limit⟩
          (Sheet.behind (.text "") front) :=
    fun front entries sent hFront hLeading =>
      Sheet.leads_sheets _
        (fun sheet hSheet => (hFront sheet hSheet).read_eq)
        hLeading entries sent (.text "")
  constructor
  case found =>
      intro front sheet channel entries sent hFront hLeading
        hNone hSheet hFound
      have hPage :=
        Sheet.answer_behind hCall Response.channelPage
          hLeading sheet.entry entries sent
      have hReading :
          ClientExchange.reading
              ⟨channelPageCall
                (Sheet.behind (.text "") front) limit,
                sheet.entry⟩
              Response.channelPage =
            .ok sheet.page :=
        mapError_eq_ok.mpr hSheet.read_eq
      rw [hReading, channelSource_script] at hPage
      rw [← Sheet.shown_visits (.text "")] at hNone
      exact (Search.ends_findByName_of_found
        (hLeads front _ sent hFront hLeading) hNone hPage
        hFound (length_visits_lt _ _ _ _ _ _ _)).returns
  case missing =>
      intro front last entries sent hFront hLeading hLast
        hEnd hNone
      have hTours :=
        Sheet.tours_sheets hCall
          (fun sheet hSheet => (hFront sheet hSheet).read_eq)
          hLeading hLast.read_eq hEnd entries sent
      have hBound :=
        length_visits_lt .channels limit (.text "") front
          last.entry entries sent
      rw [channelSource_script] at hTours
      rw [← shown_tour] at hNone
      refine (Search.ends_findByName_of_tours hTours hNone
        ?_).stops
      rw [List.length_append]
      exact hBound
  case refused =>
      intro front error entries sent hFront hLeading hNone
      have hPage :=
        Sheet.answer_behind hCall Response.channelPage
          hLeading (.error error) entries sent
      rw [channelSource_script] at hPage
      rw [← Sheet.shown_visits (.text "")] at hNone
      exact (Search.ends_findByName_of_refused
        (hLeads front _ sent hFront hLeading) hNone hPage
        (length_visits_lt _ _ _ _ _ _ _)).stops

/-
  Collections are walked over sheet by sheet, as far as is
  needed.  This goes for any cursors, repeated ones included,
  and for sheets of any length.
-/
theorem collections_walked
    (limit id name : Datum) :
    ListsSheets limit id ∧ SearchesSheets limit name :=
  ⟨listsSheets limit id, searchesSheets limit name⟩

end Web

/- A sheet with two members. -/
def Sheet.opening : Sheet Datum where
  fields :=
    [("members", .list [.text "U1", .text "U2"]),
      ("response_metadata",
        .object [("next_cursor", .text "more")])]
  items := [.text "U1", .text "U2"]
  cursor := "more"

/- A sheet with nothing, and the same cursor again. -/
def Sheet.vacant : Sheet Datum where
  fields :=
    [("response_metadata",
      .object [("next_cursor", .text "more")])]
  items := []
  cursor := "more"

/- A last sheet, with a member who came before. -/
def Sheet.closing : Sheet Datum where
  fields :=
    [("members", .list [.text "U2", .text "U3"]),
      ("response_metadata", .null)]
  items := [.text "U2", .text "U3"]
  cursor := ""

/- A sheet with a channel. -/
def Sheet.lounge : Sheet Observed where
  fields :=
    [("channels",
      .list [
        .object [("id", .text "C1"), ("name", .text "tea")]])]
  items := [{ id := .text "C1", name := .text "tea" }]
  cursor := ""

/-
  Three calls list three members, and one call finds the
  channel or finds that there is none of another name; the
  entry behind stays in the script.
-/
theorem Web.collections_walked_sample :
    (Access.memberIds (.number 5) (.text "C1")).Returns
        (Web.remote Script.client)
        ⟨[Sheet.opening.entry, Sheet.vacant.entry,
          Sheet.closing.entry, Sheet.closing.entry], []⟩
        [.text "U1", .text "U2", .text "U3"]
        ⟨[Sheet.closing.entry],
          [Web.membersCall (.number 5) (.text "C1") .null,
            Web.membersCall (.number 5) (.text "C1")
              (.text "more"),
            Web.membersCall (.number 5) (.text "C1")
              (.text "more")]⟩ ∧
      (findByName (.number 5) (.text "tea")).Returns
        (Web.remote Script.client)
        ⟨[Sheet.lounge.entry, Sheet.closing.entry], []⟩
        { id := .text "C1", name := .text "tea" }
        ⟨[Sheet.closing.entry],
          [Web.channelsCall (.number 5) .null]⟩ ∧
      (findByName (.number 5) (.text "nap")).Stops
        (Web.remote Script.client)
        ⟨[Sheet.lounge.entry, Sheet.closing.entry], []⟩
        (.failure
          (.single .notFound "No channel named 'nap'"
            (.text "") none))
        ⟨[Sheet.closing.entry],
          [Web.channelsCall (.number 5) .null]⟩ := by
  have hWalked :=
    Web.collections_walked (.number 5) (.text "C1")
      (.text "tea")
  have hOpening : Sheet.opening.HasMembers :=
    { listed := rfl
      texts := by simp [Sheet.opening, Datum.isText]
      cursor := .carried rfl rfl }
  have hVacant : Sheet.vacant.HasMembers :=
    { listed := rfl
      texts := by simp [Sheet.vacant]
      cursor := .carried rfl rfl }
  have hClosing : Sheet.closing.HasMembers :=
    { listed := rfl
      texts := by simp [Sheet.closing, Datum.isText]
      cursor := .nullMetadata rfl }
  have hLounge : Sheet.lounge.HasChannels :=
    { listed := ⟨_, rfl, rfl⟩
      cursor := .noMetadata rfl }
  refine ⟨?_, ?_, ?_⟩
  · exact hWalked.1.complete [Sheet.opening, Sheet.vacant]
      Sheet.closing [Sheet.closing.entry] []
      (by simp [hOpening, hVacant])
      (by simp [Sheet.Leading, Sheet.opening, Sheet.vacant])
      hClosing (by simp [Sheet.Leading, Sheet.closing])
  · exact hWalked.2.found [] Sheet.lounge _
      [Sheet.closing.entry] [] (by simp) (by simp) rfl hLounge
      rfl
  · have hText :
        "No channel named " ++ (Datum.text "nap").written =
          "No channel named 'nap'" := by
      decide +kernel
    have hMissing :=
      (Web.collections_walked (.number 5) (.text "C1")
        (.text "nap")).2.missing
    rw [hText] at hMissing
    exact hMissing [] Sheet.lounge [Sheet.closing.entry] []
      (by simp) (by simp) hLounge
      (by simp [Sheet.Leading, Sheet.lounge]) rfl

end ChannelSync
