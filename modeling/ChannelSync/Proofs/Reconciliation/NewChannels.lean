import ChannelSync.Proofs.Reconciliation.Creations
import ChannelSync.Proofs.Text.Decimal
import ChannelSync.Proofs.Workspace.Neighbours

/-
  New channels and the old ones.

  A channel that is created gets the next identifier that is
  made up.  No identifier is made up twice, so the new
  channel comes after the others and changes none of them.

  This is so as long as nobody else gives a channel such an
  identifier before its time.  A workspace does not look: if
  a channel was added under it by hand, the new channel takes
  its place, and the old one is lost.

  Key definitions include:
    * `Workspace.madeUp`
    * `Workspace.Orderly`
    * `Workspace.Adds`

  Key theorems include:
    * `Workspace.padded_injective`
    * `Workspace.Orderly.unspent`
    * `Workspace.adds_iff`
    * `Workspace.createChannel_adds`
-/

------------------------------------------------------------
-- Identifiers That Are Made Up
------------------------------------------------------------

namespace ChannelSync

namespace Numeral

/- Leading zeros do not count. -/
theorem value_zeros
    (k : Nat)
    (digits : List Nat) :
    value 10 (List.replicate k 0 ++ digits) =
      value 10 digits := by
  induction k with
  | zero => rfl
  | succ k ih => exact ih

end Numeral

namespace Workspace

/- A text is padded with copies of a character. -/
theorem toList_pushn
    (s : String)
    (c : Char)
    (k : Nat) :
    (s.pushn c k).toList =
      s.toList ++ List.replicate k c := by
  induction k with
  | zero => simp [String.pushn, Nat.repeat]
  | succ k ih =>
      have hPush : s.pushn c (k + 1) = (s.pushn c k).push c :=
        rfl
      rw [hPush, String.toList_push, ih,
        List.replicate_succ', List.append_assoc]

/- A padded number is written in digits that stand for it. -/
theorem exists_padded
    (n : Nat) :
    ∃ digits : List Nat,
      (padded n).toList = digits.map Nat.digitChar ∧
        Numeral.value 10 digits = n ∧
        ∀ d ∈ digits, d < 10 := by
  rcases Numeral.exists_digits n with
    ⟨digits, hDigits, hValue, hSmall, -⟩
  refine
    ⟨List.replicate (4 - n.repr.length) 0 ++ digits,
      ?_, ?_, ?_⟩
  · have hZero : Nat.digitChar 0 = '0' := rfl
    simp only [padded, String.toList_append, toList_pushn,
      Nat.toList_repr, hDigits, List.map_append,
      List.map_replicate, hZero]
    rfl
  · rw [Numeral.value_zeros, hValue]
  · intro d hd
    rcases List.mem_append.mp hd with hZero | hDigit
    · rw [(List.mem_replicate.mp hZero).2]
      decide
    · exact hSmall d hDigit

/- No two numbers are padded to the same text. -/
theorem padded_injective
    {m n : Nat}
    (h : padded m = padded n) :
    m = n := by
  rcases exists_padded m with ⟨ds, hDs, hM, hSmall⟩
  rcases exists_padded n with ⟨es, hEs, hN, hSmall'⟩
  rw [h, hEs] at hDs
  rw [← hM, ← hN,
    Numeral.digits_injective hSmall hSmall' hDs.symm]

/- One of the identifiers that are made up. -/
def madeUp
    (n : Nat) :
    Datum :=
  .text ("C" ++ padded n)

/- No two of them are interchangeable. -/
theorem madeUp_ne
    {m n : Nat}
    (h : m ≠ n) :
    (madeUp m == madeUp n) = false := by
  rw [Datum.beq_eq_decide rfl, decide_eq_false_iff_not]
  intro hSame
  apply h
  apply padded_injective
  have hText : "C" ++ padded m = "C" ++ padded n :=
    Datum.text.inj hSame
  exact (String.append_right_inj "C").mp hText

/- Short identifiers are never made up. -/
theorem madeUp_ne_of_short
    {s : String}
    (h : s.length < 5)
    (n : Nat) :
    (Datum.text s == madeUp n) = false := by
  rw [Datum.beq_eq_decide rfl, decide_eq_false_iff_not]
  intro hSame
  have hText : s = "C" ++ padded n := Datum.text.inj hSame
  have hLength := congrArg String.length hText
  have hPadded : 4 ≤ (padded n).length := by
    rw [← String.length_toList, padded,
      String.toList_append, toList_pushn]
    simp only [List.length_append, List.length_replicate,
      String.length_toList]
    omega
  rw [String.length_append] at hLength
  have hC : "C".length = 1 := rfl
  omega

end Workspace

end ChannelSync

------------------------------------------------------------
-- Orderly Workspaces
------------------------------------------------------------

namespace ChannelSync

namespace Workspace

/-
  A workspace whose history is orderly: whenever a channel
  was added by hand, its identifier was not one that was
  still to be made up.  Nothing else is asked of the users,
  channels and requests in its history.
-/
inductive Orderly : Workspace → Prop where
  | empty
      {botId : Datum}
      {w : Workspace}
      (h : Workspace.empty botId = .ok w) :
      Orderly w
  | addUser
      {w w' : Workspace}
      {user : User}
      (hOrderly : Orderly w)
      (h : w.addUser user = .ok w') :
      Orderly w'
  | addChannel
      {w : Workspace}
      {seed : Seed}
      (hOrderly : Orderly w)
      (hSeed :
        ∀ n, w.numbered < n →
          (seed.id == madeUp n) = false) :
      Orderly (w.addChannel seed).2
  | failing
      {w : Workspace}
      (hOrderly : Orderly w)
      (failures : Table Trigger Failure) :
      Orderly (w.withFailures failures)
  | answer
      {w : Workspace}
      (hOrderly : Orderly w)
      (request : Request) :
      Orderly (w.answer request).2

/- No identifier that is still to be made up is in use. -/
def Unspent
    (w : Workspace) :
    Prop :=
  ∀ n, w.numbered < n →
    w.channels.keys.contains (madeUp n) = false

variable {w : Workspace}

/- An update keeps the keys. -/
theorem keys_update
    (w : Workspace)
    (id : Datum)
    (change : Observed → Observed) :
    (w.update id change).2.channels.keys =
      w.channels.keys := by
  unfold Workspace.update
  cases hRoom : w.room id with
  | error problem => rfl
  | ok room => exact keys_putRoom (get?_of_room hRoom) _

/- So does the archive. -/
theorem keys_setArchived
    (w : Workspace)
    (id : Datum)
    (archived : Bool) :
    (w.setArchived id archived).2.channels.keys =
      w.channels.keys := by
  unfold setArchived
  split
  · rfl
  · split
    · rfl
    · exact keys_update w id _

/- Only a creation can bring a new key. -/
theorem keys_grant
    {request : Request}
    (hOther :
      ∀ name isPrivate,
        request ≠ .createChannel name isPrivate) :
    (w.grant request).2.channels.keys = w.channels.keys := by
  cases request with
  | createChannel name isPrivate =>
      exact absurd rfl (hOther name isPrivate)
  | setPurpose id purpose =>
      simp only [grant, setPurpose]
      split
      · rfl
      · exact keys_update w id _
  | setTopic id topic =>
      simp only [grant, setTopic]
      split
      · rfl
      · exact keys_update w id _
  | renameChannel id name =>
      simp only [grant, renameChannel]
      split
      · rfl
      · exact keys_update w id _
  | archiveChannel id => exact keys_setArchived w id true
  | unarchiveChannel id => exact keys_setArchived w id false
  | inviteMembers id userIds =>
      simp only [grant, inviteMembers]
      cases hRoom : w.room id with
      | error problem => rfl
      | ok room => exact keys_putRoom (get?_of_room hRoom) _
  | removeMember id userId =>
      simp only [grant, removeMember]
      cases hRoom : w.room id with
      | error problem => rfl
      | ok room =>
          simp only
          split
          · exact keys_putRoom (get?_of_room hRoom) _
          · rfl
  | _ => rfl

/- A new key is the only one that an insertion can bring. -/
theorem not_contains_putRoom
    {id key : Datum}
    {room : Room}
    (h : w.channels.keys.contains key = false)
    (hNe : (key == id) = false) :
    (w.putRoom id room).channels.keys.contains key =
      false := by
  rw [← Table.get?_eq_none_iff] at h ⊢
  rw [get?_putRoom_of_ne hNe, h]

/-
  A channel that is added spends the identifier that is made
  up for it, and none that is still to come.
-/
theorem Unspent.addChannel
    (h : w.Unspent)
    {seed : Seed}
    (hSeed :
      ∀ n, w.numbered < n →
        (seed.id == madeUp n) = false) :
    (w.addChannel seed).2.Unspent := by
  unfold Workspace.addChannel Datum.orElse
  cases hTruthy : seed.id.truthy with
  | true =>
      simp only [if_true]
      split
      · exact h
      · split
        · exact fun n hn =>
            not_contains_putRoom (h n hn)
              (BEq.symm_false (hSeed n hn))
        · exact h
  | false =>
      simp only [Bool.false_eq_true, if_false]
      have hLater :
          Unspent { w with numbered := w.numbered + 1 } :=
        fun n hn => h n (Nat.lt_of_succ_lt hn)
      split
      · exact hLater
      · split
        · intro n hn
          apply not_contains_putRoom (hLater n hn)
          exact madeUp_ne (Nat.ne_of_gt hn)
        · exact hLater

/- A creation is the addition of a channel. -/
theorem Unspent.createChannel
    (h : w.Unspent)
    (name isPrivate : Datum) :
    (w.createChannel name isPrivate).2.Unspent := by
  unfold Workspace.createChannel
  split
  · exact h
  · apply h.addChannel
    intro n _
    rfl

/- No request spends an identifier that is still to come. -/
theorem Unspent.answer
    (h : w.Unspent)
    (request : Request) :
    (w.answer request).2.Unspent := by
  unfold Workspace.answer
  cases w.refusal request with
  | error problem => exact h
  | ok _ =>
      have hOther :
          (∀ name isPrivate,
            request ≠ .createChannel name isPrivate) →
              (w.grant request).2.Unspent := by
        intro hOther n hn
        rw [keys_grant hOther]
        rw [numbered_grant hOther] at hn
        exact h n hn
      cases request with
      | createChannel name isPrivate =>
          exact h.createChannel name isPrivate
      | _ => exact hOther (by simp)

/- In an orderly history none is ever spent too early. -/
theorem Orderly.unspent
    (h : w.Orderly) :
    w.Unspent := by
  induction h with
  | empty h =>
      unfold Workspace.empty Workspace.addUser at h
      split at h
      · cases h
        exact fun _ _ => rfl
      · cases h
  | addUser _ h ih =>
      unfold Workspace.addUser at h
      split at h
      · cases h
        exact ih
      · cases h
  | addChannel _ hSeed ih => exact ih.addChannel hSeed
  | failing _ failures ih => exact ih
  | answer _ request ih => exact ih.answer request

end Workspace

end ChannelSync

------------------------------------------------------------
-- Creations
------------------------------------------------------------

namespace ChannelSync

namespace Workspace

/-
  A workspace that has one more channel than before, at the
  end and under an identifier of its own.  Its member is the
  user acted as.  All other channels are as they were.
-/
structure Adds
    (w after : Workspace)
    (channel : Observed) :
    Prop where
  fresh : w.channels.get? channel.id = none
  entries :
    after.channels.entries =
      w.channels.entries ++
        [(channel.id, ⟨channel, [w.botId]⟩)]

variable {w : Workspace}
variable {name isPrivate : Datum}
variable {channel : Observed}

/-
  A creation adds a channel if the identifier that is made up
  for it is not in use, and only then.
-/
theorem adds_iff
    (h :
      (w.answer (.createChannel name isPrivate)).1 =
        .ok channel) :
    w.Adds (w.answer (.createChannel name isPrivate)).2
        channel ↔
      w.channels.get? w.nextId = none := by
  rcases answer_createChannel_ok h with ⟨-, rfl, hAfter⟩
  rw [hAfter]
  constructor
  · intro hAdds
    exact hAdds.fresh
  · intro hFresh
    exact ⟨hFresh,
      Table.entries_insert_of_not_contains
        (Table.get?_eq_none_iff.mp hFresh) _⟩

/-
  In an orderly history a creation adds a channel and leaves
  every other one alone.
-/
theorem createChannel_adds
    (hOrderly : w.Orderly)
    (h :
      (w.answer (.createChannel name isPrivate)).1 =
        .ok channel) :
    w.Adds (w.answer (.createChannel name isPrivate)).2
      channel := by
  rw [adds_iff h, Table.get?_eq_none_iff]
  exact hOrderly.unspent _ (Nat.lt_succ_self _)

end Workspace

end ChannelSync

------------------------------------------------------------
-- An Identifier That Is Used Twice
------------------------------------------------------------

namespace ChannelSync

namespace Workspace

/- The small workspace has an orderly history. -/
theorem orderly_sample :
    Workspace.sample.Orderly := by
  have hStaff : Workspace.staff.Orderly :=
    .addUser
      (.addUser
        (.empty (rfl : Workspace.empty (.text "U0") = .ok _))
        (rfl : Workspace.addUser _
          { id := .text "U1", email := .text "a@x" } = _))
      (rfl : Workspace.addUser _
        { id := .text "U2", email := .text "b@x" } = _)
  have hSample :
      (Workspace.staff.addChannel Seed.sample).2.Orderly :=
    .addChannel hStaff fun n _ =>
      madeUp_ne_of_short (by decide) n
  exact hSample

/- So a channel that is created there comes second. -/
theorem createChannel_adds_sample :
    Workspace.sample.Adds
      (Workspace.sample.answer
        (.createChannel (.text "dinner") (.flag true))).2
      (Workspace.sample.newRoom (.text "dinner")
        (.flag true)).state :=
  createChannel_adds orderly_sample rfl

/- A channel under an identifier that is still to come. -/
def Seed.early : Seed where
  name := .text "lunch"
  id := .text "C0001"
  isPrivate := .flag true
  members := .list [.text "U2"]

/- A workspace that comes about by adding it. -/
def early : Workspace :=
  (Workspace.staff.addChannel Seed.early).2

theorem reachable_early :
    early.Reachable :=
  .addChannel reachable_staff
    { name := rfl
      id := Or.inr rfl
      description := rfl
      topic := rfl
      isPrivate := rfl
      archived := rfl
      members := Or.inr ⟨_, rfl, by simp [Datum.isText]⟩ }

/-
  There a new channel gets the identifier of the old one, and
  takes its place.  The old one is gone with its members.
-/
theorem createChannel_replaces :
    early.Reachable ∧
      (early.channels.get? (.text "C0001")).isSome = true ∧
      (early.answer
          (.createChannel (.text "dinner")
            (.flag false))).1 =
        .ok { id := .text "C0001", name := .text "dinner" } ∧
      (early.answer
          (.createChannel (.text "dinner")
            (.flag false))).2.channels.entries =
        [(.text "C0001",
          ⟨{ id := .text "C0001", name := .text "dinner" },
            [.text "U0"]⟩)] ∧
      ¬ early.Adds
        (early.answer
          (.createChannel (.text "dinner")
            (.flag false))).2
        { id := .text "C0001", name := .text "dinner" } := by
  have hAnswer :
      (early.answer
          (.createChannel (.text "dinner")
            (.flag false))).1 =
        .ok { id := .text "C0001", name := .text "dinner" } :=
    rfl
  refine ⟨reachable_early, rfl, hAnswer, rfl, ?_⟩
  rw [adds_iff hAnswer]
  intro hFresh
  cases hFresh

end Workspace

end ChannelSync
