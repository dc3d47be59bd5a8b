import ChannelSync.Proofs.Text.Decimal
import ChannelSync.Proofs.Workspace.Pages

/-
  Tours through the pages of a listing.

  Whoever follows the cursors of a listing visits one page
  after the other, each with the cursor that came with the
  page before it.  Where the pages come from does not matter:
  a source answers cursors, and may change its state by that.
  A tour is a walk from the empty cursor to a page that leads
  nowhere.

  The pages of a list are its tiles.  There is one tour
  through them, and it shows every item once.

  Key definitions include:
    * `Paging.Visit` and `Paging.Source`
    * `Paging.Leads` and `Paging.Tours`
    * `Paging.ofList`
    * `Paging.tiles` and `Paging.Tiled`

  Key theorems include:
    * `Paging.Leads.state_eq`
    * `Paging.Tours.split`
    * `Paging.tours_unique`
    * `Paging.page_tile`
    * `Paging.tours_tiles`
    * `Paging.tiled_tiles`
-/

------------------------------------------------------------
-- Walks
------------------------------------------------------------

namespace ChannelSync

namespace Paging

/- A page with the cursor that it was asked for with. -/
structure Visit (α : Type) where
  cursor : Datum
  page : Page α

/- The items of some pages, one page after the other. -/
def shown
    (visits : List (Visit α)) :
    List α :=
  visits.flatMap fun visit => visit.page.items

/- The items of the first page come first. -/
theorem shown_cons
    (visit : Visit α)
    (visits : List (Visit α)) :
    shown (visit :: visits) =
      visit.page.items ++ shown visits :=
  List.flatMap_cons

/- The items of the last page come last. -/
theorem shown_snoc
    (visits : List (Visit α))
    (visit : Visit α) :
    shown (visits ++ [visit]) =
      shown visits ++ visit.page.items := by
  simp [shown]

/- A way to ask for pages, with a state of its own. -/
abbrev Source (σ ε α : Type) : Type :=
  σ → Datum → Except ε (Page α) × σ

/- From one cursor, some pages lead on to another. -/
inductive Leads
    (source : Source σ ε α) :
    σ → Datum → List (Visit α) → σ → Datum → Prop where
  | here
      (s : σ)
      (cursor : Datum) :
      Leads source s cursor [] s cursor
  | onward
      {s middle after : σ}
      {cursor next : Datum}
      {page : Page α}
      {visits : List (Visit α)}
      (hPage : source s cursor = (.ok page, middle))
      (hMore : page.next.truthy = true)
      (hRest :
        Leads source middle page.next visits after next) :
      Leads source s cursor (⟨cursor, page⟩ :: visits)
        after next

/- From the empty cursor, some pages lead to a last one. -/
inductive Tours
    (source : Source σ ε α)
    (s : σ) :
    List (Visit α) → σ → Prop where
  | ended
      {middle after : σ}
      {cursor : Datum}
      {page : Page α}
      {visits : List (Visit α)}
      (hLeads :
        Leads source s (.text "") visits middle cursor)
      (hPage : source middle cursor = (.ok page, after))
      (hLast : page.next.truthy = false) :
      Tours source s (visits ++ [⟨cursor, page⟩]) after

variable {σ ε α : Type}
variable {source : Source σ ε α}
variable {s middle after : σ}
variable {cursor next : Datum}
variable {page : Page α}
variable {visits : List (Visit α)}

/- A walk goes on with one more page. -/
theorem Leads.snoc
    (h : Leads source s cursor visits middle next)
    (hPage : source middle next = (.ok page, after))
    (hMore : page.next.truthy = true) :
    Leads source s cursor (visits ++ [⟨next, page⟩]) after
      page.next := by
  induction h with
  | here s cursor =>
      exact Leads.onward hPage hMore (Leads.here _ _)
  | onward hFirst hOn hRest ih =>
      exact Leads.onward hFirst hOn (ih hPage)

/- The first part of a walk is a walk. -/
theorem Leads.split
    {before later : List (Visit α)}
    {visit : Visit α}
    (h : Leads source s cursor (before ++ visit :: later)
      after next) :
    ∃ middle after',
      Leads source s cursor before middle visit.cursor ∧
        source middle visit.cursor =
          (.ok visit.page, after') := by
  induction before generalizing s cursor with
  | nil =>
      cases h with
      | onward hPage hMore hRest =>
          exact ⟨s, _, Leads.here _ _, hPage⟩
  | cons first before ih =>
      cases h with
      | onward hPage hMore hRest =>
          rcases ih hRest with
            ⟨middle, after', hLeads, hVisit⟩
          exact ⟨middle, after',
            Leads.onward hPage hMore hLeads, hVisit⟩

/- Each page of a tour is reached by those before it. -/
theorem Tours.split
    {before later : List (Visit α)}
    {visit : Visit α}
    (h : Tours source s (before ++ visit :: later) after) :
    ∃ middle after',
      Leads source s (.text "") before middle visit.cursor ∧
        source middle visit.cursor =
          (.ok visit.page, after') := by
  generalize hVisits : before ++ visit :: later = visits at h
  cases h with
  | ended hLeads hPage hLast =>
      rcases List.eq_nil_or_concat later with
        rfl | ⟨rest, last, rfl⟩
      · rcases List.append_inj' hVisits rfl with
          ⟨rfl, hVisit⟩
        cases hVisit
        exact ⟨_, _, hLeads, hPage⟩
      · rw [List.concat_eq_append, ← List.cons_append,
          ← List.append_assoc] at hVisits
        rcases List.append_inj' hVisits rfl with
          ⟨rfl, -⟩
        exact hLeads.split

/- A source that keeps its state is left as it was. -/
theorem Leads.state_eq
    (hSource : ∀ s cursor, (source s cursor).2 = s)
    (h : Leads source s cursor visits after next) :
    after = s := by
  induction h with
  | here s cursor => rfl
  | @onward s _ _ cursor _ _ _ hPage hMore hRest ih =>
      have hSame := hSource s cursor
      rw [hPage] at hSame
      exact ih.trans hSame

/- Two walks to a last page are the same. -/
theorem Leads.unique_last
    {middle' after' : σ}
    {next' : Datum}
    {page' : Page α}
    {visits' : List (Visit α)}
    (h : Leads source s cursor visits middle next)
    (hPage : source middle next = (.ok page, after))
    (hLast : page.next.truthy = false)
    (h' : Leads source s cursor visits' middle' next')
    (hPage' : source middle' next' = (.ok page', after'))
    (hLast' : page'.next.truthy = false) :
    visits ++ [⟨next, page⟩] = visits' ++ [⟨next', page'⟩] ∧
      after = after' := by
  induction h generalizing visits' with
  | here s cursor =>
      cases h' with
      | here =>
          cases hPage.symm.trans hPage'
          exact ⟨rfl, rfl⟩
      | onward hFirst hMore hRest =>
          cases hPage.symm.trans hFirst
          cases hLast.symm.trans hMore
  | onward hFirst hMore hRest ih =>
      cases h' with
      | here =>
          cases hFirst.symm.trans hPage'
          cases hLast'.symm.trans hMore
      | onward hFirst' hMore' hRest' =>
          cases hFirst.symm.trans hFirst'
          rcases ih hPage hRest' with ⟨hVisits, hAfter⟩
          exact ⟨congrArg _ hVisits, hAfter⟩

/- There is at most one tour. -/
theorem tours_unique
    {after' : σ}
    {visits' : List (Visit α)}
    (h : Tours source s visits after)
    (h' : Tours source s visits' after') :
    visits = visits' ∧ after = after' := by
  cases h with
  | ended hLeads hPage hLast =>
      cases h' with
      | ended hLeads' hPage' hLast' =>
          exact hLeads.unique_last hPage hLast hLeads'
            hPage' hLast'

end Paging

end ChannelSync

------------------------------------------------------------
-- Tiles of a List
------------------------------------------------------------

namespace ChannelSync

namespace Paging

/- The pages of a list as a source, which has no state. -/
def ofList
    (items : List α)
    (limit : Datum) :
    Source Unit Fault α :=
  fun _ cursor => (page items cursor limit, ())

/-
  The page of some number, of the pages of a size.  Behind
  the last one there is nothing.
-/
def tile
    (items : List α)
    (size n : Nat) :
    Visit α :=
  ⟨cursorAt (n * size),
    ⟨(items.drop (n * size)).take size,
      if (n + 1) * size < items.length then
        cursorAt ((n + 1) * size)
      else
        .text ""⟩⟩

/-
  How many pages there are: the length is divided by the size
  and rounded up, but an empty list has a page, too.
-/
def tileCount
    (length size : Nat) :
    Nat :=
  max 1 ((length + size - 1) / size)

/- All pages of a size. -/
def tiles
    (items : List α)
    (size : Nat) :
    List (Visit α) :=
  (List.range (tileCount items.length size)).map
    (tile items size)

variable {α : Type}
variable {items : List α}
variable {size : Nat}

/- There is always a first page. -/
theorem tileCount_pos
    (length size : Nat) :
    0 < tileCount length size :=
  Nat.lt_of_lt_of_le Nat.one_pos (Nat.le_max_left _ _)

/- No more pages are needed than cover the list. -/
theorem tileCount_le_iff
    {length n : Nat}
    (hSize : 0 < size)
    (hn : 0 < n) :
    tileCount length size ≤ n ↔ length ≤ n * size := by
  have hRounded :
      (length + size - 1) / size ≤ n ↔ length ≤ n * size := by
    rw [Nat.div_le_iff_le_mul_add_pred hSize,
      Nat.mul_comm size n]
    omega
  unfold tileCount
  rw [Nat.max_le, hRounded]
  exact and_iff_right hn

/- A page is followed by another if items are left. -/
theorem lt_tileCount_iff
    {length n : Nat}
    (hSize : 0 < size)
    (hn : 0 < n) :
    n < tileCount length size ↔ n * size < length := by
  rw [← Nat.not_le, tileCount_le_iff hSize hn, Nat.not_le]

/- Besides the first one, each page has an item. -/
theorem tileCount_le
    (hSize : 0 < size)
    (length : Nat) :
    tileCount length size ≤ length + 1 := by
  rw [tileCount_le_iff hSize (Nat.succ_pos _)]
  exact Nat.le_trans (Nat.le_succ _)
    (Nat.le_mul_of_pos_right _ hSize)

/- A page of the list has a position that can be written. -/
theorem tile_start_lt
    {n : Nat}
    (hSize : 0 < size)
    (hWritable : Writable size 0 items.length)
    (hn : n < tileCount items.length size) :
    n * size < Numeral.numberLimit := by
  rcases Nat.eq_zero_or_pos n with rfl | hPos
  · rw [Nat.zero_mul]
    exact Numeral.numberLimit_pos
  · have hStart := (lt_tileCount_iff hSize hPos).mp hn
    rw [← Nat.zero_add (n * size)] at hStart ⊢
    exact hWritable n hStart

/- Each page of the list is the tile of its number. -/
theorem page_tile
    {n : Nat}
    (hSize : 0 < size)
    (hWritable : Writable size 0 items.length)
    (hn : n < tileCount items.length size) :
    page items (tile items size n).cursor (.number size) =
      .ok (tile items size n).page := by
  have hStart := tile_start_lt hSize hWritable hn
  simp only [tile]
  rw [page_cursorAt hSize hStart, Nat.succ_mul]
  by_cases hMore : n * size + size < items.length
  · have hNext : n + 1 < tileCount items.length size := by
      rw [lt_tileCount_iff hSize (Nat.succ_pos n),
        Nat.succ_mul]
      exact hMore
    have hShort := tile_start_lt hSize hWritable hNext
    rw [Nat.succ_mul] at hShort
    rw [if_pos hMore, if_pos hMore, if_pos hShort]
  · rw [if_neg hMore, if_neg hMore, List.take_of_length_le]
    rw [List.length_drop]
    omega

/- Before the last page, a page leads on to the next one. -/
theorem next_tile
    {n : Nat}
    (hSize : 0 < size)
    (hn : n + 1 < tileCount items.length size) :
    (tile items size n).page.next =
        cursorAt ((n + 1) * size) ∧
      (tile items size n).page.next.truthy = true := by
  have hMore :=
    (lt_tileCount_iff hSize (Nat.succ_pos n)).mp hn
  have hNext :
      (tile items size n).page.next =
        cursorAt ((n + 1) * size) :=
    if_pos hMore
  rw [hNext]
  exact ⟨rfl, truthy_cursorAt
    (Nat.mul_ne_zero (Nat.succ_ne_zero n)
      (Nat.ne_of_gt hSize))⟩

/- The last page leads nowhere. -/
theorem next_tile_last
    {n : Nat}
    (hSize : 0 < size)
    (hn : tileCount items.length size = n + 1) :
    (tile items size n).page.next = .text "" := by
  have hLast : items.length ≤ (n + 1) * size :=
    (tileCount_le_iff hSize (Nat.succ_pos n)).mp
      (Nat.le_of_eq hn)
  exact if_neg (Nat.not_lt.mpr hLast)

/- A source shows a list if it answers with its tiles. -/
def ShowsTiles
    (source : Source σ ε α)
    (s : σ)
    (items : List α)
    (size : Nat) :
    Prop :=
  ∀ n < tileCount items.length size,
    source s (tile items size n).cursor =
      (.ok (tile items size n).page, s)

/- The first tiles lead on to the one after them. -/
theorem leads_tiles
    {source : Source σ ε α}
    {s : σ}
    (hSize : 0 < size)
    (hShows : ShowsTiles source s items size)
    {n : Nat}
    (hn : n < tileCount items.length size) :
    Leads source s (.text "")
      ((List.range n).map (tile items size)) s
      (tile items size n).cursor := by
  induction n with
  | zero =>
      have hFirst :
          (tile items size 0).cursor = .text "" := by
        simp [tile, cursorAt]
      rw [hFirst]
      exact Leads.here _ _
  | succ n ih =>
      have hBefore := Nat.lt_of_succ_lt hn
      rcases next_tile hSize hn with ⟨hNext, hMore⟩
      have hLeads :=
        (ih hBefore).snoc (hShows n hBefore) hMore
      rw [hNext] at hLeads
      rw [List.range_succ, List.map_append]
      exact hLeads

/- All tiles together are a tour. -/
theorem tours_tiles
    {source : Source σ ε α}
    {s : σ}
    (hSize : 0 < size)
    (hShows : ShowsTiles source s items size) :
    Tours source s (tiles items size) s := by
  rcases Nat.exists_eq_succ_of_ne_zero
    (Nat.ne_of_gt (tileCount_pos items.length size)) with
    ⟨n, hCount⟩
  have hn : n < tileCount items.length size := by omega
  unfold tiles
  rw [hCount, List.range_succ, List.map_append]
  apply Tours.ended (leads_tiles hSize hShows hn)
    (hShows n hn)
  rw [next_tile_last hSize hCount]
  rfl

/- The pages of a list show its tiles. -/
theorem showsTiles_ofList
    (hSize : 0 < size)
    (hWritable : Writable size 0 items.length) :
    ShowsTiles (ofList items (.number size)) () items size :=
  fun _ hn =>
    Prod.ext (page_tile hSize hWritable hn) rfl

end Paging

end ChannelSync

------------------------------------------------------------
-- What the Tiles Are Like
------------------------------------------------------------

namespace ChannelSync

namespace Paging

/-
  Some pages show a list in pieces of a size: as many as it
  takes, asked for with the empty cursor and then with the
  multiples of the size in turn.
-/
structure Tiled
    (items : List α)
    (size : Nat)
    (visits : List (Visit α)) :
    Prop where
  count :
    visits.length =
      max 1 ((items.length + size - 1) / size)
  cursors :
    (visits.map fun visit => visit.cursor) =
      .text "" ::
        (List.range (visits.length - 1)).map fun n =>
          .text ((n + 1) * size).repr
  once : (visits.map fun visit => visit.cursor).Nodup
  emptyFirst :
    .text "" ∉ (visits.map fun visit => visit.cursor).tail
  small :
    ∀ visit ∈ visits, visit.page.items.length ≤ size
  whole : shown visits = items

variable {α : Type}
variable {items : List α}
variable {size : Nat}

/- The first tiles show the first items. -/
theorem shown_tiles
    (items : List α)
    (size n : Nat) :
    shown ((List.range n).map (tile items size)) =
      items.take (n * size) := by
  induction n with
  | zero => simp [shown]
  | succ n ih =>
      have hLast :
          shown ((List.range n).map (tile items size) ++
              [tile items size n]) =
            items.take (n * size) ++
              (items.drop (n * size)).take size := by
        rw [shown_snoc, ih]
        rfl
      rw [List.range_succ, List.map_append, Nat.succ_mul,
        List.take_add]
      exact hLast

/- Behind the first one, cursors are written positions. -/
theorem cursorAt_succ_mul
    (hSize : 0 < size)
    (n : Nat) :
    cursorAt ((n + 1) * size) =
      .text ((n + 1) * size).repr :=
  if_neg
    (Nat.mul_ne_zero (Nat.succ_ne_zero n)
      (Nat.ne_of_gt hSize))

/- They are not empty. -/
theorem cursor_ne_empty
    (hSize : 0 < size)
    (n : Nat) :
    (.text "" : Datum) ≠ .text ((n + 1) * size).repr := by
  intro hEmpty
  have hTruthy : (cursorAt ((n + 1) * size)).truthy = true :=
    truthy_cursorAt
      (Nat.mul_ne_zero (Nat.succ_ne_zero n)
        (Nat.ne_of_gt hSize))
  rw [cursorAt_succ_mul hSize, ← hEmpty] at hTruthy
  cases hTruthy

/- Different pages have different cursors. -/
theorem cursors_injective
    (hSize : 0 < size) :
    Function.Injective fun n : Nat =>
      Datum.text ((n + 1) * size).repr := by
  intro n n' hSame
  have hPositions : (n + 1) * size = (n' + 1) * size :=
    Numeral.repr_injective (Datum.text.inj hSame)
  exact Nat.succ.inj (Nat.eq_of_mul_eq_mul_right hSize
    hPositions)

/- The cursors of the tiles are multiples of the size. -/
theorem cursors_tiles
    (hSize : 0 < size)
    (items : List α) :
    ((tiles items size).map fun visit => visit.cursor) =
      .text "" ::
        (List.range ((tiles items size).length - 1)).map
          fun n => .text ((n + 1) * size).repr := by
  rcases Nat.exists_eq_succ_of_ne_zero
    (Nat.ne_of_gt (tileCount_pos items.length size)) with
    ⟨n, hCount⟩
  have hFirst : cursorAt (0 * size) = .text "" := by
    simp [cursorAt]
  have hLength : (tiles items size).length - 1 = n := by
    simp [tiles, hCount]
  rw [hLength, tiles, hCount, List.range_succ_eq_map,
    List.map_cons, List.map_cons, List.map_map,
    List.map_map]
  refine List.cons_eq_cons.mpr ⟨hFirst, ?_⟩
  apply List.map_congr_left
  intro n hn
  exact cursorAt_succ_mul hSize n

/- The tiles show the list in pieces. -/
theorem tiled_tiles
    (hSize : 0 < size)
    (items : List α) :
    Tiled items size (tiles items size) := by
  have hCursors := cursors_tiles hSize items
  have hNotEmpty :
      .text "" ∉
        (List.range ((tiles items size).length - 1)).map
          fun n => Datum.text ((n + 1) * size).repr := by
    intro hMem
    rcases List.mem_map.mp hMem with ⟨n, -, hEmpty⟩
    exact cursor_ne_empty hSize n hEmpty.symm
  refine
    { count := by simp [tiles, tileCount]
      cursors := hCursors
      once := ?once
      emptyFirst := ?emptyFirst
      small := ?small
      whole := ?whole }
  case once =>
      rw [hCursors, List.nodup_cons]
      refine ⟨hNotEmpty, List.pairwise_map.mpr ?_⟩
      exact List.nodup_range.imp fun hNe hSame =>
        hNe (cursors_injective hSize hSame)
  case emptyFirst =>
      rw [hCursors]
      exact hNotEmpty
  case small =>
      intro visit hVisit
      rcases List.mem_map.mp hVisit with ⟨n, -, rfl⟩
      exact List.length_take_le _ _
  case whole =>
      have hAll :
          items.length ≤
            tileCount items.length size * size :=
        (tileCount_le_iff hSize (tileCount_pos _ _)).mp
          (Nat.le_refl _)
      unfold tiles
      rw [shown_tiles, List.take_of_length_le hAll]

end Paging

end ChannelSync
