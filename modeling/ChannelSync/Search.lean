import ChannelSync.Program

/-
  Searching channels by name.

  `findByName` asks for the pages of the channel listing one
  after the other, until one of them has a channel of the
  name.  It is the stored name itself that is compared.

  Key definitions include:
    * `Search.findFrom`
    * `findByName`
-/

------------------------------------------------------------
-- Search by Name
------------------------------------------------------------

namespace ChannelSync

namespace Search

open Program

/- The failure of a search without a result. -/
def noneNamed
    (name : Datum) :
    Failure :=
  .single .notFound
    ("No channel named " ++ name.written) (.text "") none

/-
  The first channel of a name on the pages from a cursor on,
  after some pages without one.
-/
def findFrom
    (limit name : Datum) :
    Nat → Nat → Datum → Program Observed
  | 0, _, _ => abort .endlessListing
  | bound + 1, before, cursor => do
      let page ← send (.channelPage cursor limit)
      match page.items.find? (fun c => c.name == name) with
      | some channel =>
          record (.found name channel.id (before + 1))
          return channel
      | none =>
          if page.next.truthy then
            findFrom limit name bound (before + 1) page.next
          else
            fail (noneNamed name)

end Search

/-
  The first channel of a name in the order of the listing,
  private or not, archived or not.
-/
def findByName
    (limit name : Datum) :
    Program Observed := do
  let bound ← Program.pageBound .channels limit
  Search.findFrom limit name bound 0 (.text "")

end ChannelSync
