/-
**Pages of a listing.**

A request names a limit and an offset. The limit in force is at least 1 and at most 100.

* `PageRequest.clamped`: the limit in force;
* `PageMeta.hasMore`: rows remain beyond the page;
* `Page.of`: the page of a whole listing.
-/

namespace Passbook

/-- The greatest value of an unsigned 64-bit number. -/
def greatestUnsigned : Nat := 18446744073709551615

/-- Where a page starts and how many rows it may have. -/
structure PageRequest where
  limit : Nat
  offset : Nat
deriving DecidableEq

namespace PageRequest

/-- The rows of a page when nothing else is asked for. -/
def defaultLimit : Nat := 20

/-- The most rows of a page. -/
def greatestLimit : Nat := 100

/-- The first page of the usual size. -/
def standard : PageRequest := ⟨defaultLimit, 0⟩

/-- The limit in force. -/
def clamped (request : PageRequest) : Nat := max 1 (min request.limit greatestLimit)

/-- The request with its limit brought into force. -/
def normal (request : PageRequest) : PageRequest := ⟨request.clamped, request.offset⟩

end PageRequest

/-- What a page tells about the listing it was cut from. -/
structure PageMeta where
  limit : Nat
  offset : Nat
  total : Nat
deriving DecidableEq

namespace PageMeta

/-- The page ends before the listing does. -/
def hasMore (info : PageMeta) : Bool :=
  decide (min (info.offset + info.limit) greatestUnsigned < info.total)

end PageMeta

/-- Rows and where they stand in the listing. -/
structure Page (α : Type) where
  data : List α
  info : PageMeta

namespace Page

variable {α : Type}

/-- Rows that were fetched for a request out of so many. -/
def fetched (data : List α) (request : PageRequest) (total : Nat) : Page α :=
  ⟨data, request.clamped, request.offset, total⟩

/-- The page of a whole listing. -/
def of (rows : List α) (request : PageRequest) : Page α :=
  fetched ((rows.drop request.offset).take request.clamped) request rows.length

end Page

end Passbook
