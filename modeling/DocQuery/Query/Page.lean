import DocQuery.Json.Decode

/-!
# Pages

A client asks for a page by its number or by an offset; the service bounds the size of a page.
Numbers are natural numbers of 64 bits, and a product that exceeds them stops at the greatest one.

## Main definitions

* `PageRequest`, `PageSettings`
* `Page`, `Page.ofRequest`: the window that a request comes to
-/

namespace DocQuery

/-- The greatest count that a page can speak of. -/
def countLimit : Nat := 0xFFFFFFFFFFFFFFFF

/-- A requested page. -/
structure PageRequest where
  /-- The number of the page; the first is 1. -/
  page : Option Nat
  /-- The size of the page. -/
  limit : Option Nat
  /-- The number of records to skip; it wins over the number of the page. -/
  offset : Option Nat
  /-- A text that is handed back untouched. -/
  cursor : Option String
deriving DecidableEq

namespace PageRequest

/-- A request that leaves everything open. -/
def unspecified : PageRequest := ⟨none, none, none, none⟩

/-- A page by number and size. -/
def numbered (page limit : Nat) : PageRequest := ⟨some page, some limit, none, none⟩

/-- Read a page request. -/
def decode : Decoder PageRequest :=
  let count := Decoder.optional Decoder.natural
  Decoder.record
    [.defaulted ["page"] count fun page r => { r with page },
     .defaulted ["limit"] count fun limit r => { r with limit },
     .defaulted ["offset"] count fun offset r => { r with offset },
     .defaulted ["cursor"] (Decoder.optional Decoder.text) fun cursor r => { r with cursor }]
    false unspecified

end PageRequest

/-- The bounds on the size of a page. -/
structure PageSettings where
  defaultLimit : Nat
  maxLimit : Nat
deriving DecidableEq

/-- Ten records a page, at most a hundred. -/
def PageSettings.standard : PageSettings := ⟨10, 100⟩

/-- A window of the results. -/
structure Page where
  page : Nat
  limit : Nat
  skip : Nat
  offset : Option Nat
  cursor : Option String
deriving DecidableEq

namespace Page

/-- The size of a page: a missing or zero size takes the default, and the maximum bounds it.  It is
never zero. -/
def limitOf (request : PageRequest) (settings : PageSettings) : Nat :=
  let requested := max 1 ((request.limit.filter (0 < ·)).getD settings.defaultLimit)
  min requested (max 1 settings.maxLimit)

/-- The window of a request.  Of an offset the reported page is the one that contains it.  The number
of that page is not bounded here: it exceeds `countLimit` for one request, the offset `countLimit` at
a size of 1.  What a service answers to that request lies outside of the library; `Page.resolve?`
tells it apart. -/
def ofRequest (request : PageRequest) (settings : PageSettings) : Page :=
  let limit := limitOf request settings
  let (page, skip) := match request.offset with
    | some offset => (offset / limit + 1, offset)
    | none =>
      let page := max 1 (request.page.getD 1)
      (page, min ((page - 1) * limit) countLimit)
  { page, limit, skip, offset := request.offset, cursor := request.cursor }

end Page

/-- Where a page stands among all results. -/
structure PageSummary where
  totalCount : Nat
  currentPage : Nat
  pageSize : Nat
deriving DecidableEq

namespace PageSummary

/-- The number of pages, the last of which may be shorter; without a page size there are none. -/
def totalPages (s : PageSummary) : Nat :=
  if s.pageSize = 0 then 0 else (s.totalCount + s.pageSize - 1) / s.pageSize

/-- Whether a page follows. -/
def hasNext (s : PageSummary) : Bool := s.currentPage < s.totalPages

/-- Whether a page precedes. -/
def hasPrevious (s : PageSummary) : Bool := 1 < s.currentPage

end PageSummary

end DocQuery
