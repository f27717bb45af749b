import SqlComposer.Connection.Row

/-!
One page of a longer list of rows. Pages are numbered from one; a page size or number of zero
stands for the default.
-/

namespace SqlComposer

structure Page where
  total : UInt64
  perPage : UInt64
  currentPage : UInt64
  lastPage : UInt64
  nextPage : Option UInt64
  previousPage : Option UInt64
  items : List Row
  deriving DecidableEq, Repr

namespace Page

def defaultPerPage : UInt64 := 15

def normalize (perPage page : UInt64) : UInt64 × UInt64 :=
  (if perPage = 0 then defaultPerPage else perPage, if page = 0 then 1 else page)

def pageCount (total perPage : UInt64) : UInt64 :=
  UInt64.ofNat (max 1 ((total.toNat + perPage.toNat - 1) / perPage.toNat))

def ofRows (total perPage currentPage : UInt64) (items : List Row) : Page :=
  let (perPage, page) := normalize perPage currentPage
  { total, perPage, items
    currentPage := page
    lastPage := pageCount total perPage
    nextPage :=
      if min (page.toNat * perPage.toNat) (UInt64.size - 1) < total.toNat ∧
          page.toNat < UInt64.size - 1 then
        some (page + 1)
      else none
    previousPage := if 1 < page then some (page - 1) else none }

def isEmpty (p : Page) : Bool := p.items.isEmpty

def jsonNumber : Option UInt64 → String
  | some n => toString n.toNat
  | none => "null"

def json (p : Page) : String :=
  "\x7b\"total\":" ++ jsonNumber (some p.total) ++
    ",\"per_page\":" ++ jsonNumber (some p.perPage) ++
    ",\"current_page\":" ++ jsonNumber (some p.currentPage) ++
    ",\"last_page\":" ++ jsonNumber (some p.lastPage) ++
    ",\"next_page\":" ++ jsonNumber p.nextPage ++
    ",\"previous_page\":" ++ jsonNumber p.previousPage ++
    ",\"items\":[" ++ ",".intercalate (p.items.map Row.json) ++ "]\x7d"

end Page

end SqlComposer
