import CliMetadata.Config
import CliMetadata.Text.Blank
import CliMetadata.Text.Numeral

namespace CliMetadata

structure PageRequest where
  limit : Option Nat := none
  cursor : Option String := none
  deriving DecidableEq

/-- How many results to leave out, and how many to give then. -/
structure Window where
  offset : Nat
  limit : Nat
  deriving DecidableEq

namespace Window

def readCursor (cursor : String) : Except Error Nat :=
  let text := trimmed cursor
  if text = "" then .ok 0
  else match Numeral.decimal? 64 text with
    | some n => .ok n
    | none => .error (.invalidArgument (.pageCursor text))

def ofRequest (config : Config) (request : PageRequest) : Except Error Window :=
  let limit := request.limit.getD config.defaultPageSize
  if limit = 0 then .error (.invalidArgument .emptyPage)
  else do
    let offset ← request.cursor.elim (.ok 0) readCursor
    pure ⟨offset, min limit (max 1 (min config.maxPageSize Config.pageSizeCeiling))⟩

def stop (w : Window) : Nat := w.offset + w.limit

def view {α : Type} (w : Window) (results : List α) : List α :=
  (results.drop w.offset).take w.limit

end Window

structure Page (α : Type) where
  items : List α
  nextCursor : Option String
  hasMore : Bool
  totalCount : Nat
  totalIsExact : Bool
  scanComplete : Bool
  deriving DecidableEq

namespace Page

variable {α β : Type}

def complete (results : List α) (w : Window) : Page α :=
  let more := decide (w.stop < results.length)
  { items := w.view results
    nextCursor := if more then some (toString w.stop) else none
    hasMore := more
    totalCount := results.length
    totalIsExact := true
    scanComplete := true }

/-- A page of the results found so far. Its cursor stands right behind its items, so that nothing is
left out when the search goes on. -/
def partway (found : List α) (w : Window) : Page α :=
  let items := w.view found
  { items
    nextCursor := some (toString (w.offset + items.length))
    hasMore := true
    totalCount := found.length
    totalIsExact := false
    scanComplete := false }

def map (f : α → β) (page : Page α) : Page β := { page with items := page.items.map f }

end Page

end CliMetadata
