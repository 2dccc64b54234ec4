import Mathlib.Data.List.Lex
import Mathlib.Data.Prod.Lex
import PublicLighting.Exchange.Documents
import PublicLighting.Exchange.Filters
import PublicLighting.Foundations.Effects
import PublicLighting.Foundations.Keyset

/-! The streamed export of the inventory, against a schedule of failing queries, failing
writes and a client that goes away. -/

namespace PublicLighting.Exchange

open Foundations (Program Keyset.ordered Keyset.page)

inductive QueryFault
  | none
  | refused
  | lost
  deriving DecidableEq, Repr

/-- `refused` writes nothing, `closed` hands the text over and then loses the client. -/
inductive WriteFault
  | none
  | refused
  | closed
  deriving DecidableEq, Repr

/-- What befalls each await, counted from the start, and the await by which the client has
gone away. -/
structure Schedule where
  query : Nat → QueryFault
  write : Nat → WriteFault
  leaves : Option Nat

def Schedule.hasLeft (schedule : Schedule) (awaits : Nat) : Bool := schedule.leaves.any fun moment => moment ≤ awaits

def faultless : Schedule := ⟨fun _ => .none, fun _ => .none, none⟩

inductive ExportError
  | filter (error : FilterError)
  | noConnection
  | query
  | disconnected
  deriving DecidableEq, Repr

structure ExportResponse where
  statusCode : Nat
  headers : List (String × String)
  written : List Units
  ended : Bool
  destroyed : Bool
  deriving DecidableEq

/-- The transaction of the database session. -/
inductive Session
  | idle
  | working
  | aborted
  | gone
  deriving DecidableEq, Repr

/-- `inTransaction` and `started` are the variables of the function. -/
structure ExportState where
  response : ExportResponse
  session : Session
  obtained : Nat
  released : Nat
  inTransaction : Bool
  started : Bool
  awaits : Nat
  deriving DecidableEq

def newExport : ExportState := ⟨⟨200, [], [], false, false⟩, .idle, 0, 0, false, false, 0⟩

inductive Statement
  | begin
  | select
  | commit
  | rollback
  deriving DecidableEq, Repr

def Session.execute : Session → Statement → Option Session
  | .idle, .begin => some .working
  | .idle, .select => some .idle
  | .working, .begin => some .working
  | .working, .select => some .working
  | .gone, _ => none
  | _, .commit => some .idle
  | _, .rollback => some .idle
  | .aborted, _ => none

/-- A statement that raises aborts its transaction, and a `COMMIT` that raises ends it. A
`ROLLBACK` fails only with its connection. -/
def Session.refuse : Session → Statement → Session
  | .gone, _ => .gone
  | _, .rollback => .gone
  | _, .commit => .idle
  | .working, _ => .aborted
  | session, _ => session

def Session.IsEnded (session : Session) : Prop := session = .idle ∨ session = .gone

abbrev ExportTask := Program ExportState ExportError

def chunkRows : Nat := 250

/-- `(inventory_number COLLATE "C", id)`: the bytes of the number, then the id. -/
def sortKey (row : ExportRow) : List Nat ×ₗ ℤ :=
  toLex ((Foundations.WireText.utf8 row.inventoryNumber.toList).map UInt8.toNat, row.id)

/-- What a repeatable read sees of the table. -/
structure Snapshot where
  rows : List ExportRow
  distinct : (rows.map ExportRow.id).Nodup

section Calls

variable (schedule : Schedule)

def connect : ExportTask Unit := fun w =>
  match schedule.query w.awaits with
  | .none => (.returned (), { w with session := .idle, obtained := w.obtained + 1, awaits := w.awaits + 1 })
  | _ => (.threw .noConnection, { w with awaits := w.awaits + 1 })

def query (statement : Statement) : ExportTask Unit := fun w =>
  let next := fun session => { w with session := session, awaits := w.awaits + 1 }
  match schedule.query w.awaits with
  | .none =>
      match w.session.execute statement with
      | some session => (.returned (), next session)
      | none => (.threw .query, next w.session)
  | .refused => (.threw .query, next (w.session.refuse statement))
  | .lost => (.threw .query, next .gone)

def write (value : Units) : ExportTask Unit := fun w =>
  let next := { w with awaits := w.awaits + 1 }
  let handed := { next with response := { w.response with written := w.response.written ++ [value] } }
  if w.response.destroyed || w.response.ended then (.threw .disconnected, next)
  else
    match schedule.write w.awaits with
    | .none => (.returned (), handed)
    | .refused => (.threw .disconnected, next)
    | .closed => (.threw .disconnected, handed)

def clientDisconnected : ExportTask Bool :=
  Program.read fun w => w.response.destroyed || (!w.response.ended && schedule.hasLeft w.awaits)

def release : ExportTask Unit := Program.update fun w => { w with released := w.released + 1 }

def setInTransaction (value : Bool) : ExportTask Unit := Program.update fun w => { w with inTransaction := value }

end Calls

section Streaming

variable (schedule : Schedule) (format : ExportFormat) (rows : List ExportRow)

/-- The rows of the filter after the last one, in order. -/
def readChunk (last : Option ExportRow) : ExportTask (List ExportRow) := do
  query schedule .select
  return Keyset.page sortKey chunkRows (last.map sortKey) rows

/-- The loop over a chunk, which ends early when the client goes away. -/
def exportRows : List ExportRow → Bool → Option ExportRow → ExportTask (Bool × Option ExportRow)
  | [], first, last => return (first, last)
  | row :: chunk, first, last => do
      if ← clientDisconnected schedule then return (first, last)
      Program.forEach (write schedule) (writeRow format first row)
      exportRows chunk (stillFirst format first) (some row)

/-- The loop over the chunks, with a bound on its turns. -/
def exportChunks : Nat → List ExportRow → Bool → Option ExportRow → ExportTask Unit
  | 0, _, _, _ => fun w => (.died, w)
  | turns + 1, chunk, first, last => do
      if chunk = [] then return
      if ← clientDisconnected schedule then return
      let (first, last) ← exportRows schedule format chunk first last
      if chunk.length < chunkRows then return
      if ← clientDisconnected schedule then return
      let chunk ← readChunk schedule rows last
      exportChunks turns chunk first last

def contentType : ExportFormat → String
  | .csv => "text/csv; charset=utf-8"
  | .json => "application/json; charset=utf-8"
  | .geojson => "application/geo+json; charset=utf-8"

def formatName : ExportFormat → String
  | .csv => "csv"
  | .json => "json"
  | .geojson => "geojson"

/-- The status and the headers. `today` is the date at that moment. -/
def startResponse (today : String) : ExportTask Unit := Program.update fun w =>
  { w with
    started := true
    response :=
      { w.response with
        statusCode := 200
        headers := w.response.headers ++ [("Content-Type", contentType format),
          ("Content-Disposition",
            "attachment; filename=\"street-lights-" ++ today ++ "." ++ formatName format ++ "\"")] } }

/-- The body of the `try`. -/
def exportBody (today : String) : ExportTask Unit := do
  query schedule .begin
  setInTransaction true
  let chunk ← readChunk schedule rows none
  startResponse format today
  write schedule (opening format)
  exportChunks schedule format rows (rows.length + 1) chunk true none
  if ← clientDisconnected schedule then do
    query schedule .rollback
    setInTransaction false
  else do
    Program.forEach (write schedule) (closing format)
    query schedule .commit
    setInTransaction false
    Program.update fun w => { w with response := { w.response with ended := true } }

/-- The `catch`. -/
def handleError (error : ExportError) : ExportTask Unit := do
  if ← Program.read ExportState.inTransaction then do
    Program.catching (query schedule .rollback) fun _ => pure ()
    setInTransaction false
  if ← Program.read ExportState.started then
    Program.update fun w => { w with response := { w.response with destroyed := true } }
  else Program.throw error

end Streaming

/-- `streamStreetLightsExport` over a snapshot of the inventory. -/
def streamStreetLightsExport (texts : SearchText) (schedule : Schedule) (format : ExportFormat)
    (filters : StreetLightFilters) (today : String) (snapshot : Snapshot) : ExportTask Unit :=
  match buildStreetLightFilters texts filters with
  | .error error => Program.throw (.filter error)
  | .ok keeps => do
      connect schedule
      Program.ending
        (Program.catching (exportBody schedule format (snapshot.rows.filter keeps) today)
          (handleError schedule)) release

end PublicLighting.Exchange
