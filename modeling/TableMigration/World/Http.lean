import TableMigration.World.Basic
import TableMigration.Control.Error
import TableMigration.Control.MediaType
import TableMigration.Control.Request
import TableMigration.Control.Target
import TableMigration.Control.Wire

/-!
# World.Http

The control surface over HTTP, served in process.

| method | path | does |
| --- | --- | --- |
| GET | `/health` | status `healthy`, version, current pattern |
| POST | `/migrator/src_only`, `src_first`, `dst_first`, `dst_only` | switch the pattern |
| POST | `/migrator/full/start`, `/migrator/full/stop` | start or stop the full run |
| POST | `/migrator/incr/start`, `/migrator/incr/stop` | start or stop the incremental run |
| GET | `/migrator/status` | the scheduler's status and the table |

A GET route answers HEAD too, with no body. Any other method on a known path is `405`, an
unknown path `404`, both with no body. Routing reads the path of the request target (see
`Control.Target`); a target that cannot be read is `400`.

Successful answers are `{"code":0,"msg":"OK","data":…}`; failures are the control errors'
bodies. Starting an incremental run needs a JSON body (see `Control.Request`) sent as JSON;
without a `utime` it tails from the current time, and an interval of zero is refused.
-/

namespace TableMigration

open TableMigration.Json TableMigration.Control TableMigration.Validation

/-- A request to the control surface. -/
structure HttpRequest where
  method : String
  /-- The request target, as sent. -/
  target : String
  /-- The `Content-Type` header, if sent. -/
  contentType : Option String
  body : List UInt8
  deriving Repr

/-- An answer of the control surface; no body is an empty one. -/
structure HttpResponse where
  status : Nat
  body : Option Value

/-- The version the health check reports. -/
def serviceVersion : String := "0.1.0"

/-- An object from its members. -/
def jsonObject (kvs : List (String × Value)) : Value := .object (Members.ofList kvs)

/-- A whole number. -/
def jsonNat (n : Nat) : Value := .number (.nat n.toUInt64)

/-- A successful answer carrying `data`. -/
def okBody (data : Value) : HttpResponse :=
  ⟨200, some (jsonObject [("code", jsonNat 0), ("msg", .string "OK"), ("data", data)])⟩

/-- A failed answer. -/
def errorBody (e : ControlError) : HttpResponse := ⟨e.status, some e.body⟩

/-- The summary of a stopped run; a run that was not there reports zeros. -/
def summaryJson (r : Option Report) : Value :=
  let x := r.getD {}
  jsonObject [("was_running", .bool r.isSome), ("base_scanned", jsonNat x.baseScanned),
    ("target_scanned", jsonNat x.targetScanned), ("events", jsonNat x.events),
    ("lookup_failures", jsonNat x.lookupFailures), ("notify_failures", jsonNat x.notifyFailures),
    ("aborted", .bool x.aborted), ("cancelled", .bool x.cancelled)]

/-- A side by name, or null. -/
def sideJson : Option Side → Value
  | some s => .string s.name
  | none => .null

/-- The rejection text of a body that could not be read as a tail request. -/
def rejectionText (e : BodyError) : String :=
  (if e.isData then "Failed to deserialize the JSON body into the target type: "
   else "Failed to parse the request body as JSON: ") ++ e.text

/-- Why a request cannot be sent, checked in the order it is put together: the method, then
the target, then the content type. -/
def HttpRequest.problem? (req : HttpRequest) : Option String :=
  if !validMethod req.method then some methodProblem
  else
    match routedPath req.target with
    | .error e => some e.message
    | .ok _ =>
      match req.contentType with
      | some v => if validHeaderValue v then none else some headerValueProblem
      | none => none

namespace World

/-- Switch the pattern. -/
def switchTo (w : World) (p : Pattern) : HttpResponse × World :=
  match w.cell.store p with
  | .error e => (errorBody (ControlError.ofPatternError e), w)
  | .ok (prev, cell) =>
    (okBody (jsonObject [("previous", .string prev.name), ("current", .string p.name)]),
      { w with cell := cell })

/-- Start the incremental run from a request. -/
def startTail (w : World) (req : HttpRequest) : HttpResponse × World :=
  if !namesJson req.contentType then
    (errorBody (.badRequest "Expected request with `Content-Type: application/json`"), w)
  else
    match TailRequest.parse req.body with
    | .error e => (errorBody (.badRequest (rejectionText e)), w)
    | .ok r =>
      if r.interval = 0 then (errorBody (.badRequest "interval must be positive"), w)
      else
        let (d, w) := w.startIncremental (r.utime.getD w.wallClockMs) r.interval
        (okBody (jsonObject [("direction", .string d.name)]), w)

/-- Serve a request that matched a route and method. -/
def route (w : World) (req : HttpRequest) : String → Option (HttpResponse × World)
  | "/health" =>
    some (⟨200, some (jsonObject [("status", .string "healthy"),
      ("version", .string serviceVersion), ("pattern", .string w.cell.current.name)])⟩, w)
  | "/migrator/src_only" => some (w.switchTo .srcOnly)
  | "/migrator/src_first" => some (w.switchTo .srcFirst)
  | "/migrator/dst_first" => some (w.switchTo .dstFirst)
  | "/migrator/dst_only" => some (w.switchTo .dstOnly)
  | "/migrator/full/start" =>
    let (d, w) := w.startFull
    some (okBody (jsonObject [("direction", .string d.name)]), w)
  | "/migrator/full/stop" =>
    let (r, w) := w.stopFull
    some (okBody (summaryJson r), w)
  | "/migrator/incr/start" => some (w.startTail req)
  | "/migrator/incr/stop" =>
    let (r, w) := w.stopIncremental
    some (okBody (summaryJson r), w)
  | "/migrator/status" =>
    let s := w.status
    some (okBody (jsonObject [("table", .string w.settings.table),
      ("pattern", .string s.pattern.name), ("full_running", .bool s.fullRunning),
      ("incremental_running", .bool s.incrementalRunning),
      ("full_direction", sideJson s.fullDirection),
      ("incremental_direction", sideJson s.incrementalDirection)]), w)
  | _ => none

/-- The method a path is served for; none for an unknown path. -/
def routeMethod : String → Option String
  | "/health" | "/migrator/status" => some "GET"
  | "/migrator/src_only" | "/migrator/src_first" | "/migrator/dst_first"
  | "/migrator/dst_only" | "/migrator/full/start" | "/migrator/full/stop"
  | "/migrator/incr/start" | "/migrator/incr/stop" => some "POST"
  | _ => none

/-- Serve a request for a path. -/
def servePath (w : World) (req : HttpRequest) (path : String) : HttpResponse × World :=
  match routeMethod path with
  | none => (⟨404, none⟩, w)
  | some m =>
    let head := m == "GET" && req.method == "HEAD"
    if req.method != m && !head then (⟨405, none⟩, w)
    else
      match w.route req path with
      | none => (⟨404, none⟩, w)
      | some (r, w) => (if head then { r with body := none } else r, w)

/-- Serve one request; one that cannot be sent is refused. -/
def serve (w : World) (req : HttpRequest) : HttpResponse × World :=
  match req.problem?, routedPath req.target with
  | none, .ok path => w.servePath req path
  | _, _ => (⟨400, none⟩, w)

end World

end TableMigration
