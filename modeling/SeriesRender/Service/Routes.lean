import SeriesRender.Output.Json
import SeriesRender.Service.Ingest
import SeriesRender.Service.Render

/-!
# Routes

The service answers three paths over HTTP : `/render`, `/metrics`, to which points are posted, and
`/health`. A path is matched as it stands. Where a `GET` is allowed so is a `HEAD`, which is
answered in the same way but without the body.
-/

namespace SeriesRender

/-- A request as it comes over HTTP. -/
structure HttpRequest where
  method : String
  /-- Path, query and fragment, as they are sent. -/
  target : String
  headers : List (String × String)
  body : String
  /-- The time of day at which the request is made, in seconds. -/
  time : Int

/-- A response over HTTP. -/
structure HttpResponse where
  status : Nat
  contentType : Option String
  /-- Seconds after which to try again. -/
  retryAfter : Option String
  body : String
  deriving DecidableEq, Repr

namespace HttpRequest

/-- The target without its fragment. -/
def resource (r : HttpRequest) : List Char :=
  r.target.toList.takeWhile (· ≠ '#')

/-- The target up to the first question mark. -/
def path (r : HttpRequest) : String :=
  String.ofList (r.resource.takeWhile (· ≠ '?'))

/-- What follows the first question mark. -/
def query (r : HttpRequest) : String :=
  String.ofList (r.resource.dropWhile (· ≠ '?')).tail

/-- The header that names the tenant. -/
def tenantHeader : String := "x-tenant-id"

/-- The value of the header that names the tenant, if there is one and it is ASCII text. -/
def tenant? (r : HttpRequest) : Option String :=
  ((r.headers.find? fun (name, _) => name.toLower = tenantHeader).map (·.2)).filter
    fun value => value.toList.all fun c => c.toNat < 128

end HttpRequest

namespace HttpResponse

/-- A response that is only a status. -/
def bare (status : Nat) : HttpResponse := ⟨status, none, none, ""⟩

/-- A response with a body. -/
def ofBody (status : Nat) (contentType body : String) : HttpResponse :=
  ⟨status, some contentType, none, body⟩

/-- A response in plain words. -/
def text (status : Nat) (body : String) : HttpResponse :=
  ofBody status "text/plain; charset=utf-8" body

/-- A report of an error : its category and a message. -/
def error (status : Nat) (category message : String) : HttpResponse :=
  ofBody status "application/json" <| String.ofList
    (Json.object [("error", .string category), ("message", .string message)]).compact

/-- The whole seconds to wait, at least one. -/
def waitingTime (d : Duration) : String :=
  toString (max d.seconds.ceil.toUInt64 1)

/-- The response to a render request that has ended. -/
def ofOutcome : Outcome → HttpResponse
  | .completed response => ofBody 200 response.contentType response.body
  | .timedOut => bare 413
  | .throttled retryAfter => { bare 429 with retryAfter := some (waitingTime retryAfter) }
  | .failed e => match e.report with
    | (category, message) => error e.status category message

/-- The response to points that were posted. -/
def ofIngest : Except IngestError Unit → HttpResponse
  | .ok () => bare 204
  | .error e => error 400 "invalid_metric" e.message

end HttpResponse

/-- The paths that the service answers. -/
inductive Route
  | render
  | metrics
  | health
  deriving DecidableEq, Repr

namespace Route

/-- The route of a path. -/
def ofPath? (path : String) : Option Route :=
  match path with
  | "/render" => some render
  | "/metrics" => some metrics
  | "/health" => some health
  | _ => none

/-- The methods that a route takes. -/
def methods : Route → List String
  | render => ["GET", "HEAD", "POST"]
  | metrics => ["POST"]
  | health => ["GET", "HEAD"]

end Route

/-- The tenant that points are written for : the parameter, unless it is empty, or else the
header. -/
def writingTenant (parameter header : Option String) : String :=
  ((parameter.bind nonEmpty?).or header).getD defaultTenant

namespace Service

/-- Render what a request asks for. -/
def answerRender (s : Service) (r : HttpRequest) : HttpResponse × List StoreCall × Service :=
  match Parameters.read r.query r.body r.tenant? r.time with
  | .error fault => (.ofOutcome (.failed (.invalidParameter fault)), [], s)
  | .ok parameters =>
    match s.serveOne parameters with
    | (outcome, calls, s) => (.ofOutcome outcome, calls, s)

/-- Write the points that a request brings. -/
def answerMetrics (s : Service) (r : HttpRequest) : HttpResponse × Service :=
  match allValues (Text.formPairs (Text.bytes r.query.toList)) "tenant" with
  | _ :: _ :: _ =>
    (.text 400 "Failed to deserialize query string: duplicate field `tenant`", s)
  | named =>
    match s.backend.writable? with
    | none => (.error 501 "not_supported" "The configured store does not accept writes", s)
    | some store =>
      match store.ingest (writingTenant named.head? r.tenant?) r.body with
      | (result, store) => (.ofIngest result, { s with backend := .memory store })

/-- Answer a request on a route that takes its method. -/
def answerOn (s : Service) (r : HttpRequest) :
    Route → HttpResponse × List StoreCall × Service
  | .render => s.answerRender r
  | .metrics => match s.answerMetrics r with
    | (response, s) => (response, [], s)
  | .health => (.text 200 "OK", [], s)

/-- Answer a request. -/
def answer (s : Service) (r : HttpRequest) : HttpResponse × List StoreCall × Service :=
  match Route.ofPath? r.path with
  | none => (.bare 404, [], s)
  | some route =>
    if r.method ∈ route.methods then
      match s.answerOn r route with
      | (response, calls, s) =>
        (if r.method = "HEAD" then { response with body := "" } else response, calls, s)
    else (.bare 405, [], s)

end Service

end SeriesRender
