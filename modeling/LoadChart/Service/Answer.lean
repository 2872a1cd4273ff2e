import LoadChart.Leveling.Basic
import LoadChart.Service.Body
import LoadChart.Service.Form
import LoadChart.Service.Request

/-!
# Answers of the service

What a response to a call means, with the standard phrase for each status code.  A prepared service
answers each route with the next of its responses; the last one repeats, and a route without any is
not found.
-/

namespace LoadChart

/-- The standard phrase for a status code, if it has one. -/
def statusReason? : Nat → Option String
  | 100 => "Continue"
  | 101 => "Switching Protocols"
  | 102 => "Processing"
  | 103 => "Early Hints"
  | 200 => "OK"
  | 201 => "Created"
  | 202 => "Accepted"
  | 203 => "Non Authoritative Information"
  | 204 => "No Content"
  | 205 => "Reset Content"
  | 206 => "Partial Content"
  | 207 => "Multi-Status"
  | 208 => "Already Reported"
  | 226 => "IM Used"
  | 300 => "Multiple Choices"
  | 301 => "Moved Permanently"
  | 302 => "Found"
  | 303 => "See Other"
  | 304 => "Not Modified"
  | 305 => "Use Proxy"
  | 307 => "Temporary Redirect"
  | 308 => "Permanent Redirect"
  | 400 => "Bad Request"
  | 401 => "Unauthorized"
  | 402 => "Payment Required"
  | 403 => "Forbidden"
  | 404 => "Not Found"
  | 405 => "Method Not Allowed"
  | 406 => "Not Acceptable"
  | 407 => "Proxy Authentication Required"
  | 408 => "Request Timeout"
  | 409 => "Conflict"
  | 410 => "Gone"
  | 411 => "Length Required"
  | 412 => "Precondition Failed"
  | 413 => "Payload Too Large"
  | 414 => "URI Too Long"
  | 415 => "Unsupported Media Type"
  | 416 => "Range Not Satisfiable"
  | 417 => "Expectation Failed"
  | 418 => "I'm a teapot"
  | 421 => "Misdirected Request"
  | 422 => "Unprocessable Entity"
  | 423 => "Locked"
  | 424 => "Failed Dependency"
  | 425 => "Too Early"
  | 426 => "Upgrade Required"
  | 428 => "Precondition Required"
  | 429 => "Too Many Requests"
  | 431 => "Request Header Fields Too Large"
  | 451 => "Unavailable For Legal Reasons"
  | 500 => "Internal Server Error"
  | 501 => "Not Implemented"
  | 502 => "Bad Gateway"
  | 503 => "Service Unavailable"
  | 504 => "Gateway Timeout"
  | 505 => "HTTP Version Not Supported"
  | 506 => "Variant Also Negotiates"
  | 507 => "Insufficient Storage"
  | 508 => "Loop Detected"
  | 510 => "Not Extended"
  | 511 => "Network Authentication Required"
  | _ => none

def unknownReason : String := "error"

def isSuccess (code : Nat) : Bool := 200 ≤ code && code ≤ 299

/-- The value that a call answers. -/
inductive Answer where
  | resources (value : List Resource)
  | assignments (value : List AssignmentRecord)
  | histogram (value : Histogram)
  | leveling (value : LevelingOutcome)
  | deleted

/-- A response as the service gives it. -/
structure HttpResponse where
  status : Nat
  body : String

namespace HttpResponse

/-- The body as it arrives.  A response to switch the protocol, one without content and one for
what was not modified have none. -/
def content (response : HttpResponse) : String :=
  if response.status ∈ [101, 204, 304] then "" else response.body

end HttpResponse

namespace Call

def statusFailure (call : Call) (response : HttpResponse) : Failure :=
  .status call.operation response.status
    (Body.errorMessage response.content ((statusReason? response.status).getD unknownReason))

/-- The value in the body of a response with success, unless it has another form.  The answers
to a deletion and to an application of shifts need no body. -/
def decode? (call : Call) (body : List UInt8) : Option Answer :=
  match call with
  | .listResources _ =>
      (Body.read? Form.resources (Json.list? Json.resource?) body).map .resources
  | .listAssignments _ =>
      (Body.read? Form.assignments (Json.list? Json.assignmentRecord?) body).map .assignments
  | .histogram _ _ _ => (Body.read? Form.histogram Json.histogram? body).map .histogram
  | .leveling .apply _ _ shifts => some (.leveling (.applied shifts.length))
  | .leveling .compare _ _ _ =>
      (Body.read? Form.levelingComparison Json.levelingComparison? body).map fun value =>
        .leveling (.comparison value)
  | .leveling _ _ _ _ =>
      (Body.read? Form.levelingResult Json.levelingResult? body).map fun value =>
        .leveling (.result value)
  | .deleteAssignment _ => some .deleted

def addressFailure (call : Call) : Failure := .fetch call.operation "builder error"

/-- What a response to a call means, before failures of leveling are made alike.  Without an
address of the service there is no response. -/
def plainAnswer (call : Call) : Option HttpResponse → Except Failure Answer
  | none => .error call.addressFailure
  | some response =>
      if isSuccess response.status then
        match call.decode? response.content.toUTF8.toList with
        | some answer => .ok answer
        | none => .error (.decode call.operation (call.refusalText response.content))
      else .error (call.statusFailure response)

def shownFailure (call : Call) (failure : Failure) : Failure :=
  if call.isLeveling then failure.asLeveling else failure

def answer (call : Call) (response? : Option HttpResponse) : Except Failure Answer :=
  (call.plainAnswer response?).mapError call.shownFailure

end Call

/-- The prepared responses of a service, by method and path. -/
structure Routes where
  responses : List (String × List HttpResponse)

namespace Routes

/-- The response to a route that is not known. -/
def notFound : HttpResponse := ⟨404, ""⟩

/-- The method and the path of a request, without its query. -/
def key (request : HttpRequest) : String :=
  request.method ++ " " ++ String.ofList (request.target.toList.takeWhile (· ≠ '?'))

def advance : List HttpResponse → List HttpResponse
  | _ :: next :: rest => next :: rest
  | responses => responses

/-- The response to a request, and the responses that are left. -/
def respond (routes : Routes) (request : HttpRequest) : HttpResponse × Routes :=
  let key := key request
  let found := (routes.responses.find? fun entry => entry.1 = key).bind fun entry => entry.2.head?
  (found.getD notFound,
    ⟨routes.responses.map fun entry => if entry.1 = key then (key, advance entry.2) else entry⟩)

/-- The response to a request, if one was sent, and the responses that are left. -/
def respondTo? (routes : Routes) (request? : Option HttpRequest) : Option HttpResponse × Routes :=
  match request? with
  | some request => ((routes.respond request).1, (routes.respond request).2)
  | none => (none, routes)

end Routes

end LoadChart
