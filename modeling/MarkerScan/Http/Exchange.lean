import MarkerScan.Delivery.Retry
import MarkerScan.Http.Url
import MarkerScan.Json.Basic
/-
  MarkerScan.Http.Exchange — requests to a service, and what becomes of them.

  A server is a function that replies to a request and goes on in a new state, so whatever
  it does over a whole run is one function. It stands for everything between the program
  and the service: a reply is an answer with its code and body, or a request that got none.
  Two things are taken for granted. No answer sends the request elsewhere: one that names
  another place is judged by its code like every other. And a body is text, unless it
  cannot be read at all.

  Codes from 200 to 299 are success. Codes from 500 to 599 and 429 are failures that may go
  away; every other code is a failure that stays. A request without an answer may succeed
  later if it took too long, found no connection, or had its connection broken under it;
  otherwise it failed for good. A request that cannot be made fails for good as well: the
  URL is wrong, has no host or is not of the web, or a header has a control in it.
  - `logged` remembers the exchanges, in order.
-/

namespace MarkerScan.Http

/-! ## Status codes -/

/-- The names of the status codes. -/
def reasons : List (Nat × String) :=
  [(100, "Continue"), (101, "Switching Protocols"), (102, "Processing"), (103, "Early Hints"),
   (200, "OK"), (201, "Created"), (202, "Accepted"), (203, "Non Authoritative Information"), (204, "No Content"),
   (205, "Reset Content"), (206, "Partial Content"), (207, "Multi-Status"), (208, "Already Reported"),
   (226, "IM Used"),
   (300, "Multiple Choices"), (301, "Moved Permanently"), (302, "Found"), (303, "See Other"),
   (304, "Not Modified"), (305, "Use Proxy"), (307, "Temporary Redirect"), (308, "Permanent Redirect"),
   (400, "Bad Request"), (401, "Unauthorized"), (402, "Payment Required"), (403, "Forbidden"),
   (404, "Not Found"), (405, "Method Not Allowed"), (406, "Not Acceptable"),
   (407, "Proxy Authentication Required"), (408, "Request Timeout"), (409, "Conflict"), (410, "Gone"),
   (411, "Length Required"), (412, "Precondition Failed"), (413, "Payload Too Large"), (414, "URI Too Long"),
   (415, "Unsupported Media Type"), (416, "Range Not Satisfiable"), (417, "Expectation Failed"),
   (418, "I'm a teapot"), (421, "Misdirected Request"), (422, "Unprocessable Entity"), (423, "Locked"),
   (424, "Failed Dependency"), (425, "Too Early"), (426, "Upgrade Required"), (428, "Precondition Required"),
   (429, "Too Many Requests"), (431, "Request Header Fields Too Large"), (451, "Unavailable For Legal Reasons"),
   (500, "Internal Server Error"), (501, "Not Implemented"), (502, "Bad Gateway"), (503, "Service Unavailable"),
   (504, "Gateway Timeout"), (505, "HTTP Version Not Supported"), (506, "Variant Also Negotiates"),
   (507, "Insufficient Storage"), (508, "Loop Detected"), (510, "Not Extended"),
   (511, "Network Authentication Required")]

def statusText (code : Nat) : String :=
  toString code ++ " " ++ (reasons.lookup code).getD "<unknown status code>"

def isSuccess (code : Nat) : Bool := decide (200 ≤ code) && decide (code < 300)

def isPassing (code : Nat) : Bool := code == 429 || (decide (500 ≤ code) && decide (code < 600))

/-- The failure that a status code of a service stands for, if it is one. -/
def failure? (service : String) (code : Nat) : Option DeliveryError :=
  if isSuccess code then none
  else
    let reason := service ++ " returned " ++ statusText code
    some (if isPassing code then .transient reason else .permanent reason)

/-! ## Requests and replies -/

inductive Method where
  | get
  | post
  deriving DecidableEq, Repr

structure Request where
  method : Method
  url : Url
  /-- In lower case, with their values. -/
  headers : List (String × String)
  body : Option Json

/-- The faults of a connection that are told apart. -/
inductive ConnectionFault where
  | reset
  | aborted
  | brokenPipe
  | other
  deriving DecidableEq, Repr

/-- A request that got no answer, and what is known of it. -/
structure SendFailure where
  text : String
  /-- The status code that goes with it. -/
  status : Option Nat := none
  timedOut : Bool := false
  /-- There was no connection. -/
  unconnected : Bool := false
  /-- It came up while the request was on its way. -/
  underway : Bool := false
  /-- What caused it, the nearest first: a fault of a connection, or something else. -/
  causes : List (Option ConnectionFault) := []
  deriving DecidableEq, Repr

namespace SendFailure

/-- Whether the first fault of a connection that caused it is that the connection broke. -/
def isBroken (f : SendFailure) : Bool :=
  match f.causes.findSome? id with
  | some .reset | some .aborted | some .brokenPipe => true
  | _ => false

def failure (f : SendFailure) : DeliveryError :=
  if f.timedOut || f.unconnected || f.status.any isPassing then .transient f.text
  else if f.underway && f.isBroken then .transient f.text
  else .permanent f.text

end SendFailure

/-- The body of an answer, or why it could not be read. -/
abbrev Body := Except String (List Char)

inductive Reply where
  | answered (code : Nat) (body : Body)
  | failed (f : SendFailure)
  deriving Repr

/-- What a service's reply comes to: the body of the answer, or the failure. -/
def Reply.result (service : String) : Reply → Except DeliveryError Body
  | .failed f => .error f.failure
  | .answered code body =>
    match failure? service code with
    | some e => .error e
    | none => .ok body

abbrev Server (σ : Type) := Request → σ → Reply × σ

/-- The server that nothing reaches. -/
def noServer : Server Unit := fun request s =>
  (.failed { text := "error sending request for url (" ++ request.url.text ++ ")", unconnected := true, underway := true },
    s)

/-- A request with the reply to it. -/
structure Exchange where
  request : Request
  reply : Reply

/-- A server that also keeps the exchanges, the first one first. -/
def Server.logged {σ : Type} (server : Server σ) : Server (σ × List Exchange) := fun request s =>
  let (reply, next) := server request s.1
  (reply, (next, s.2 ++ [⟨request, reply⟩]))

/-! ## Making requests -/

/-- A character that no header holds: a control, but not the tab. -/
def isHeaderBreaker (c : Char) : Bool := (decide (c.toNat < 32) && c != '\t') || c.toNat == 127

def builderFailure : DeliveryError := SendFailure.failure { text := "builder error" }

def builderFailureFor (url : Url) : DeliveryError :=
  SendFailure.failure { text := "builder error for url (" ++ url.text ++ ")" }

/-- A character of a host that a URL can hold and a request cannot. -/
def isRequestBreaker (c : Char) : Bool := ['"', '`', '\x7b', '\x7d'].contains c

/-- A request, or why it cannot be made. -/
def Request.build [HostNames] (method : Method) (url : String) (headers : List (String × String)) (body : Option Json) :
    Except DeliveryError Request :=
  match Url.parse? url.toList with
  | none => .error builderFailure
  | some url =>
    if !url.hasHost then .error (builderFailureFor url)
    else if headers.any fun h => h.2.toList.any isHeaderBreaker then .error builderFailure
    else if !url.isWeb || (url.host.getD []).any isRequestBreaker then .error (builderFailureFor url)
    else .ok ⟨method, url, headers, body⟩

/-- Sends a request to a service: the body of the answer, or the failure. -/
def exchange {σ : Type} (server : Server σ) (service : String) (request : Except DeliveryError Request) (s : σ) :
    Except DeliveryError Body × σ :=
  match request with
  | .error e => (.error e, s)
  | .ok request =>
    let (reply, s) := server request s
    (reply.result service, s)

end MarkerScan.Http
