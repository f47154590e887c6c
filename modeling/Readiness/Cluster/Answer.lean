import Readiness.Cluster.Object
import Readiness.Cluster.Stream
import Readiness.Json.Reader
import Readiness.Json.Writer
import Readiness.Text.Quoted

/-!
# Answers — what a server makes of a request

* `Answer` is what comes back: a status with a body, a broken connection, or a stream to a pod;
* `Refusal` is what a server says when it declines, and `Refusal.ofReply` reads it from a body or
  makes one up from the status;
* `CallError` lists why a request brought no data, and `CallError.message` is its text;
* `Answer.data` is the data of an answer, and `Answer.object?`, `Answer.listing` and
  `Answer.accepted` are what the requests of this library make of it.
-/

namespace Readiness.Cluster

open Json (Value)

/-- The body of an answer. -/
inductive Body where
  | data (v : Value)
  | text (s : String)
deriving Repr, Inhabited

namespace Body

def toText : Body → String
  | data v => v.render
  | text s => s

def read? : Body → Option Value
  | data v => some v
  | text s => Json.read? s

end Body

/-- What comes back. -/
inductive Answer where
  | reply (status : Nat) (body : Body)
  -- The connection failed before there was an answer.
  | broken (reason : String)
  -- The connection became a stream to a pod.
  | upgraded (stream : PodStream)
deriving Repr, Inhabited

/-! ## Status lines -/

def statusPhrases : List (Nat × String) :=
  [(100, "Continue"), (101, "Switching Protocols"), (102, "Processing"), (200, "OK"),
    (201, "Created"), (202, "Accepted"), (203, "Non Authoritative Information"),
    (204, "No Content"), (205, "Reset Content"), (206, "Partial Content"), (207, "Multi-Status"),
    (208, "Already Reported"), (226, "IM Used"), (300, "Multiple Choices"),
    (301, "Moved Permanently"), (302, "Found"), (303, "See Other"), (304, "Not Modified"),
    (305, "Use Proxy"), (307, "Temporary Redirect"), (308, "Permanent Redirect"),
    (400, "Bad Request"), (401, "Unauthorized"), (402, "Payment Required"), (403, "Forbidden"),
    (404, "Not Found"), (405, "Method Not Allowed"), (406, "Not Acceptable"),
    (407, "Proxy Authentication Required"), (408, "Request Timeout"), (409, "Conflict"),
    (410, "Gone"), (411, "Length Required"), (412, "Precondition Failed"),
    (413, "Payload Too Large"), (414, "URI Too Long"), (415, "Unsupported Media Type"),
    (416, "Range Not Satisfiable"), (417, "Expectation Failed"), (418, "I'm a teapot"),
    (421, "Misdirected Request"), (422, "Unprocessable Entity"), (423, "Locked"),
    (424, "Failed Dependency"), (425, "Too Early"), (426, "Upgrade Required"),
    (428, "Precondition Required"), (429, "Too Many Requests"),
    (431, "Request Header Fields Too Large"), (451, "Unavailable For Legal Reasons"),
    (500, "Internal Server Error"), (501, "Not Implemented"), (502, "Bad Gateway"),
    (503, "Service Unavailable"), (504, "Gateway Timeout"), (505, "HTTP Version Not Supported"),
    (506, "Variant Also Negotiates"), (507, "Insufficient Storage"), (508, "Loop Detected"),
    (510, "Not Extended"), (511, "Network Authentication Required")]

def statusLine (status : Nat) : String :=
  toString status ++ " " ++ (statusPhrases.lookup status).getD "<unknown status code>"

def isFailure (status : Nat) : Bool := 400 ≤ status && status < 600

/-! ## Refusals -/

/-- What a server says when it declines. -/
structure Refusal where
  status : String
  message : String
  reason : String
  code : Nat
deriving DecidableEq, Repr, Inhabited

namespace Refusal

def code? (v : Value) : Option Nat :=
  v.asNat?.bind fun n => if n < 0x10000 then some n else none

/-- A text, or nothing when there is no value. -/
def textOr : Option Value → Option String
  | none => some ""
  | some v => v.asString?

/-- Reads a refusal. An object needs a status and a code; an array lists all four parts. -/
def read? : Value → Option Refusal
  | .obj entries => do
      let status ← (Dict.find? "status" entries).bind Value.asString?
      let message ← textOr (Dict.find? "message" entries)
      let reason ← textOr (Dict.find? "reason" entries)
      let code ← (Dict.find? "code" entries).bind code?
      some ⟨status, message, reason, code⟩
  | .arr [.str status, .str message, .str reason, code] => do
      let code ← code? code
      some ⟨status, message, reason, code⟩
  | _ => none

/-- The refusal of a body that does not hold one. -/
def unread (status : Nat) (body : Body) : Refusal :=
  ⟨statusLine status, Text.quoted body.toText, "Failed to parse error data", status⟩

def ofReply (status : Nat) (body : Body) : Refusal :=
  (body.read?.bind read?).getD (unread status body)

def shown (refusal : Refusal) : String :=
  "ErrorResponse \x7b status: " ++ Text.quoted refusal.status ++ ", message: " ++
    Text.quoted refusal.message ++ ", reason: " ++ Text.quoted refusal.reason ++ ", code: " ++
    toString refusal.code ++ " \x7d"

def isNotFound (refusal : Refusal) : Bool := refusal.reason = "NotFound"

def notFoundBody : Body :=
  .data (.obj
    [("code", .num (.int 404)), ("message", .str "not found"), ("reason", .str "NotFound"),
      ("status", .str "Failure")])

end Refusal

/-! ## Errors -/

/-- Why a request brought no data. -/
inductive CallError where
  -- The server declined.
  | refused (refusal : Refusal)
  -- There was no answer.
  | unanswered (reason : String)
  -- The answer does not have the expected shape.
  | unreadable
  -- A resource without a name cannot be asked for.
  | unnamed
  -- The path has characters that cannot be sent.
  | unsendable
deriving DecidableEq, Repr, Inhabited

namespace CallError

def message : CallError → String
  | refused refusal =>
      "ApiError: " ++ refusal.message ++ ": " ++ refusal.reason ++ " (" ++ refusal.shown ++ ")"
  | unanswered reason => "ServiceError: " ++ reason
  | unreadable => "Error deserializing response"
  | unnamed =>
      "Failed to build request: failed to validate request: A non-empty name is required"
  | unsendable => "Failed to build request: failed to build request: invalid uri character"

end CallError

/-! ## Reading answers -/

namespace Answer

def data : Answer → Except CallError Value
  | reply status body =>
      if isFailure status then .error (.refused (.ofReply status body))
      else
        match body.read? with
        | some v => .ok v
        | none => .error .unreadable
  | broken reason => .error (.unanswered reason)
  | upgraded _ => .error .unreadable

/-- The object that was asked for; nothing when the server does not know it. -/
def object? (kind : Kind) (answer : Answer) : Except CallError (Option Snapshot) :=
  match answer.data with
  | .ok v =>
      match Snapshot.ofObject? kind v with
      | some snapshot => .ok (some snapshot)
      | none => .error .unreadable
  | .error (.refused refusal) =>
      if refusal.isNotFound then .ok none else .error (.refused refusal)
  | .error error => .error error

/-- The objects that were asked for. -/
def listing (kind : Kind) (answer : Answer) : Except CallError (List Snapshot) :=
  match answer.data with
  | .ok v =>
      match Snapshot.ofObjects? kind v with
      | some snapshots => .ok snapshots
      | none => .error .unreadable
  | .error error => .error error

/-- An object was created or updated, which the server answers with the object. -/
def accepted (answer : Answer) : Except CallError Unit :=
  match answer.data with
  | .ok v => if objectShape v then .ok () else .error .unreadable
  | .error error => .error error

/-- The stream that was asked for, or why there is none. -/
def stream (port : Nat) : Answer → Except String RemoteEnd
  | reply status _ =>
      .error (PodStream.notUpgraded ("failed to switch protocol: " ++ statusLine status))
  | broken reason => .error (CallError.unanswered reason).message
  | upgraded stream =>
      match stream.objection? with
      | some reason => .error (PodStream.notUpgraded reason)
      | none => .ok (stream.remoteEnd port)

end Answer

/-- Answers to give one after the other, each after a delay; the last one repeats. -/
abbrev Answers := List (Nat × Answer)

def Answers.next : Answers → (Nat × Answer) × Answers
  | [] => ((0, .reply 404 Refusal.notFoundBody), [])
  | [answer] => (answer, [answer])
  | answer :: rest => (answer, rest)

end Readiness.Cluster
