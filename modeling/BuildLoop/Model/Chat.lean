import BuildLoop.Json.Answer
import BuildLoop.Model.Provider
import BuildLoop.Model.Schema
import BuildLoop.Url.Read
import BuildLoop.World

/-!
# Talking to a model

A role asks its model once: the system message ends with the schema of the expected answer, the
answer is read by its shape, and nothing is asked again. The local provider has a format of its own;
all others share one and want a key. Only servers on the web are asked, and no user's name is sent to
them in the address.

    statusText 503 = "503 Service Unavailable"
    ask … sends at most one request, and none if the key is missing
    request h c s u = ok r   →   r.url.isWeb
-/

namespace BuildLoop.Model

open Json

/-! ## Statuses

A response says by a number how a request went. The numbers of the registry have a phrase. -/

/-- The phrases of the registry, by number. -/
def phrases : List (Nat × String) := [
  (100, "Continue"), (101, "Switching Protocols"), (102, "Processing"), (200, "OK"),
  (201, "Created"), (202, "Accepted"), (203, "Non Authoritative Information"),
  (204, "No Content"), (205, "Reset Content"), (206, "Partial Content"), (207, "Multi-Status"),
  (208, "Already Reported"), (226, "IM Used"), (300, "Multiple Choices"),
  (301, "Moved Permanently"), (302, "Found"), (303, "See Other"), (304, "Not Modified"),
  (305, "Use Proxy"), (307, "Temporary Redirect"), (308, "Permanent Redirect"),
  (400, "Bad Request"), (401, "Unauthorized"), (402, "Payment Required"), (403, "Forbidden"),
  (404, "Not Found"), (405, "Method Not Allowed"), (406, "Not Acceptable"),
  (407, "Proxy Authentication Required"), (408, "Request Timeout"), (409, "Conflict"),
  (410, "Gone"), (411, "Length Required"), (412, "Precondition Failed"),
  (413, "Payload Too Large"), (414, "URI Too Long"), (415, "Unsupported Media Type"),
  (416, "Range Not Satisfiable"), (417, "Expectation Failed"), (418, "I'm a teapot"),
  (421, "Misdirected Request"), (422, "Unprocessable Entity"), (423, "Locked"),
  (424, "Failed Dependency"), (426, "Upgrade Required"), (428, "Precondition Required"),
  (429, "Too Many Requests"), (431, "Request Header Fields Too Large"),
  (451, "Unavailable For Legal Reasons"), (500, "Internal Server Error"),
  (501, "Not Implemented"), (502, "Bad Gateway"), (503, "Service Unavailable"),
  (504, "Gateway Timeout"), (505, "HTTP Version Not Supported"), (506, "Variant Also Negotiates"),
  (507, "Insufficient Storage"), (508, "Loop Detected"), (510, "Not Extended"),
  (511, "Network Authentication Required")]

/-- A status with its phrase. -/
def statusText (status : Nat) : String :=
  toString status ++ " " ++ (phrases.lookup status).getD "<unknown status code>"

/-- Whether a status says that the request succeeded. -/
def isSuccess (status : Nat) : Bool := 200 ≤ status && status < 300

/-! ## Requests -/

/-- A role with its model. -/
structure Client where
  role : String
  model : ModelConfig
  deriving DecidableEq, Repr

/-- The prompt with the schema of the expected answer. -/
def systemMessage (prompt : String) (shape : Shape) : String :=
  prompt ++ "\n\n# OUTPUT SCHEMA\nRespond with one JSON value matching this JSON Schema and " ++
    "nothing else:\n" ++ shape.schema.indented

/-- A message of a conversation. -/
def messageJson (speaker content : String) : Json :=
  .object [("content", .text content), ("role", .text speaker)]

/-- The body of a request. -/
def bodyJson (m : ModelConfig) (system user : String) : Json :=
  let messages := Json.list [messageJson "system" system, messageJson "user" user]
  if m.provider = .ollama then .object [
    ("format", .text "json"),
    ("messages", messages),
    ("model", .text m.model),
    ("options", .object [("temperature", m.temperatureJson)]),
    ("stream", .bool false)]
  else .object [
    ("messages", messages),
    ("model", .text m.model),
    ("response_format", .object [("type", .text "json_object")]),
    ("temperature", m.temperatureJson)]

/-- The address of a request as it is configured. -/
def addressText (m : ModelConfig) : String :=
  m.endpoint ++ if m.provider = .ollama then "/api/chat" else "/chat/completions"

/-- Why a request cannot be made. -/
inductive RequestFault where
  | address (f : Url.Fault)
  | key
  | scheme (u : Url)
  | host (u : Url)
  deriving DecidableEq, Repr

/-- The fault in words. -/
def RequestFault.text : RequestFault → String
  | address f => "builder error: " ++ f.text
  | key => "builder error: failed to parse header value"
  | scheme u => "builder error for url (" ++ u.text ++ "): URL scheme is not allowed"
  | host u => "builder error for url (" ++ u.text ++ "): Parsed Url is not a valid Uri"

/-- The address of a request. -/
def address (m : ModelConfig) : Except RequestFault Url :=
  match Url.read? (addressText m) with
  | .error f => .error (.address f)
  | .ok u => if u.host?.isNone then .error (.scheme u) else .ok u.withoutUser

/-- Whether a key can be sent. -/
def isKey (key : String) : Bool := key.toList.all fun c => !Url.isControl c || c == '\t'

/-- What forbids to send a key, if there is one, to an address. -/
def fault? (u : Url) (key : Option String) : Option RequestFault :=
  if !key.all isKey then some .key
  else if !u.isWeb then some (.scheme u)
  else if !u.canBeAsked then some (.host u)
  else none

/-- The key of a provider, if it wants one. -/
def key (h : Host) (c : Client) : Except Failure (Option String) :=
  match c.model.provider.keyVariable? with
  | none => .ok none
  | some var =>
    match h.environment var with
    | some key => .ok (some key)
    | none => .error (.unavailable c.role (var ++ " is not set"))

/-- The address of a request that can be made with a key. -/
def allowedAddress (m : ModelConfig) (key : Option String) : Except RequestFault Url := do
  let u ← address m
  match fault? u key with
  | some f => .error f
  | none => .ok u

/-- The request that asks a model. -/
def request (h : Host) (c : Client) (system user : String) : Except Failure Request :=
  match key h c with
  | .error e => .error e
  | .ok key =>
    match allowedAddress c.model key with
    | .error f => .error (.unavailable c.role f.text)
    | .ok u => .ok ⟨u, key.map ("Bearer " ++ ·), (bodyJson c.model system user).compact⟩

/-! ## Replies -/

/-- A message in a reply. -/
def contentShape : Shape := .record "ChatMessage" (.ofList [("content", .text, .required)])

/-- A reply of the local provider. -/
def localShape : Shape := .record "OllamaResponse" (.ofList [("message", contentShape, .required)])

/-- A reply of any other provider. -/
def hostedShape : Shape :=
  .record "OpenAiResponse" (.ofList [
    ("choices",
      .list (.record "OpenAiChoice" (.ofList [("message", contentShape, .required)])), .required)])

/-- The message that holds a content. -/
def contentOf? (reply : Json) : Option String := do
  ((← reply.field? "message").field? "content").bind asText?

/-- The content of a reply of the local provider. -/
def localContent (role body : String) : Except Failure String :=
  match localShape.parse body with
  | .error e => .error (.answer role ("error decoding response body: " ++ e.text))
  | .ok reply => .ok ((contentOf? reply).getD "")

/-- The content of the first choice of a reply of any other provider. -/
def hostedContent (role body : String) : Except Failure String :=
  match hostedShape.parse body with
  | .error e => .error (.answer role ("error decoding response body: " ++ e.text))
  | .ok reply =>
    match ((reply.field? "choices").bind asList?).getD [] with
    | [] => .error (.answer role "response has no choices")
    | choice :: _ => .ok ((contentOf? choice).getD "")

/-- The content of a response from an address. -/
def contentOf (c : Client) (u : Url) : Response → Except Failure String
  | .unreachable reason =>
    .error (.unavailable c.role
      ("error sending request for url (" ++ u.text ++ "): " ++ reason))
  | .answered status body =>
    let text := Text.decodeLossy body
    if !isSuccess status then
      .error (.unavailable c.role
        ("HTTP " ++ statusText status ++ ": " ++ String.ofList (text.toList.take 300)))
    else if c.model.provider = .ollama then localContent c.role text
    else hostedContent c.role text

/-! ## Asking -/

/-- Sends a request and answers the content of the response. -/
def chat (h : Host) (c : Client) (system user : String) : Act World String := do
  let r ← ExceptT.mk (pure (request h c system user))
  ExceptT.mk fun world =>
    let (response, world) := world.send h r
    (contentOf c r.url response, world)

/-- Asks a model for a value of a type. -/
def ask (α : Type) [Form α] (h : Host) (c : Client) (prompt user : String) : Act World α := do
  let raw ← chat h c (systemMessage prompt (Form.shape α)) user
  ExceptT.mk (pure (readAnswer α c.role raw))

end BuildLoop.Model
