import GameFixes.Log
import GameFixes.Settings

/-!
# The catalog client

Asks a server for the catalog, up to a bounded number of times. Only an attempt that may go better
the next time is followed by another one, after a wait that doubles with every attempt.
-/

namespace GameFixes.Catalog

/-! ### Answer statuses

The number with which a server answers a request, and the standard phrase for it. -/

/-- The number of an answer. -/
structure Status where
  code : Nat
  deriving DecidableEq, Repr

namespace Status

/-- The numbers that have a standard phrase. -/
def phrases : List (Nat × String) :=
  [(100, "Continue"), (101, "Switching Protocols"), (102, "Processing"), (103, "Early Hints"),
    (200, "OK"), (201, "Created"), (202, "Accepted"), (203, "Non Authoritative Information"),
    (204, "No Content"), (205, "Reset Content"), (206, "Partial Content"), (207, "Multi-Status"),
    (208, "Already Reported"), (226, "IM Used"),
    (300, "Multiple Choices"), (301, "Moved Permanently"), (302, "Found"), (303, "See Other"),
    (304, "Not Modified"), (305, "Use Proxy"), (307, "Temporary Redirect"),
    (308, "Permanent Redirect"),
    (400, "Bad Request"), (401, "Unauthorized"), (402, "Payment Required"), (403, "Forbidden"),
    (404, "Not Found"), (405, "Method Not Allowed"), (406, "Not Acceptable"),
    (407, "Proxy Authentication Required"), (408, "Request Timeout"), (409, "Conflict"),
    (410, "Gone"), (411, "Length Required"), (412, "Precondition Failed"),
    (413, "Payload Too Large"), (414, "URI Too Long"), (415, "Unsupported Media Type"),
    (416, "Range Not Satisfiable"), (417, "Expectation Failed"), (418, "I'm a teapot"),
    (421, "Misdirected Request"), (422, "Unprocessable Entity"), (423, "Locked"),
    (424, "Failed Dependency"), (425, "Too Early"), (426, "Upgrade Required"),
    (428, "Precondition Required"), (429, "Too Many Requests"),
    (431, "Request Header Fields Too Large"), (451, "Unavailable For Legal Reasons"),
    (500, "Internal Server Error"), (501, "Not Implemented"), (502, "Bad Gateway"),
    (503, "Service Unavailable"), (504, "Gateway Timeout"), (505, "HTTP Version Not Supported"),
    (506, "Variant Also Negotiates"), (507, "Insufficient Storage"), (508, "Loop Detected"),
    (510, "Not Extended"), (511, "Network Authentication Required")]

/-- A status with its phrase. -/
def text (s : Status) : String :=
  toString s.code ++ " " ++ ((phrases.lookup s.code).getD "<unknown status code>")

/-- Whether an answer with this status answers the request. Other statuses only announce an answer,
or have not three digits. -/
def isFinal (s : Status) : Bool := s.code = 101 || (200 ≤ s.code && s.code ≤ 999)

/-- Whether a status says that the request succeeded. -/
def isSuccess (s : Status) : Bool := 200 ≤ s.code && s.code < 300

/-- Whether a status says that the same request may succeed later. -/
def isRetryable (s : Status) : Bool := [408, 429, 502, 503, 504].contains s.code

/-- No status that may be tried again is a success. -/
theorem isSuccess_eq_false_of_isRetryable {s : Status} (h : s.isRetryable = true) :
    s.isSuccess = false := by
  obtain ⟨n⟩ := s
  simp only [isRetryable, List.contains_eq_mem, List.mem_cons, List.not_mem_nil, or_false,
    decide_eq_true_eq] at h
  rcases h with rfl | rfl | rfl | rfl | rfl <;> rfl

end Status

/-! ### Requests -/

/-- What the client asks for, and how often. -/
structure ClientOptions where
  apiUrl : String
  userAgent : String
  timeoutMs : UInt64 := 30000
  maxRetries : Nat := 0
  retryDelayMs : UInt64 := 500
  deriving DecidableEq, Repr

/-- The client that settings ask for. -/
def ClientOptions.ofSettings (s : Settings) (env : Environment) : ClientOptions where
  apiUrl := s.apiUrl env
  userAgent := s.userAgent env

/-- A request for the catalog. -/
structure Request where
  url : String
  userAgent : String
  deriving DecidableEq, Repr

/-- What an attempt leads to. -/
inductive Outcome
  /-- The server answers. -/
  | answer (status : Status) (body : String)
  /-- The server ends the connection without an answer. -/
  | dropped
  /-- The request cannot be sent at all. -/
  | unsendable
  deriving DecidableEq, Repr

/-- What comes of all that a server sends before it ends the connection. -/
def Outcome.ofAnswer (status : Status) (body : String) : Outcome :=
  if status.isFinal then .answer status body else .dropped

/-- Whether another attempt may lead to something better. -/
def Outcome.isRetryable : Outcome → Bool
  | .answer status _ => status.isRetryable
  | .dropped => true
  | .unsendable => false

/-- The body that an answer arrives with: one without content has none. -/
def bodyOf (status : Status) (body : String) : String := if status.code = 204 then "" else body

/-- What the client returns after an outcome that it does not try again. -/
def Outcome.result : Outcome → Except Failure (List Entry)
  | .answer status body =>
    if status.isSuccess then
      match parse (bodyOf status body) with
      | .ok entries => .ok entries
      | .error fault => .error (.catalog fault)
    else .error (.catalogStatus status.text)
  | .dropped | .unsendable => .error .catalogCall

/-! ### Waiting -/

/-- The largest number of milliseconds that can be waited. -/
def longestWait : Nat := 0xFFFFFFFFFFFFFFFF

/-- The number of times that the wait before a retry doubles. An attempt whose number does not fit
into 32 bits counts as the sixteenth. -/
def doublings (attempt : Nat) : Nat := if attempt < 0x100000000 then attempt else 16

/-- A power of two, at most the longest wait. -/
def boundedPower (n : Nat) : Nat := if n < 64 then Nat.pow 2 n else longestWait

/-- How many milliseconds the client waits after an attempt. -/
def waitMs (delay : UInt64) (attempt : Nat) : Nat :=
  min longestWait (delay.toNat * boundedPower (doublings attempt))

/-- No wait is longer than the longest. -/
theorem waitMs_le (delay : UInt64) (attempt : Nat) : waitMs delay attempt ≤ longestWait :=
  Nat.min_le_left ..

/-! ### Fetching -/

/-- A fetch: its result, the requests that were sent, what was reported, and the waits between the
attempts. -/
structure Fetch where
  result : Except Failure (List Entry)
  requests : List Request := []
  events : List Event := []
  waits : List Nat := []

/-- The event before an attempt. The address, which all requests go to, is left out of it. -/
def requestEvent (attempt : Nat) : Event :=
  ⟨.debug, "requesting catalog", [("attempt", .number attempt)]⟩

/-- The event before another attempt, with the status that asks for it. Why there was no answer is
left out of it. -/
def retryEvent (attempt : Nat) (outcome : Outcome) : Event :=
  ⟨.warn, "catalog request failed, retrying",
    (match outcome with
      | .answer status _ => [("status", .text status.text)]
      | .dropped | .unsendable => []) ++ [("attempt", .number attempt)]⟩

/-- The requests that an attempt sends. -/
def sent (request : Request) : Outcome → List Request
  | .answer _ _ | .dropped => [request]
  | .unsendable => []

/-- The request of a client. -/
def ClientOptions.request (o : ClientOptions) : Request := ⟨o.apiUrl, o.userAgent⟩

/-- Attempts until one is final, at most `left` of them; `network` says what the attempts lead to,
and `attempt` is the number of the first. -/
def attempts (o : ClientOptions) (network : Nat → Outcome) : (left attempt : Nat) → Fetch
  | 0, _ => { result := .error .retriesExhausted }
  | left + 1, attempt =>
    let outcome := network attempt
    let requests := sent o.request outcome
    if attempt < o.maxRetries && outcome.isRetryable then
      let later := attempts o network left (attempt + 1)
      { result := later.result
        requests := requests ++ later.requests
        events := requestEvent attempt :: retryEvent attempt outcome :: later.events
        waits := waitMs o.retryDelayMs attempt :: later.waits }
    else
      { result := outcome.result, requests := requests, events := [requestEvent attempt] }

/-- Whether a text can be sent as the name of the client: it has no control characters but tabs. -/
def isSendable (userAgent : String) : Bool :=
  userAgent.toList.all fun c => c = '\t' || (0x20 ≤ c.toNat && c.toNat ≠ 0x7F)

/-- Asks for the catalog. -/
def fetch (o : ClientOptions) (network : Nat → Outcome) : Fetch :=
  attempts o (if isSendable o.userAgent then network else fun _ => .unsendable)
    (o.maxRetries + 1) 0

end GameFixes.Catalog
