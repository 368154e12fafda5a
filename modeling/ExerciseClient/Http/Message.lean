import ExerciseClient.Text.Blank

/-!
HTTP messages as far as the client writes and reads them, and how an exchange of them ends.
-/

namespace ExerciseClient.Http

/-- A request. -/
structure Request where
  method : String
  /-- The address without fragment. -/
  target : String
  cookie : Option String
  /-- The JSON text that is sent. -/
  body : Option String
deriving DecidableEq, Repr

/-- An answer. -/
structure Response where
  status : Nat
  headers : List (String × String)
  body : List UInt8
deriving DecidableEq, Repr

namespace Response

/-- The status stands for success. -/
def isSuccess (r : Response) : Bool := 200 ≤ r.status && r.status < 300

/-- The values of a header, whose name may stand in any case. -/
def valuesOf (r : Response) (name : String) : List String :=
  (r.headers.filter fun h => Text.lowerAscii h.1.toList == name.toList).map (·.2)

end Response

/-- How an exchange goes for the agent that carries it out. The agent encrypts connections where the
address asks for it, and it follows redirects by requests of its own; the client is given what comes
of this in the end. -/
inductive Exchange where
  /-- No connection could be made, or none that is encrypted as the address asks; the causes, the
  nearest first. -/
  | unreachable (causes : List String)
  /-- The connection was closed without an answer. -/
  | dropped
  /-- The answer that the client is given. -/
  | answered (r : Response)
  /-- The agent was sent on to another address, where it asks again. -/
  | redirected (target : String) (rest : Exchange)
  /-- The agent was sent on and gives up, as after too many redirects. -/
  | misdirected (causes : List String)
deriving DecidableEq, Repr

namespace Exchange

/-- The request of the client got to a peer. -/
def isSent : Exchange → Bool
  | unreachable _ => false
  | _ => true

/-- The answer that the client is given. -/
def answer? : Exchange → Option Response
  | answered r => some r
  | redirected _ rest => rest.answer?
  | _ => none

end Exchange

/-- The phrases that go with statuses. -/
def reasons : List (Nat × String) :=
  [(100, "Continue"), (101, "Switching Protocols"), (102, "Processing"), (200, "OK"),
    (201, "Created"), (202, "Accepted"), (203, "Non Authoritative Information"),
    (204, "No Content"), (205, "Reset Content"), (206, "Partial Content"), (207, "Multi-Status"),
    (208, "Already Reported"), (226, "IM Used"), (300, "Multiple Choices"),
    (301, "Moved Permanently"), (302, "Found"), (303, "See Other"), (304, "Not Modified"),
    (305, "Use Proxy"), (307, "Temporary Redirect"), (308, "Permanent Redirect"),
    (400, "Bad Request"), (401, "Unauthorized"), (402, "Payment Required"), (403, "Forbidden"),
    (404, "Not Found"), (405, "Method Not Allowed"), (406, "Not Acceptable"),
    (407, "Proxy Authentication Required"), (408, "Request Timeout"), (409, "Conflict"),
    (410, "Gone"), (411, "Length Required"), (412, "Precondition Failed"),
    (413, "Payload Too Large"), (414, "URI Too Long"), (415, "Unsupported Media Type"),
    (416, "Range Not Satisfiable"), (417, "Expectation Failed"), (418, "I'm a teapot"),
    (421, "Misdirected Request"), (422, "Unprocessable Entity"), (423, "Locked"),
    (424, "Failed Dependency"), (426, "Upgrade Required"), (428, "Precondition Required"),
    (429, "Too Many Requests"), (431, "Request Header Fields Too Large"),
    (451, "Unavailable For Legal Reasons"), (500, "Internal Server Error"),
    (501, "Not Implemented"), (502, "Bad Gateway"), (503, "Service Unavailable"),
    (504, "Gateway Timeout"), (505, "HTTP Version Not Supported"),
    (506, "Variant Also Negotiates"), (507, "Insufficient Storage"), (508, "Loop Detected"),
    (510, "Not Extended"), (511, "Network Authentication Required")]

/-- The phrase that goes with a status. -/
def reason? (status : Nat) : Option String := reasons.lookup status

/-- What a system without a network says. -/
def unreachableText : String := "Network is unreachable (os error 101)"

/-- The causes of a connection that could not be made for want of a network. -/
def unreachableCauses : List String := ["tcp connect error", unreachableText]

end ExerciseClient.Http
