import TokenAudit.Fault
import TokenAudit.Json.Decoder
import TokenAudit.Text.Numeral

/-! # Transports

Requests travel to endpoints and come to an end in one of several ways, after some time or never.

* `Exchange` — how a request ends, and `Exchange.document`, what it brought;
* `Reply` — when it ends;
* `Transport` — what carries requests, and gives the numbers of chance. -/

namespace TokenAudit

/-! ## The status of answers -/

/-- The words that go with the status of an answer. -/
def statusPhrases : List (Nat × String) :=
  [(100, "Continue"), (101, "Switching Protocols"), (102, "Processing"), (200, "OK"),
   (201, "Created"), (202, "Accepted"), (203, "Non Authoritative Information"),
   (204, "No Content"), (205, "Reset Content"), (206, "Partial Content"), (207, "Multi-Status"),
   (208, "Already Reported"), (226, "IM Used"), (300, "Multiple Choices"),
   (301, "Moved Permanently"), (302, "Found"), (303, "See Other"), (304, "Not Modified"),
   (305, "Use Proxy"), (307, "Temporary Redirect"), (308, "Permanent Redirect"),
   (400, "Bad Request"), (401, "Unauthorized"), (402, "Payment Required"), (403, "Forbidden"),
   (404, "Not Found"), (405, "Method Not Allowed"), (406, "Not Acceptable"),
   (407, "Proxy Authentication Required"), (408, "Request Timeout"), (409, "Conflict"),
   (410, "Gone"), (411, "Length Required"), (412, "Precondition Failed"),
   (413, "Payload Too Large"), (414, "URI Too Long"), (415, "Unsupported Media Type"),
   (416, "Range Not Satisfiable"), (417, "Expectation Failed"), (418, "I'm a teapot"),
   (421, "Misdirected Request"), (422, "Unprocessable Entity"), (423, "Locked"),
   (424, "Failed Dependency"), (426, "Upgrade Required"), (428, "Precondition Required"),
   (429, "Too Many Requests"), (431, "Request Header Fields Too Large"),
   (451, "Unavailable For Legal Reasons"), (500, "Internal Server Error"),
   (501, "Not Implemented"), (502, "Bad Gateway"), (503, "Service Unavailable"),
   (504, "Gateway Timeout"), (505, "HTTP Version Not Supported"),
   (506, "Variant Also Negotiates"), (507, "Insufficient Storage"), (508, "Loop Detected"),
   (510, "Not Extended"), (511, "Network Authentication Required")]

/-- A status as it is shown: its number and its words. -/
def statusText (status : Nat) : String :=
  Numeral.decimal status ++ " " ++ (statusPhrases.lookup status).getD "<unknown status code>"

/-! ## Exchanges -/

/-- How a request ends. -/
inductive Exchange
  /-- There is an answer. -/
  | answered (status : Nat) (body : Json.Document)
  /-- No connection was made. -/
  | unreachable
  /-- There was a connection, but no answer came of it, for the given reason. -/
  | broken (reason : String)

/-- What an answer with a status amounts to: its body, or a fault. -/
def documentOf (status : Nat) (body : Json.Document) : Except Fault Json.Document :=
  if status = 429 then .error .rateLimited
  else if 500 ≤ status ∧ status < 600 then
    .error ⟨.connectionFailed, "HTTP error: " ++ statusText status⟩
  else if 200 ≤ status ∧ status < 300 then .ok body
  else .error ⟨.rpcError, "HTTP error: " ++ statusText status⟩

/-- What a request to an address brought: the body of an answer, or a fault. -/
def Exchange.document (url : String) : Exchange → Except Fault Json.Document
  | .answered status body => documentOf status body
  | .unreachable => .error ⟨.connectionFailed, "Connection failed"⟩
  | .broken reason =>
    .error ⟨.rpcError, "error sending request for url (" ++ url ++ "): " ++ reason⟩

/-- How a request ends and how long that takes. -/
inductive Reply
  | after (delay : Nat) (exchange : Exchange)
  /-- It does not end by itself. -/
  | never

instance : Inhabited Reply := ⟨.never⟩

/-- What carries requests and gives the numbers of chance; its state is of type `τ`. -/
structure Transport (τ : Type) where
  /-- Sends a request to an address at a time. -/
  post : (url : String) → (payload : Json) → (now : Nat) → τ → Reply × τ
  /-- A number of chance. -/
  draw : τ → Nat × τ

end TokenAudit
