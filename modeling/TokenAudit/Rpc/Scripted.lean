import TokenAudit.Rpc.Transport
import TokenAudit.Table

/-! # Scripted networks

A network of endpoints that answer from scripts. An endpoint answers its requests one after the
other and keeps to the last reply of its script; it remembers what it was sent. Where there is no
endpoint, nothing can be reached.

* `Script` — an endpoint;
* `Network` and `Network.transport` — the endpoints by their addresses, and how requests reach
  them. -/

namespace TokenAudit

/-- An endpoint that answers from a script. -/
structure Script where
  /-- The replies that are still to come, this one first. -/
  reply : Reply
  /-- Those after it. -/
  later : List Reply := []
  /-- What was sent to the endpoint. -/
  received : List Json := []

/-- Answers a request; the last reply stays. -/
def Script.answer (script : Script) (payload : Json) : Reply × Script :=
  let received := script.received ++ [payload]
  match script.later with
  | [] => (script.reply, { script with received })
  | next :: rest => (script.reply, { reply := next, later := rest, received })

/-- Endpoints by their addresses. -/
abbrev Network := Table String Script

namespace Network

/-- How requests reach the endpoints. -/
def transport : Transport Network where
  post url payload _ net :=
    match net.get? url with
    | none => (.after 0 .unreachable, net)
    | some script =>
      let (reply, script) := script.answer payload
      (reply, net.set url script)
  draw net := (0, net)

/-- What was sent to the endpoint at an address. -/
def received (net : Network) (url : String) : List Json :=
  match net.get? url with
  | some script => script.received
  | none => []

end Network

end TokenAudit
