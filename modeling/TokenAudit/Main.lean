import Std.Async.DNS
import Std.Async.TCP
import Std.Time.DateTime.Timestamp
import TokenAudit.CommandLine.Program
import TokenAudit.Rpc.Http
import TokenAudit.Rpc.Transcript

/-! # The command line

Connects the program to the outside: arguments, variables, the clock, chance, connections and
printing. The program is run from a transcript of its requests, and each request that is missing
there is made. Only plain connections can be made; an endpoint that wants to be spoken to in private
is out of reach. -/

open Std Async

namespace TokenAudit.Outside

/-- Connects to a host. -/
def connect (target : Target) : Async TCP.Socket.Client := do
  let addresses ← DNS.getAddrInfo target.host.bare (toString target.socket)
  match addresses[0]? with
  | none => throw (IO.userError "unknown host")
  | some address =>
    let number := UInt16.ofNat target.socket
    let client ← TCP.Socket.Client.mk
    client.connect <|
      match address with
      | .v4 addr => .v4 ⟨addr, number⟩
      | .v6 addr => .v6 ⟨addr, number⟩
    return client

/-- Takes in everything that comes over a connection. -/
partial def receive (client : TCP.Socket.Client) (soFar : ByteArray) : Async ByteArray := do
  match ← client.recv? 65536 with
  | some bytes => receive client (soFar ++ bytes)
  | none => return soFar

/-- Makes a request over a connection of its own. -/
def exchange (target : Target) (payload : Json) : Async Exchange := do
  if target.isSecure then return .unreachable
  try
    let client ← connect target
    converse client
  catch _ => return .unreachable
where
  /-- Sends the request and takes in the answer. -/
  converse (client : TCP.Socket.Client) : Async Exchange := do
    try
      client.send ⟨(Http.request target payload).toArray⟩
      let bytes ← receive client .empty
      match Http.parse? bytes.toList with
      | some (status, body) => return .answered status body
      | none => return .broken "connection closed before message completed"
    catch e => return .broken (toString e)

/-- Waits for a request to end, up to a moment of the clock. -/
partial def awaitUntil (stop : Nat) (task : Task (Except IO.Error Exchange)) :
    IO (Option Exchange) := do
  if ← IO.hasFinished task then
    match task.get with
    | .ok ending => return some ending
    | .error e => return some (.broken e.toString)
  else if stop ≤ (← IO.monoMsNow) then return none
  else
    IO.sleep 2
    awaitUntil stop task

/-- Makes a request when it is due, and does not wait for its end much longer than `limit`. -/
def send (start limit : Nat) (wanted : WantedRequest) : IO Reply := do
  match Target.parse wanted.url with
  | .error _ => return .after 0 .unreachable
  | .ok target =>
    let now ← IO.monoMsNow
    IO.sleep (UInt32.ofNat (start + wanted.due - now))
    let sent ← IO.monoMsNow
    let task ← IO.asTask (exchange target wanted.payload).block
    match ← awaitUntil (sent + limit + 1) task with
    | some ending => return .after ((← IO.monoMsNow) - sent) ending
    | none => return .never

/-- Runs the program again and again until its transcript is complete. -/
partial def converse (program : Transcript → Finish × Transcript) (make : WantedRequest → IO Reply)
    (seed : Nat) (replies : List Reply) : IO Finish := do
  let (finish, transcript) := program { replies, seed }
  match transcript.wanted with
  | none => return finish
  | some wanted => converse program make seed (replies ++ [← make wanted])

/-- The variables of the environment that the program knows. -/
def environment : IO Environment :=
  Environment.known.filterMapM fun key => return (← IO.getEnv key).map fun value => (key, value)

/-- The time of the clock. -/
def now : IO Moment := do
  let t := (← Time.Timestamp.now).toNanosecondsSinceUnixEpoch.val
  return ⟨t.fdiv 1000000000, (t.fmod 1000000000).toNat⟩

end TokenAudit.Outside

open TokenAudit in
/-- Runs the program with arguments. -/
def main (arguments : List String) : IO UInt32 := do
  let environment ← Outside.environment
  let now ← Outside.now
  let start ← IO.monoMsNow
  let limit := ((Endpoints.ofEnvironment environment).map Endpoints.timeout).toOption.getD 0
  let finish ← Outside.converse (run Transcript.transport environment now arguments)
    (Outside.send start limit) (← IO.rand 0 UInt32.size) []
  (← IO.getStdout).putStr finish.output
  (← IO.getStderr).putStr finish.errors
  return UInt32.ofNat finish.exitCode
