import TokenAudit.Rpc.Transport

/-! # Transcripts

What came of requests so far. A run whose requests are answered from a transcript goes on up to the
first request that is not in it; when that request was made, the run starts over with a longer
transcript. So a run without effects can ask a network of which nothing is known beforehand.

* `Transcript` — the replies, and the request that was missing;
* `Transcript.transport` — answering from a transcript. -/

namespace TokenAudit

/-- A request that is to be made. -/
structure WantedRequest where
  url : String
  payload : Json
  /-- When it is to be made, counted from the start of the run. -/
  due : Nat

/-- What came of requests so far. -/
structure Transcript where
  /-- The replies to the requests that the run makes next. -/
  replies : List Reply
  /-- The last number of chance. -/
  seed : Nat
  /-- The first request to which there was no reply. -/
  wanted : Option WantedRequest := none

namespace Transcript

/-- What a run is told when nothing is known: an answer that it does not ask for again. -/
def dummy : Reply := .after 0 (.answered 400 (.ofJson .null))

/-- The number of chance after another one. -/
def nextSeed (seed : Nat) : Nat := (seed * 6364136223846793005 + 1442695040888963407) % UInt64.size

/-- Answering from a transcript. -/
def transport : Transport Transcript where
  post url payload due t :=
    match t.wanted, t.replies with
    | some _, _ => (dummy, t)
    | none, reply :: replies => (reply, { t with replies })
    | none, [] => (dummy, { t with wanted := some ⟨url, payload, due⟩ })
  draw t := (nextSeed t.seed / UInt32.size, { t with seed := nextSeed t.seed })

end Transcript

end TokenAudit
