import TokenAudit.Identity
import TokenAudit.Json.Decoder
import TokenAudit.Rpc.Target
import TokenAudit.Text.Blank
import TokenAudit.Text.Lowercase
import TokenAudit.Text.Numeral

/-! # Messages

A request to an endpoint, and its answer, as they go over a connection: a first line, headers, an
empty line, and a body. The body of an answer goes up to the end of the connection, or comes in
pieces of given sizes.

* `Http.request` — the bytes of a request;
* `Http.parse?` — the status of an answer and what its body holds. -/

namespace TokenAudit.Http

/-- The end of a line. -/
def lineEnd : List UInt8 := [13, 10]

/-- A request with a payload to a target. -/
def request (target : Target) (payload : Json) : List UInt8 :=
  let body := payload.compress.toUTF8.toList
  let head :=
    ["POST " ++ target.resource ++ " HTTP/1.1",
     "Host: " ++ target.host.toText ++ ":" ++ Numeral.decimal target.socket,
     "User-Agent: " ++ Identity.userAgent,
     "Content-Type: application/json",
     "Content-Length: " ++ Numeral.decimal body.length,
     "Connection: close"]
  (head.flatMap fun line => line.toUTF8.toList ++ lineEnd) ++ lineEnd ++ body

/-- The first line of bytes, without its end, and what follows. -/
def line : List UInt8 → List UInt8 × List UInt8
  | [] => ([], [])
  | 13 :: 10 :: rest => ([], rest)
  | b :: rest =>
    let (before, after) := line rest
    (b :: before, after)

/-- What follows a line is no longer than all. -/
theorem length_line_le (bytes : List UInt8) : (line bytes).2.length ≤ bytes.length := by
  fun_induction line bytes with
  | case1 => simp
  | case2 rest => simp; omega
  | case3 b rest _ before after h ih =>
    rw [h] at ih
    exact Nat.le_trans ih (Nat.le_succ _)

/-- What follows a line that is not empty is shorter than all. -/
theorem length_line_lt {bytes : List UInt8} (h : (line bytes).1 ≠ []) :
    (line bytes).2.length < bytes.length := by
  fun_cases line bytes with
  | case1 => simp [line] at h
  | case2 rest => simp [line] at h
  | case3 b rest _ before after hline =>
    have := length_line_le rest
    rw [hline] at this
    exact Nat.lt_succ_of_le this

/-- Bytes as text, each byte a character. -/
def plain (bytes : List UInt8) : List Char := bytes.map fun b => Char.ofNat b.toNat

/-- The lines up to the first empty one, and what follows it. -/
def headLines (bytes : List UInt8) : List (List Char) × List UInt8 :=
  if _h : (line bytes).1 = [] then ([], (line bytes).2)
  else
    let (lines, body) := headLines (line bytes).2
    (plain (line bytes).1 :: lines, body)
termination_by bytes.length
decreasing_by exact length_line_lt _h

/-- The size that a line before a piece of a body gives; zero if it gives none. -/
def pieceSize (first : List UInt8) : Nat :=
  match Numeral.read 16 UInt64.size ((plain first).takeWhile fun c => (Hex.value? c).isSome) with
  | .ok size => size
  | .error _ => 0

/-- The pieces of a body, put together. Each piece has its size before it, and one of no size ends
the body. -/
def joinPieces (bytes : List UInt8) : List UInt8 :=
  if _h : (line bytes).1 = [] ∨ pieceSize (line bytes).1 = 0 then []
  else
    let size := pieceSize (line bytes).1
    let rest := (line bytes).2
    rest.take size ++ joinPieces (line (rest.drop size)).2
termination_by bytes.length
decreasing_by
  have h₁ := length_line_lt fun he => _h (.inl he)
  have h₂ := length_line_le ((line bytes).2.drop (pieceSize (line bytes).1))
  simp only [List.length_drop] at h₂
  omega

/-- Whether headers say that a body comes in pieces. -/
def comesInPieces (headers : List (List Char)) : Bool :=
  headers.any fun header =>
    let text := Text.lowercase (String.ofList (header.filter fun c => !Text.isBlank c))
    text == "transfer-encoding:chunked"

/-- The number in the first line of an answer. -/
def statusOf? (first : List Char) : Option Nat :=
  match (first.dropWhile (· ≠ ' ')).drop 1 with
  | [a, b, c] | a :: b :: c :: ' ' :: _ => (Numeral.read 10 1000 [a, b, c]).toOption
  | _ => none

/-- What the bytes of a body hold. -/
def documentOf (body : List UInt8) : Json.Document :=
  match String.fromUTF8? ⟨body.toArray⟩ with
  | some text => .ofText text
  | none => ⟨.stop .malformed, true⟩

/-- The status of an answer and what its body holds. -/
def parse? (bytes : List UInt8) : Option (Nat × Json.Document) :=
  match headLines bytes with
  | ([], _) => none
  | (first :: headers, rest) => do
    let status ← statusOf? first
    return (status, documentOf (if comesInPieces headers then joinPieces rest else rest))

end TokenAudit.Http
