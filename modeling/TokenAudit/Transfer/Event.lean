import TokenAudit.Ledger.Abi
import TokenAudit.Ledger.Log

/-! # Transfers

A token tells of each transfer by a log with three topics, the event and the two accounts in words
of 32 bytes, and the amount in the first word of the data.

* `Transfer` — what the log says;
* `Malformed` — why a log says nothing;
* `Transfer.ofLog` — reading a log;
* `Transfer.toLog` — the log of a transfer.

Main statement: `ofLog_toLog` (what is written reads back). -/

namespace TokenAudit

/-- An amount of a token that goes from one account to another. -/
structure Transfer where
  /-- Who gives. -/
  sender : Address
  /-- Who receives. -/
  recipient : Address
  /-- How much. -/
  amount : Nat
  deriving DecidableEq, Repr

/-- Why a log does not count as a transfer. -/
inductive Malformed
  /-- It has fewer than three topics. -/
  | missingTopics (found : Nat)
  /-- A topic is no word of 32 bytes. -/
  | badTopic (index : Nat)
  /-- It has no data. -/
  | emptyData
  /-- Its data is not hexadecimal. -/
  | badData
  /-- The amount, or a balance after it, does not fit into a signed word. -/
  | amountOverflow
  deriving DecidableEq, Repr

/-- The wording of the reason. -/
def Malformed.message : Malformed → String
  | .missingTopics found => "expected 3 topics, found " ++ Numeral.decimal found
  | .badTopic index => "topic " ++ Numeral.decimal index ++ " is not a 32-byte word"
  | .emptyData => "empty data payload"
  | .badData => "data payload is not valid hex"
  | .amountOverflow => "amount exceeds signed 256-bit range"

namespace Transfer

/-- The topic that names the event: the digest of its signature. -/
def topic : String := "0xddf252ad1be2c89b69c2b068fc378daa952ba7f163c4a11628f55a4df523b3ef"

/-- The bytes of a hexadecimal text, with or without a mark. -/
def bytesOf? (text : String) : Option (List UInt8) := Hex.decode? (Hex.withoutMark text.toList)

/-- The account in a topic of 32 bytes. -/
def accountOf? (topic : String) : Option Address :=
  match bytesOf? topic with
  | some word => if word.length = 32 then some (Address.ofWord (word.drop 12)) else none
  | none => none

/-- Reads a log. The amount is the number in the first 32 bytes of the data; what follows them is
left aside, and fewer bytes are read as they are. -/
def ofLog (log : Log) : Except Malformed Transfer :=
  match log.topics with
  | _ :: first :: second :: _ =>
    match accountOf? first, accountOf? second with
    | none, _ => .error (.badTopic 1)
    | some _, none => .error (.badTopic 2)
    | some sender, some recipient =>
      if (Hex.withoutMark log.data.toList).isEmpty then .error .emptyData
      else
        match bytesOf? log.data with
        | none => .error .badData
        | some bytes => .ok ⟨sender, recipient, Hex.bigEndian (bytes.take 32)⟩
  | topics => .error (.missingTopics topics.length)

/-- The log of a transfer, in words throughout. -/
def toLog (t : Transfer) (blockNumber : Option Nat) : Log where
  topics :=
    [topic, Hex.marked (Abi.word t.sender.toNat), Hex.marked (Abi.word t.recipient.toNat)]
  data := Hex.marked (Abi.word t.amount)
  blockNumber

/-! ## Reading against writing -/

/-- Without their mark, marked digits are the digits. -/
theorem withoutMark_marked (bytes : List UInt8) :
    Hex.withoutMark (Hex.marked bytes).toList = Hex.encode bytes := by
  rw [Hex.marked, String.toList_ofList]
  rfl

/-- Bytes are read back from their marked digits. -/
theorem bytesOf?_marked (bytes : List UInt8) : bytesOf? (Hex.marked bytes) = some bytes := by
  rw [bytesOf?, withoutMark_marked, Hex.decode?_encode]

/-- An account is read back from the word it stands in. -/
theorem accountOf?_word (a : Address) : accountOf? (Hex.marked (Abi.word a.toNat)) = some a := by
  -- the low twenty bytes of a word are those of the account
  have haddress : Address.ofWord ((Abi.word a.toNat).drop 12) = a := Address.ofWord_bytes a
  rw [accountOf?, bytesOf?_marked]
  dsimp only
  rw [if_pos (Abi.length_word _), haddress]

/-- A transfer is read back from its log. -/
theorem ofLog_toLog {t : Transfer} (h : t.amount < Word.size) (blockNumber : Option Nat) :
    ofLog (t.toLog blockNumber) = .ok t := by
  have hamount : Hex.bigEndian ((Abi.word t.amount).take 32) = t.amount := by
    rw [List.take_of_length_le (Nat.le_of_eq (Abi.length_word _)), Abi.bigEndian_word h]
  rw [ofLog, toLog]
  dsimp only
  rw [accountOf?_word, accountOf?_word]
  dsimp only
  rw [withoutMark_marked, bytesOf?_marked]
  dsimp only
  rw [hamount]
  rfl

end Transfer

end TokenAudit
