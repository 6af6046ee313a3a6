/-! # Words

Amounts and balances on the ledger are numbers of 256 bits. A **word** is such a number from zero
up; a **signed word** has as many numbers below zero as from zero up.

* `Word.size`, `Word.half` — how many numbers there are, and how many of one sign;
* `Word.last` — the greatest word. -/

namespace TokenAudit.Word

/-- How many words there are. -/
def size : Nat := 1 <<< 256

/-- How many signed words are below zero, and how many are not. -/
def half : Nat := 1 <<< 255

/-- The greatest word. -/
def last : Nat := size - 1

end TokenAudit.Word
