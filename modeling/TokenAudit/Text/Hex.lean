/-! # Hexadecimal text

Bytes and numbers in base sixteen. Writing is always in lower case; reading takes either case.

* `encode`, `decode?` — bytes, two digits each;
* `ofNat`, `padded` — numbers, without leading zeros or filled up to a width;
* `withoutMark` — a text without the mark `0x` or `0X` it may start with;
* `bigEndian`, `bigEndianBytes` — the number that bytes spell, and back.

Main statements: `decode?_encode` (what is written reads back), `length_encode`,
`bigEndian_bigEndianBytes` and `bigEndianBytes_bigEndian`. -/

namespace TokenAudit.Hex

/-- The lower-case digit of a value below sixteen. -/
def digit (n : Nat) : Char :=
  if n < 10 then Char.ofNat (48 + n) else Char.ofNat (87 + n)

/-- The value of a digit in either case. -/
def value? (c : Char) : Option Nat :=
  if '0' ≤ c ∧ c ≤ '9' then some (c.toNat - 48)
  else if 'a' ≤ c ∧ c ≤ 'f' then some (c.toNat - 87)
  else if 'A' ≤ c ∧ c ≤ 'F' then some (c.toNat - 55)
  else none

/-- A digit is read with its value. -/
theorem value?_digit : ∀ n < 16, value? (digit n) = some n := by decide

/-! ## Bytes -/

/-- Two digits for each byte. -/
def encode : List UInt8 → List Char
  | [] => []
  | b :: rest => digit (b.toNat / 16) :: digit (b.toNat % 16) :: encode rest

/-- Reads pairs of digits; an odd digit at the end or any other character refuses the text. -/
def decode? : List Char → Option (List UInt8)
  | [] => some []
  | [_] => none
  | high :: low :: rest =>
    match value? high, value? low, decode? rest with
    | some h, some l, some bytes => some (UInt8.ofNat (16 * h + l) :: bytes)
    | _, _, _ => none

/-- Every byte has two digits. -/
@[simp] theorem length_encode (bytes : List UInt8) :
    (encode bytes).length = 2 * bytes.length := by
  induction bytes with
  | nil => rfl
  | cons b rest ih => simp [encode, ih]; omega

/-- The digits of bytes that follow one another follow one another. -/
theorem encode_append (first second : List UInt8) :
    encode (first ++ second) = encode first ++ encode second := by
  induction first with
  | nil => rfl
  | cons b rest ih => rw [List.cons_append, encode, encode, ih, List.cons_append, List.cons_append]

/-- Bytes are read back from their digits. -/
@[simp] theorem decode?_encode (bytes : List UInt8) : decode? (encode bytes) = some bytes := by
  induction bytes with
  | nil => rfl
  | cons b rest ih =>
    have hb : b.toNat < 256 := b.toNat_lt
    have hv : 16 * (b.toNat / 16) + b.toNat % 16 = b.toNat := by omega
    simp [encode, decode?, value?_digit _ (show b.toNat / 16 < 16 by omega),
      value?_digit _ (show b.toNat % 16 < 16 by omega), ih, hv]

/-- The digits of `bytes` as a string. -/
def text (bytes : List UInt8) : String := String.ofList (encode bytes)

/-- The digits of `bytes` after the mark `0x`. -/
def marked (bytes : List UInt8) : String := String.ofList ('0' :: 'x' :: encode bytes)

/-- A text without the mark `0x` or `0X`, which is taken off once. -/
def withoutMark : List Char → List Char
  | '0' :: 'x' :: rest => rest
  | '0' :: 'X' :: rest => rest
  | cs => cs

/-! ## Numbers -/

/-- The digits of a number, the last one first. -/
def reversedDigits (n : Nat) : List Char :=
  if n < 16 then [digit n] else digit (n % 16) :: reversedDigits (n / 16)
termination_by n
decreasing_by omega

/-- The digits of a number without leading zeros; zero is the one digit `0`. -/
def ofNat (n : Nat) : List Char := (reversedDigits n).reverse

/-- The digits of a number, filled up with zeros on the left to at least `width`. -/
def padded (width n : Nat) : List Char :=
  let digits := ofNat n
  List.replicate (width - digits.length) '0' ++ digits

/-! ## Big-endian bytes -/

/-- The number that bytes spell, the first byte being the most significant. -/
def bigEndian (bytes : List UInt8) : Nat :=
  bytes.foldl (fun acc b => 256 * acc + b.toNat) 0

/-- The `width` low bytes of a number, the most significant first. -/
def bigEndianBytes : (width : Nat) → Nat → List UInt8
  | 0, _ => []
  | width + 1, n => UInt8.ofNat (n >>> (8 * width)) :: bigEndianBytes width n

/-- A number is written with as many bytes as were asked for. -/
@[simp] theorem length_bigEndianBytes (width n : Nat) :
    (bigEndianBytes width n).length = width := by
  induction width with
  | zero => rfl
  | succ width ih => simp [bigEndianBytes, ih]

/-- A number that was read before some bytes is moved up by their places. -/
theorem foldl_bigEndian (acc : Nat) (bytes : List UInt8) :
    bytes.foldl (fun acc b => 256 * acc + b.toNat) acc =
      acc <<< (8 * bytes.length) + bigEndian bytes := by
  unfold bigEndian
  induction bytes generalizing acc with
  | nil => simp
  | cons b rest ih =>
    rw [List.foldl_cons, List.foldl_cons, ih, ih (256 * 0 + b.toNat)]
    simp only [Nat.shiftLeft_eq, List.length_cons, Nat.mul_add, Nat.pow_add,
      Nat.add_mul, Nat.reduceMul, Nat.reducePow]
    rw [Nat.mul_comm 256 acc, Nat.mul_assoc, Nat.mul_comm 256]
    omega

/-- The first byte is moved up by the places of the others. -/
theorem bigEndian_cons (b : UInt8) (bytes : List UInt8) :
    bigEndian (b :: bytes) = b.toNat <<< (8 * bytes.length) + bigEndian bytes := by
  rw [bigEndian, List.foldl_cons, foldl_bigEndian]
  simp

/-- Bytes stand for a number below the first one that needs more of them. -/
theorem bigEndian_lt (bytes : List UInt8) : bigEndian bytes < 1 <<< (8 * bytes.length) := by
  induction bytes with
  | nil => decide
  | cons b rest ih =>
    rw [bigEndian_cons, List.length_cons]
    rw [Nat.shiftLeft_eq, Nat.one_mul] at ih
    rw [Nat.shiftLeft_eq, Nat.shiftLeft_eq, Nat.one_mul, Nat.mul_add, Nat.pow_add]
    have hb : (b.toNat + 1) * 2 ^ (8 * rest.length) ≤ 256 * 2 ^ (8 * rest.length) :=
      Nat.mul_le_mul_right _ b.toNat_lt
    rw [Nat.add_mul] at hb
    rw [Nat.mul_comm _ (2 ^ (8 * 1))]
    omega

/-- What does not fit into the bytes of a number is cut off. -/
theorem bigEndian_bigEndianBytes (width n : Nat) :
    bigEndian (bigEndianBytes width n) = n % 1 <<< (8 * width) := by
  induction width with
  | zero => simp [bigEndianBytes, bigEndian, Nat.mod_one]
  | succ width ih =>
    rw [bigEndianBytes, bigEndian_cons, ih, length_bigEndianBytes]
    simp only [Nat.shiftLeft_eq, Nat.shiftRight_eq_div_pow, Nat.one_mul, Nat.mul_add, Nat.pow_add,
      Nat.mod_mul, UInt8.toNat_ofNat']
    rw [Nat.mul_comm, Nat.add_comm]

/-- A number that fits is read back from its bytes. -/
theorem bigEndian_bigEndianBytes_of_lt {width n : Nat} (h : n < 1 <<< (8 * width)) :
    bigEndian (bigEndianBytes width n) = n := by
  rw [bigEndian_bigEndianBytes, Nat.mod_eq_of_lt h]

/-- As many bytes that stand for the same number are the same. -/
theorem bigEndian_inj {xs ys : List UInt8} (hlen : xs.length = ys.length)
    (h : bigEndian xs = bigEndian ys) : xs = ys := by
  induction xs generalizing ys with
  | nil => exact (List.eq_nil_of_length_eq_zero hlen.symm).symm
  | cons x xs ih =>
    cases ys with
    | nil => simp at hlen
    | cons y ys =>
      have hl : xs.length = ys.length := by simpa using hlen
      have hx := bigEndian_lt xs
      have hy := bigEndian_lt ys
      rw [bigEndian_cons, bigEndian_cons, hl] at h
      rw [hl] at hx
      simp only [Nat.shiftLeft_eq, Nat.one_mul] at h hx hy
      have hd := congrArg (· / 2 ^ (8 * ys.length)) h
      have hm := congrArg (· % 2 ^ (8 * ys.length)) h
      simp only [Nat.mul_add_mod_self_right, Nat.mod_eq_of_lt hx, Nat.mod_eq_of_lt hy] at hm
      have hb : x.toNat = y.toNat := by
        have hpos := Nat.two_pow_pos (8 * ys.length)
        rw [Nat.mul_comm x.toNat, Nat.mul_comm y.toNat] at hd
        simpa [Nat.mul_add_div hpos, Nat.div_eq_of_lt hx, Nat.div_eq_of_lt hy] using hd
      rw [UInt8.toNat_inj.1 hb, ih hl hm]

/-- Bytes are those of the number they stand for. -/
theorem bigEndianBytes_bigEndian {width : Nat} {bytes : List UInt8} (h : bytes.length = width) :
    bigEndianBytes width (bigEndian bytes) = bytes :=
  bigEndian_inj (by simp [h]) (bigEndian_bigEndianBytes_of_lt (h ▸ bigEndian_lt bytes))

end TokenAudit.Hex
