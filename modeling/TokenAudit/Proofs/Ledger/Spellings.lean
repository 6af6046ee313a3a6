import TokenAudit.Address
import TokenAudit.Ledger.Quantity

/-! # Spellings read back

Numbers travel as quantities and accounts in checksum case. Whoever reads such a text gets what was
written: the digits of a number stand for it again, and the capitals of a checksum say nothing about
the account.

* `Quantity.read_write` — quantities of all numbers of 64 bits;
* `Hex.decode?_map_toLower`, `Hex.decode?_recased` — bytes from digits in any letter case, and
  `Hex.decode?_eq_some_iff`, bytes from nothing else;
* `Address.parse_toChecksum` — all accounts. -/

namespace TokenAudit

/-! ## Numbers -/

namespace Hex

/-- A number below sixteen is written with one digit. -/
theorem ofNat_of_lt {n : Nat} (h : n < 16) : ofNat n = [digit n] := by
  rw [ofNat, reversedDigits, if_pos h]
  rfl

/-- The last digit of a number comes after those of what is left of it. -/
theorem ofNat_of_le {n : Nat} (h : 16 ≤ n) : ofNat n = ofNat (n / 16) ++ [digit (n % 16)] := by
  rw [ofNat, reversedDigits, if_neg (Nat.not_lt.2 h), List.reverse_cons, ofNat]

/-- A number has a first digit. -/
theorem exists_ofNat_eq_cons (n : Nat) : ∃ d rest, d < 16 ∧ ofNat n = digit d :: rest := by
  induction n using Nat.strongRecOn with
  | ind n ih =>
    by_cases h : n < 16
    · exact ⟨n, [], h, ofNat_of_lt h⟩
    · obtain ⟨d, rest, hd, hrest⟩ := ih (n / 16) (by omega)
      exact ⟨d, rest ++ [digit (n % 16)], hd, by
        rw [ofNat_of_le (Nat.not_lt.1 h), hrest, List.cons_append]⟩

end Hex

namespace Numeral

/-- A digit is read with its value. -/
theorem digitOf?_digit : ∀ d < 16, digitOf? 16 (Hex.digit d) = some d := by decide

/-- A digit is no plus sign. -/
theorem digit_ne_plus : ∀ d < 16, Hex.digit d ≠ '+' := by decide

/-- Digits that follow others are read on from the number that these stand for. -/
theorem readFrom_append (base limit acc : Nat) (first second : List Char) :
    readFrom base limit acc (first ++ second) =
      (readFrom base limit acc first).bind fun n => readFrom base limit n second := by
  induction first generalizing acc with
  | nil => rfl
  | cons c rest ih =>
    rw [List.cons_append, readFrom, readFrom]
    cases digitOf? base c with
    | none => rfl
    | some d =>
      dsimp only
      by_cases hlt : acc * base + d < limit
      · rw [if_pos hlt, if_pos hlt, ih]
      · rw [if_neg hlt, if_neg hlt]
        rfl

/-- One more digit is read if the number still fits. -/
theorem readFrom_digit {limit acc d : Nat} (hd : d < 16) (h : acc * 16 + d < limit) :
    readFrom 16 limit acc [Hex.digit d] = .ok (acc * 16 + d) := by
  rw [readFrom, digitOf?_digit d hd]
  exact if_pos h

/-- **The digits of a number stand for it.** -/
theorem readFrom_ofNat {limit n : Nat} (h : n < limit) :
    readFrom 16 limit 0 (Hex.ofNat n) = .ok n := by
  induction n using Nat.strongRecOn with
  | ind n ih =>
    by_cases hn : n < 16
    · rw [Hex.ofNat_of_lt hn, readFrom_digit hn (by omega)]
      exact congrArg Except.ok (by omega)
    · -- all digits but the last stand for a sixteenth of the number
      rw [Hex.ofNat_of_le (Nat.not_lt.1 hn), readFrom_append, ih (n / 16) (by omega) (by omega)]
      show readFrom 16 limit (n / 16) [Hex.digit (n % 16)] = .ok n
      rw [readFrom_digit (Nat.mod_lt n (by decide)) (by omega)]
      exact congrArg Except.ok (by omega)

/-- A text that does not begin with a plus sign is read as digits. -/
theorem read_cons_of_ne (base limit : Nat) {c : Char} (h : c ≠ '+') (rest : List Char) :
    read base limit (c :: rest) = readFrom base limit 0 (c :: rest) := by
  rw [read]
  · intro heq
    cases heq
  · intro heq
    exact h (List.cons.inj heq).1
  · intro rest' heq
    exact h (List.cons.inj heq).1

end Numeral

/-- **What is written as a quantity reads back**, for every number of 64 bits. -/
theorem Quantity.read_write {n : Nat} (h : n < UInt64.size) : read (write n) = .ok n := by
  obtain ⟨d, rest, hd, hdigits⟩ := Hex.exists_ofNat_eq_cons n
  have hread : Numeral.read 16 UInt64.size (Hex.digit d :: rest) = .ok n := by
    rw [Numeral.read_cons_of_ne 16 UInt64.size (Numeral.digit_ne_plus d hd), ← hdigits]
    exact Numeral.readFrom_ofNat h
  rw [read, write, String.toList_ofList, marked?, hdigits]
  dsimp only
  rw [hread]

/-! ## Accounts -/

/-- A hash has 32 bytes. -/
theorem Keccak.length_hash (message : List UInt8) : (hash message).length = 32 := by
  simp [hash, wordBytes]

/-- The bytes of an array, listed from a place on behind those that are listed already. -/
theorem toList_loop_eq (bytes : ByteArray) {i : Nat} (h : i ≤ bytes.size) (before : List UInt8) :
    ByteArray.toList.loop bytes i before = before.reverse ++ bytes.data.toList.drop i := by
  fun_induction ByteArray.toList.loop bytes i before with
  | case1 i before hlt ih =>
    -- the byte at the place is the first of those that are still to be listed
    have hi : i < bytes.data.toList.length := hlt
    have hget : bytes.get! i = bytes.data.toList[i] := by
      show bytes.data[i]! = _
      rw [getElem!_pos bytes.data i hlt, Array.getElem_toList]
    rw [ih hlt, List.drop_eq_getElem_cons hi, List.reverse_cons, List.append_assoc, hget]
    rfl
  | case2 i before hge => rw [List.drop_eq_nil_of_le (Nat.le_of_not_lt hge), List.append_nil]

/-- The bytes of a byte array are those that it holds. -/
theorem toList_eq_data (bytes : ByteArray) : bytes.toList = bytes.data.toList :=
  toList_loop_eq bytes (Nat.zero_le _) []

/-- A text has as many bytes as its characters take. -/
theorem length_toUTF8 (text : String) : text.toUTF8.toList.length = text.utf8ByteSize := by
  rw [toList_eq_data]
  rfl

namespace Hex

/-- Of all hexadecimal digits a small f comes last. -/
theorem le_of_value? {c : Char} {d : Nat} (h : value? c = some d) : c ≤ 'f' := by
  rw [value?] at h
  split at h
  case isTrue hdigit => exact Char.le_trans hdigit.2 (by decide)
  split at h
  case isTrue hlower => exact hlower.2
  split at h
  case isTrue hupper => exact Char.le_trans hupper.2 (by decide)
  cases h

/-- A hexadecimal digit takes one byte. -/
theorem utf8Size_of_value? {c : Char} {d : Nat} (h : value? c = some d) : c.utf8Size = 1 :=
  Char.utf8Size_eq_one_iff.2 (UInt32.le_trans (le_of_value? h) (by decide))

/-- A text that spells bytes takes two bytes for each of them. -/
theorem utf8ByteSize_of_decode? {cs : List Char} {bytes : List UInt8}
    (h : decode? cs = some bytes) : (String.ofList cs).utf8ByteSize = 2 * bytes.length := by
  fun_induction decode? cs generalizing bytes with
  | case1 =>
    cases h
    rfl
  | case2 => cases h
  | case3 high low rest h l more hrest hlow hhigh ih =>
    cases h
    rw [String.ofList_cons, String.ofList_cons, String.utf8ByteSize_append,
      String.utf8ByteSize_append, String.utf8ByteSize_singleton, String.utf8ByteSize_singleton,
      utf8Size_of_value? hhigh, utf8Size_of_value? hlow, ih hrest, List.length_cons]
    omega
  | case4 => cases h

/-! ### Letter case -/

/-- A capital letter has the value of the small one. -/
theorem value?_capital :
    ∀ n < 26, value? (Char.ofNat (65 + n)).toLower = value? (Char.ofNat (65 + n)) := by
  decide

/-- A small letter has the value of the capital one. -/
theorem value?_small :
    ∀ n < 26, value? (Char.ofNat (97 + n)).toUpper = value? (Char.ofNat (97 + n)) := by
  decide

/-- A digit has the same value in lower case, and what is no digit is none there either. -/
theorem value?_toLower (c : Char) : value? c.toLower = value? c := by
  by_cases hcapital : c.val ≥ 'A'.val ∧ c.val ≤ 'Z'.val
  · have hA : 65 ≤ c.toNat := UInt32.le_iff_toNat_le.1 hcapital.1
    have hZ : c.toNat ≤ 90 := UInt32.le_iff_toNat_le.1 hcapital.2
    have h := value?_capital (c.toNat - 65) (by omega)
    rwa [Nat.add_sub_cancel' hA, Char.ofNat_toNat] at h
  · have hsame : c.toLower = c := dif_neg hcapital
    rw [hsame]

/-- A digit has the same value as a capital. -/
theorem value?_toUpper (c : Char) : value? c.toUpper = value? c := by
  by_cases hsmall : c.val ≥ 'a'.val ∧ c.val ≤ 'z'.val
  · have ha : 97 ≤ c.toNat := UInt32.le_iff_toNat_le.1 hsmall.1
    have hz : c.toNat ≤ 122 := UInt32.le_iff_toNat_le.1 hsmall.2
    have h := value?_small (c.toNat - 97) (by omega)
    rwa [Nat.add_sub_cancel' ha, Char.ofNat_toNat] at h
  · have hsame : c.toUpper = c := dif_neg hsmall
    rw [hsame]

/-- Bytes are read from the values of digits. -/
theorem decode?_congr {cs ds : List Char} (h : cs.map value? = ds.map value?) :
    decode? cs = decode? ds := by
  induction cs using decode?.induct generalizing ds with
  | case1 => rw [List.map_eq_nil_iff.1 h.symm]
  | case2 c =>
    obtain ⟨d, rest, rfl, -, hrest⟩ := List.map_eq_cons_iff.1 h.symm
    rw [List.map_eq_nil_iff.1 hrest]
    rfl
  | case3 high low rest hi lo bytes hhigh hlow hrest ih
  | case4 high low rest hnone ih =>
    obtain ⟨high', more, rfl, hhigh', hmore⟩ := List.map_eq_cons_iff.1 h.symm
    obtain ⟨low', rest', rfl, hlow', hrest'⟩ := List.map_eq_cons_iff.1 hmore
    rw [decode?, decode?, hhigh', hlow', ih hrest'.symm]

/-- Digits stand for the same bytes in lower case. -/
theorem decode?_map_toLower (cs : List Char) : decode? (cs.map Char.toLower) = decode? cs := by
  refine decode?_congr ?_
  rw [List.map_map]
  exact List.map_congr_left fun c _ => value?_toLower c

/-- A character up to `f` that has a value is the digit of that value, be it small or capital. -/
theorem digit_of_value?_upTo : ∀ n < 103, ∀ d ∈ value? (Char.ofNat n),
    d < 16 ∧ digit d = (Char.ofNat n).toLower := by
  decide

/-- A digit is that of its value, up to its letter case. -/
theorem digit_of_value? {c : Char} {d : Nat} (h : value? c = some d) :
    d < 16 ∧ digit d = c.toLower := by
  have hle : c.toNat ≤ 102 := UInt32.le_iff_toNat_le.1 (le_of_value? h)
  have hdigit := digit_of_value?_upTo c.toNat (Nat.lt_succ_of_le hle)
  rw [Char.ofNat_toNat] at hdigit
  exact hdigit d h

/-- **Bytes are read from their digits alone**, in any letter case. -/
theorem decode?_eq_some_iff {cs : List Char} {bytes : List UInt8} :
    decode? cs = some bytes ↔ cs.map Char.toLower = encode bytes := by
  constructor
  · intro h
    fun_induction decode? cs generalizing bytes with
    | case1 =>
      cases h
      rfl
    | case2 => cases h
    | case3 high low rest h l more hrest hlow hhigh ih =>
      cases h
      obtain ⟨hh, hhigh⟩ := digit_of_value? hhigh
      obtain ⟨hl, hlow⟩ := digit_of_value? hlow
      -- the two digits are those of the byte that they stand for
      have hbyte : (UInt8.ofNat (16 * h + l)).toNat = 16 * h + l := by
        rw [UInt8.toNat_ofNat']
        omega
      rw [List.map_cons, List.map_cons, encode, ih hrest, hbyte, ← hhigh, ← hlow,
        show (16 * h + l) / 16 = h by omega, show (16 * h + l) % 16 = l by omega]
    | case4 => cases h
  · intro h
    rw [← decode?_map_toLower, h, decode?_encode]

/-- Digits stand for the same bytes if some of them are made capitals. -/
theorem decode?_recased (bytes : List UInt8) {weights : List Nat}
    (h : 2 * bytes.length ≤ weights.length) :
    decode? (((encode bytes).zip weights).map fun entry =>
      if 8 ≤ entry.2 then entry.1.toUpper else entry.1) = some bytes := by
  have hvalue : ∀ entry : Char × Nat,
      value? (if 8 ≤ entry.2 then entry.1.toUpper else entry.1) = value? entry.1 := by
    intro entry
    split
    · exact value?_toUpper entry.1
    · rfl
  calc decode? (((encode bytes).zip weights).map fun entry =>
        if 8 ≤ entry.2 then entry.1.toUpper else entry.1)
    _ = decode? (((encode bytes).zip weights).map Prod.fst) := by
      refine decode?_congr ?_
      rw [List.map_map, List.map_map]
      exact List.map_congr_left fun entry _ => hvalue entry
    _ = decode? (encode bytes) := by rw [List.map_fst_zip (by rwa [length_encode])]
    _ = some bytes := decode?_encode bytes

end Hex

namespace Address

/-- Every byte has two halves. -/
theorem length_halves (bytes : List UInt8) : (halves bytes).length = 2 * bytes.length := by
  induction bytes with
  | nil => rfl
  | cons b rest ih => simp [halves, ih, Nat.mul_add]

/-- Digits of twenty bytes after a mark are the account that the bytes name. -/
theorem parse_marked {cs : List Char} {bytes : List UInt8} (h : Hex.decode? cs = some bytes)
    (hlength : bytes.length = 20) :
    parse (String.ofList ('0' :: 'x' :: cs)) = .ok (ofWord bytes) := by
  have hcs : Hex.withoutMark (String.ofList ('0' :: 'x' :: cs)).toList = cs := by
    rw [String.toList_ofList]
    rfl
  -- the length is measured in bytes of text, two for each byte that is named
  have hforty : (String.ofList cs).toUTF8.toList.length = 40 := by
    rw [length_toUTF8, Hex.utf8ByteSize_of_decode? h, hlength]
  rw [parse, hcs, hforty, if_neg (by decide), if_neg (by decide), h]

/-- **What is written in checksum case reads back**, for every account. -/
theorem parse_toChecksum (a : Address) : parse a.toChecksum = .ok a := by
  have hlength : a.bytes.length = 20 := Hex.length_bigEndianBytes 20 a.toNat
  have hweights : 2 * a.bytes.length ≤
      (halves (Keccak.hash (a.digits.map fun c => UInt8.ofNat c.toNat))).length := by
    rw [length_halves, Keccak.length_hash, hlength]
    decide
  -- whatever the hash is, it only says which digits are capitals
  have hdigits := Hex.decode?_recased a.bytes hweights
  exact (parse_marked hdigits hlength).trans (congrArg Except.ok (ofWord_bytes a))

end Address

end TokenAudit
