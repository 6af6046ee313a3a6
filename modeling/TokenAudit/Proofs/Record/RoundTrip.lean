import TokenAudit.Proofs.Json.Decoding
import TokenAudit.Proofs.Ledger.Spellings
import TokenAudit.Record.Profile
import TokenAudit.Record.Scan

/-! # Records read back

Diagnostics, reasons for skipping a log, holders, logs and what tokens say about themselves are
written as JSON and read from it. Their numbers have a fixed width, and whatever fits is read back
as it was: no two values are written alike, and what was read from any text, however it was spelled
there, is the same after one more round.

* `HolderBalance.Fits` and its siblings — the numbers have the width that they are read with;
* `inverts_address`, `inverts_word` — plain values;
* `HolderBalance.inverts` and its siblings — one record each;
* `RoundTrips` — a record and its texts.

Main statement: `records_round_trip`. -/

namespace TokenAudit

open Json (Decoder Fields Inverts IsExact Problem Reading checked bind_eq_ok_iff map_eq_ok_iff
  fieldsOf fills_of_ok inverts_nat inverts_str inverts_strs withinWhole_eq_ok_iff)

/-! ## Plain values -/

/-- An account is read from its text, wherever that stands. -/
theorem inverts_address (within : Bool) :
    Inverts (Address.decodeWithin within) Address.toJson fun _ => True where
  decode_encode {a} _ := by
    have hlength : a.bytes.length = 20 := Hex.length_bigEndianBytes 20 a.toNat
    have hparse : Address.parse a.toText = .ok a :=
      (Address.parse_marked (Hex.decode?_encode a.bytes) hlength).trans
        (congrArg Except.ok (Address.ofWord_bytes a))
    rw [Address.toJson, Reading.ofJson, Address.decodeWithin, hparse]
  fits_of_decode _ := trivial
  isExact _ := .str _

/-- All that a number is written with are hexadecimal digits. -/
theorem Hex.mem_ofNat {n : Nat} {c : Char} (h : c ∈ Hex.ofNat n) : ∃ d < 16, c = Hex.digit d := by
  induction n using Nat.strongRecOn with
  | ind n ih =>
    by_cases hn : n < 16
    · rw [Hex.ofNat_of_lt hn, List.mem_singleton] at h
      exact ⟨n, hn, h⟩
    · rw [Hex.ofNat_of_le (Nat.not_lt.1 hn), List.mem_append, List.mem_singleton] at h
      rcases h with h | h
      · exact ih (n / 16) (by omega) h
      · exact ⟨n % 16, Nat.mod_lt n (by decide), h⟩

/-- A digit is no underscore. -/
theorem digit_ne_underscore : ∀ d < 16, Hex.digit d ≠ '_' := by decide

/-- The digits of a word are read as that word. -/
theorem readWord_ofNat {n : Nat} (h : n < Word.size) : readWord 16 (Hex.ofNat n) = some n := by
  have hfilter : (Hex.ofNat n).filter (· ≠ '_') = Hex.ofNat n := by
    refine List.filter_eq_self.2 fun c hc => ?_
    obtain ⟨d, hd, rfl⟩ := Hex.mem_ofNat hc
    exact decide_eq_true (digit_ne_underscore d hd)
  obtain ⟨d, rest, -, hdigits⟩ := Hex.exists_ofNat_eq_cons n
  rw [readWord, hfilter, hdigits]
  dsimp only
  rw [← hdigits, Numeral.readFrom_ofNat h]
  rfl

/-- What is read as a word is one. -/
theorem readWord_lt {base n : Nat} {cs : List Char} (hpos : 0 < base) (hbase : base ≤ 16)
    (h : readWord base cs = some n) : n < Word.size := by
  have hsize : 0 < Word.size := by decide
  rw [readWord] at h
  split at h
  case h_1 =>
    cases h
    exact hsize
  case h_2 digits _ =>
    cases hread : Numeral.readFrom base Word.size 0 (cs.filter (· ≠ '_')) with
    | error flaw =>
      rw [hread] at h
      cases h
    | ok m =>
      rw [hread] at h
      cases h
      exact ((Numeral.readFrom_eq_ok_iff hpos hbase hsize).1 hread).1

/-- What is read from a text as a word is one. -/
theorem wordOfText_lt {text : String} {n : Nat} (h : wordOfText text = some n) : n < Word.size := by
  unfold wordOfText at h
  split at h
  all_goals exact readWord_lt (by decide) (by decide) h

/-- A word is read back from its quantity. -/
theorem wordOfText_write {n : Nat} (h : n < Word.size) :
    wordOfText (Quantity.write n) = some n := by
  rw [wordOfText, Quantity.write, String.toList_ofList]
  exact readWord_ofNat h

/-- A word is read from its text. -/
theorem inverts_word : Inverts decodeWord wordJson (· < Word.size) where
  decode_encode h := by rw [wordJson, Reading.ofJson, decodeWord, wordOfText_write h]
  fits_of_decode {r n} h := by
    unfold decodeWord at h
    split at h
    case h_1 =>
      split at h
      case h_1 hn =>
        cases h
        exact wordOfText_lt hn
      case h_2 => cases h
    case h_2 => exact Nat.lt_trans (Json.Decoder.nat_lt h) (by decide)
  isExact _ := .str _

/-- The number of a block is decoded from itself, if it has 64 bits. -/
theorem inverts_block : Inverts (Decoder.nat 64) .nat (· < UInt64.size) :=
  inverts_nat (Nat.le_refl _)

/-- So is the number of a block, if there is one. -/
theorem inverts_block? :
    Inverts (Decoder.option (Decoder.nat 64)) (.option .nat) fun o => ∀ n ∈ o, n < UInt64.size :=
  inverts_block.option fun _ h => by cases h

/-- A number of attempts is decoded from itself, if it has 32 bits. -/
theorem inverts_attempts : Inverts (Decoder.nat 32) .nat (· < UInt32.size) :=
  inverts_nat (by decide)

/-- A text is decoded from itself, if there is one. -/
theorem inverts_text? :
    Inverts (Decoder.option Decoder.str) (.option .str) fun o => ∀ s ∈ o, True :=
  inverts_str.option fun _ h => by cases h

/-- A byte is decoded from itself, if there is one. -/
theorem inverts_byte? :
    Inverts (Decoder.option (Decoder.nat 8)) (.option .nat) fun o => ∀ n ∈ o, n < UInt8.size :=
  (inverts_nat (by decide)).option fun _ h => by cases h

/-! ## Plain records -/

/-- The balance is a word. -/
def HolderBalance.Fits (h : HolderBalance) : Prop := h.balance < Word.size

/-- The number of the block has 64 bits. -/
def Log.Fits (log : Log) : Prop := ∀ n ∈ log.blockNumber, n < UInt64.size

/-- The number of decimals is a byte. -/
def TokenMetadata.Fits (m : TokenMetadata) : Prop := ∀ n ∈ m.decimals, n < UInt8.size

/-- A holder is decoded from what it is encoded as. -/
theorem HolderBalance.inverts :
    Inverts HolderBalance.decode HolderBalance.toJson HolderBalance.Fits where
  decode_encode {h} hfits := by
    have haddress := (inverts_address false).decode_encode (a := h.address) trivial
    have hbalance := inverts_word.decode_encode hfits
    have hfills := List.Forall₂.cons (fills_of_ok "address" haddress) <|
      .cons (fills_of_ok "balance" hbalance) .nil
    -- each step of the decoder finds what it looks for
    refine bind_eq_ok_iff.2 ⟨_, Reading.record_ofMembers hfills (by simp), ?_⟩
    refine bind_eq_ok_iff.2 ⟨_, Fields.required_of_lookup rfl haddress, ?_⟩
    exact bind_eq_ok_iff.2 ⟨_, Fields.required_of_lookup rfl hbalance, rfl⟩
  fits_of_decode {r h} hread := by
    obtain ⟨fields, -, hread⟩ := bind_eq_ok_iff.1 hread
    obtain ⟨address, -, hread⟩ := bind_eq_ok_iff.1 hread
    obtain ⟨balance, hbalance, hread⟩ := bind_eq_ok_iff.1 hread
    cases hread
    exact inverts_word.fits_of_required hbalance
  isExact {h} hfits := ((inverts_address false).isExact trivial).obj_cons <|
    (inverts_word.isExact hfits).obj_cons .obj_nil

/-- A log is decoded from what it is encoded as. -/
theorem Log.inverts : Inverts Log.decode Log.toJson Log.Fits where
  decode_encode {log} hfits := by
    have htopics := inverts_strs.decode_encode (a := log.topics) trivial
    have hdata := inverts_str.decode_encode (a := log.data) trivial
    have hblock := inverts_block?.decode_encode hfits
    have hfills := List.Forall₂.cons (fills_of_ok "topics" htopics) <|
      .cons (fills_of_ok "data" hdata) <| .cons (fills_of_ok "blockNumber" hblock) .nil
    refine bind_eq_ok_iff.2 ⟨_, Reading.record_ofMembers hfills (by simp), ?_⟩
    refine bind_eq_ok_iff.2 ⟨_, Fields.required_of_lookup rfl htopics, ?_⟩
    refine bind_eq_ok_iff.2 ⟨_, Fields.required_of_lookup rfl hdata, ?_⟩
    exact bind_eq_ok_iff.2 ⟨_, Fields.optional_of_lookup rfl hblock, rfl⟩
  fits_of_decode {r log} hread := by
    obtain ⟨fields, -, hread⟩ := bind_eq_ok_iff.1 hread
    obtain ⟨topics, -, hread⟩ := bind_eq_ok_iff.1 hread
    obtain ⟨data, -, hread⟩ := bind_eq_ok_iff.1 hread
    obtain ⟨block, hblock, hread⟩ := bind_eq_ok_iff.1 hread
    cases hread
    exact inverts_block?.fits_of_optional hblock
  isExact {log} hfits := (inverts_strs.isExact trivial).obj_cons <|
    (inverts_str.isExact trivial).obj_cons <| (inverts_block?.isExact hfits).obj_cons .obj_nil

/-- What a token says about itself is decoded from what it is encoded as. -/
theorem TokenMetadata.inverts :
    Inverts TokenMetadata.decode TokenMetadata.toJson TokenMetadata.Fits where
  decode_encode {m} hfits := by
    -- each field is found under its name and decoded from the encoding of its value
    have hname := inverts_text?.decode_encode (a := m.name) fun _ _ => trivial
    have hsymbol := inverts_text?.decode_encode (a := m.symbol) fun _ _ => trivial
    have hdecimals := inverts_byte?.decode_encode hfits
    have hfills := List.Forall₂.cons (fills_of_ok "name" hname) <|
      .cons (fills_of_ok "symbol" hsymbol) <| .cons (fills_of_ok "decimals" hdecimals) .nil
    refine bind_eq_ok_iff.2 ⟨_, Reading.record_ofMembers hfills (by simp), ?_⟩
    refine bind_eq_ok_iff.2 ⟨_, Fields.optional_of_lookup rfl hname, ?_⟩
    refine bind_eq_ok_iff.2 ⟨_, Fields.optional_of_lookup rfl hsymbol, ?_⟩
    exact bind_eq_ok_iff.2 ⟨_, Fields.optional_of_lookup rfl hdecimals, rfl⟩
  fits_of_decode {r m} hread := by
    obtain ⟨fields, -, hread⟩ := bind_eq_ok_iff.1 hread
    obtain ⟨name, -, hread⟩ := bind_eq_ok_iff.1 hread
    obtain ⟨symbol, -, hread⟩ := bind_eq_ok_iff.1 hread
    obtain ⟨decimals, hdecimals, hread⟩ := bind_eq_ok_iff.1 hread
    cases hread
    exact inverts_byte?.fits_of_optional hdecimals
  isExact {m} hfits := (inverts_text?.isExact fun _ _ => trivial).obj_cons <|
    (inverts_text?.isExact fun _ _ => trivial).obj_cons <|
      (inverts_byte?.isExact hfits).obj_cons .obj_nil

/-! ## Records that name their kind -/

/-- Numbers of topics and their places have 64 bits. -/
def Malformed.Fits : Malformed → Prop
  | .missingTopics found => found < UInt64.size
  | .badTopic index => index < UInt64.size
  | .emptyData | .badData | .amountOverflow => True

/-- The numbers of blocks have 64 bits, and that of attempts has 32. -/
def Diagnostic.Fits : Diagnostic → Prop
  | .chunkFailed window attempts _ _ =>
    window.first < UInt64.size ∧ window.last < UInt64.size ∧ attempts < UInt32.size
  | .logSkipped skipped => (∀ n ∈ skipped.blockNumber, n < UInt64.size) ∧ skipped.reason.Fits
  | .linkFailed _ _ => True

section

variable {depth : Nat}

/-- The only field of a reason that has one. -/
theorem Malformed.record_number {name : String} {n : Nat} (h : n < UInt64.size) :
    (do
      let fields ← (Reading.ofJson (.obj [(name, .nat n)])).record
        [(name, checked (Decoder.nat 64))]
      fields.required name (Decoder.nat 64) : Except Problem Nat) = .ok n := by
  have hn := inverts_block.decode_encode h
  have hlookup : (fieldsOf [(name, .nat n)]).lookup name = some (Reading.ofJson (.nat n)) :=
    (Json.lookup_cons_eq_ite ..).trans (if_pos rfl)
  have hrecord := Reading.record_ofMembers (.cons (fills_of_ok name hn) .nil) (by simp)
  exact bind_eq_ok_iff.2 ⟨_, hrecord, Fields.required_of_lookup hlookup hn⟩

/-- A reason is an object in which no other stands. -/
theorem Malformed.height_toJson (reason : Malformed) : Json.height reason.toJson = 1 := by
  cases reason <;> rfl

/-- A reason for skipping a log is decoded from what it is encoded as, wherever that stands. -/
theorem Malformed.inverts (within : Bool) (hdepth : 1 < depth) :
    Inverts (Malformed.decode within depth) Malformed.toJson Malformed.Fits where
  decode_encode {reason} hfits := by
    have hflat : 0 < depth - 1 := Nat.sub_pos_of_lt hdepth
    -- only reasons on topics have something beside their kind
    cases reason with
    | missingTopics n | badTopic n =>
      refine bind_eq_ok_iff.2 ⟨_, Reading.tagged_ofJson rfl (by simp) within hflat, ?_⟩
      exact withinWhole_eq_ok_iff.2 (map_eq_ok_iff.2 ⟨n, record_number hfits, rfl⟩)
    | emptyData | badData | amountOverflow =>
      exact bind_eq_ok_iff.2 ⟨_, Reading.tagged_ofJson rfl (by simp) within hflat, rfl⟩
  fits_of_decode {r reason} hread := by
    obtain ⟨⟨kind, rest⟩, -, hread⟩ := bind_eq_ok_iff.1 hread
    rw [withinWhole_eq_ok_iff] at hread
    cases kind with
    | missingTopics | badTopic =>
      obtain ⟨n, hn, rfl⟩ := map_eq_ok_iff.1 hread
      obtain ⟨fields, -, hn⟩ := bind_eq_ok_iff.1 hn
      exact inverts_block.fits_of_required hn
    | emptyData | badData | amountOverflow =>
      obtain ⟨-, -, rfl⟩ := map_eq_ok_iff.1 hread
      trivial
  isExact {reason} hfits := by
    cases reason with
    | missingTopics n | badTopic n =>
      exact (IsExact.str _).obj_cons <| (inverts_block.isExact hfits).obj_cons .obj_nil
    | emptyData | badData | amountOverflow => exact (IsExact.str _).obj_cons .obj_nil

/-- A record inside another one does not stand too deep. -/
theorem one_lt_maxDepth : 1 < Json.maxDepth := by decide

/-- A diagnostic on a chunk is decoded from what it is encoded as. -/
theorem Diagnostic.decode_chunkFailed {window : Window} {attempts : Nat} {code message : String}
    (hfits : (chunkFailed window attempts code message).Fits) (hdepth : 1 < depth) :
    decode depth (Reading.ofJson (chunkFailed window attempts code message).toJson) =
      .ok (chunkFailed window attempts code message) := by
  have hflat : 0 < depth - 1 := Nat.sub_pos_of_lt hdepth
  have hfirst := inverts_block.decode_encode hfits.1
  have hlast := inverts_block.decode_encode hfits.2.1
  have hattempts := inverts_attempts.decode_encode hfits.2.2
  have hcode := inverts_str.decode_encode (a := code) trivial
  have hmessage := inverts_str.decode_encode (a := message) trivial
  have hfills := List.Forall₂.cons (fills_of_ok "from_block" hfirst) <|
    .cons (fills_of_ok "to_block" hlast) <| .cons (fills_of_ok "attempts" hattempts) <|
      .cons (fills_of_ok "code" hcode) <| .cons (fills_of_ok "message" hmessage) .nil
  refine bind_eq_ok_iff.2 ⟨_, Reading.tagged_ofJson rfl (by simp) false hflat,
    withinWhole_eq_ok_iff.2 ?_⟩
  refine bind_eq_ok_iff.2 ⟨_, Reading.record_ofMembers hfills (by simp), ?_⟩
  refine bind_eq_ok_iff.2 ⟨_, Fields.required_of_lookup rfl hfirst, ?_⟩
  refine bind_eq_ok_iff.2 ⟨_, Fields.required_of_lookup rfl hlast, ?_⟩
  refine bind_eq_ok_iff.2 ⟨_, Fields.required_of_lookup rfl hattempts, ?_⟩
  refine bind_eq_ok_iff.2 ⟨_, Fields.required_of_lookup rfl hcode, ?_⟩
  exact bind_eq_ok_iff.2 ⟨_, Fields.required_of_lookup rfl hmessage, rfl⟩

/-- A reason inside a diagnostic is taken whole before it is looked at. -/
theorem Diagnostic.decode_logSkipped {skipped : SkippedLog} (hfits : (logSkipped skipped).Fits)
    (hdepth : 2 < depth) :
    decode depth (Reading.ofJson (logSkipped skipped).toJson) = .ok (logSkipped skipped) := by
  have hblock := inverts_block?.decode_encode hfits.1
  have hreason := (Malformed.inverts true one_lt_maxDepth).decode_encode hfits.2
  have hfills := List.Forall₂.cons (fills_of_ok "block_number" hblock) <|
    .cons (fills_of_ok "reason" hreason) .nil
  have hnumber : Json.height (.option .nat skipped.blockNumber) = 0 := by
    cases skipped.blockNumber <;> rfl
  have hheight : Json.membersHeight [("block_number", .option .nat skipped.blockNumber),
      ("reason", skipped.reason.toJson)] < depth - 1 := by
    rw [Json.membersHeight, Json.membersHeight, Json.membersHeight, hnumber,
      Malformed.height_toJson]
    omega
  refine bind_eq_ok_iff.2 ⟨_, Reading.tagged_ofJson rfl (by simp) false hheight,
    withinWhole_eq_ok_iff.2 ?_⟩
  refine bind_eq_ok_iff.2 ⟨_, Reading.record_ofMembers hfills (by simp), ?_⟩
  refine bind_eq_ok_iff.2 ⟨_, Fields.optional_of_lookup rfl hblock, ?_⟩
  exact bind_eq_ok_iff.2 ⟨_, Fields.required_of_lookup rfl hreason, rfl⟩

/-- A diagnostic on a link is decoded from what it is encoded as. -/
theorem Diagnostic.decode_linkFailed (address : Address) (message : String) (hdepth : 1 < depth) :
    decode depth (Reading.ofJson (linkFailed address message).toJson) =
      .ok (linkFailed address message) := by
  have hflat : 0 < depth - 1 := Nat.sub_pos_of_lt hdepth
  have haddress := (inverts_address true).decode_encode (a := address) trivial
  have hmessage := inverts_str.decode_encode (a := message) trivial
  have hfills := List.Forall₂.cons (fills_of_ok "address" haddress) <|
    .cons (fills_of_ok "message" hmessage) .nil
  refine bind_eq_ok_iff.2 ⟨_, Reading.tagged_ofJson rfl (by simp) false hflat,
    withinWhole_eq_ok_iff.2 ?_⟩
  refine bind_eq_ok_iff.2 ⟨_, Reading.record_ofMembers hfills (by simp), ?_⟩
  refine bind_eq_ok_iff.2 ⟨_, Fields.required_of_lookup rfl haddress, ?_⟩
  exact bind_eq_ok_iff.2 ⟨_, Fields.required_of_lookup rfl hmessage, rfl⟩

/-- The numbers that are found in a diagnostic have their width, whatever its kind. -/
theorem Diagnostic.fits_of_decode {r : Reading} {diagnostic : Diagnostic}
    (h : decode depth r = .ok diagnostic) : diagnostic.Fits := by
  obtain ⟨⟨kind, rest⟩, -, h⟩ := bind_eq_ok_iff.1 h
  rw [withinWhole_eq_ok_iff] at h
  -- texts and accounts may be any, only the numbers have a width
  cases kind with
  | chunkFailed =>
    obtain ⟨fields, -, h⟩ := bind_eq_ok_iff.1 h
    obtain ⟨first, hfirst, h⟩ := bind_eq_ok_iff.1 h
    obtain ⟨last, hlast, h⟩ := bind_eq_ok_iff.1 h
    obtain ⟨attempts, hattempts, h⟩ := bind_eq_ok_iff.1 h
    obtain ⟨code, -, h⟩ := bind_eq_ok_iff.1 h
    obtain ⟨message, -, h⟩ := bind_eq_ok_iff.1 h
    cases h
    exact ⟨inverts_block.fits_of_required hfirst, inverts_block.fits_of_required hlast,
      inverts_attempts.fits_of_required hattempts⟩
  | logSkipped =>
    obtain ⟨fields, -, h⟩ := bind_eq_ok_iff.1 h
    obtain ⟨block, hblock, h⟩ := bind_eq_ok_iff.1 h
    obtain ⟨reason, hreason, h⟩ := bind_eq_ok_iff.1 h
    cases h
    exact ⟨inverts_block?.fits_of_optional hblock,
      (Malformed.inverts true one_lt_maxDepth).fits_of_required hreason⟩
  | linkFailed =>
    obtain ⟨fields, -, h⟩ := bind_eq_ok_iff.1 h
    obtain ⟨address, -, h⟩ := bind_eq_ok_iff.1 h
    obtain ⟨message, -, h⟩ := bind_eq_ok_iff.1 h
    cases h
    trivial

/-- A diagnostic of any kind is decoded from what it is encoded as. -/
theorem Diagnostic.inverts (hdepth : 2 < depth) :
    Inverts (Diagnostic.decode depth) Diagnostic.toJson Diagnostic.Fits where
  decode_encode {diagnostic} hfits := by
    -- only a skipped log holds another object, its reason
    cases diagnostic with
    | chunkFailed window attempts code message =>
      exact decode_chunkFailed hfits (Nat.lt_of_succ_lt hdepth)
    | logSkipped skipped => exact decode_logSkipped hfits hdepth
    | linkFailed address message =>
      exact decode_linkFailed address message (Nat.lt_of_succ_lt hdepth)
  fits_of_decode := fits_of_decode
  isExact {diagnostic} hfits := by
    cases diagnostic with
    | chunkFailed window attempts code message =>
      exact (IsExact.str _).obj_cons <| (inverts_block.isExact hfits.1).obj_cons <|
        (inverts_block.isExact hfits.2.1).obj_cons <|
        (inverts_attempts.isExact hfits.2.2).obj_cons <|
        (IsExact.str _).obj_cons <| (IsExact.str _).obj_cons .obj_nil
    | logSkipped skipped =>
      have hreason := (Malformed.inverts true one_lt_maxDepth).isExact hfits.2
      exact (IsExact.str _).obj_cons <| (inverts_block?.isExact hfits.1).obj_cons <|
        hreason.obj_cons .obj_nil
    | linkFailed address message =>
      exact (IsExact.str _).obj_cons <| (IsExact.str _).obj_cons <|
        (IsExact.str _).obj_cons .obj_nil

end

/-! ## Texts -/

/-- **A record goes round**: what is written of it is read back, different records are written
differently, and what is read from a text in any spelling is read again from what is written of
it. -/
structure RoundTrips {α : Type} (decode : Decoder α) (encode : α → Json) (Fits : α → Prop) :
    Prop where
  /-- What is written is read back. -/
  decode_encode : ∀ a, Fits a → Json.decodeText decode (encode a).compress = .ok a
  /-- Different values are written differently. -/
  injective : ∀ a b, Fits a → Fits b → (encode a).compress = (encode b).compress → a = b
  /-- What is read from any text can be written, and is read again. -/
  settled : ∀ text a, Json.decodeText decode text = .ok a →
    Fits a ∧ Json.decodeText decode (encode a).compress = .ok a

/-- A decoder that undoes an encoding does so through texts, too. -/
theorem Json.Inverts.roundTrips {α : Type} {decode : Decoder α} {encode : α → Json}
    {Fits : α → Prop} (h : Inverts decode encode Fits) : RoundTrips decode encode Fits where
  decode_encode _ ha := h.decodeText_compress ha
  injective _ _ ha hb heq := h.compress_injective ha hb heq
  settled _ _ hread :=
    ⟨h.fits_of_decodeText hread, h.decodeText_compress (h.fits_of_decodeText hread)⟩

/-- **Records go round**, with any texts in them, any accounts, all numbers of their width, and
options that are there or are not. -/
theorem records_round_trip :
    RoundTrips (Diagnostic.decode Json.maxDepth) Diagnostic.toJson Diagnostic.Fits ∧
      RoundTrips (Malformed.decode false Json.maxDepth) Malformed.toJson Malformed.Fits ∧
      RoundTrips HolderBalance.decode HolderBalance.toJson HolderBalance.Fits ∧
      RoundTrips Log.decode Log.toJson Log.Fits ∧
      RoundTrips TokenMetadata.decode TokenMetadata.toJson TokenMetadata.Fits :=
  ⟨(Diagnostic.inverts (by decide)).roundTrips,
    (Malformed.inverts false one_lt_maxDepth).roundTrips,
    HolderBalance.inverts.roundTrips, Log.inverts.roundTrips, TokenMetadata.inverts.roundTrips⟩

/-- A chunk up to the last block there can be, with a message in which some characters are
escaped. -/
theorem records_round_trip_chunkFailed :
    (Diagnostic.chunkFailed ⟨1, 18446744073709551615⟩ 3 "A" "a \"b\" \\ \n\x01/").toJson.compress =
        "\x7b\"type\":\"chunk_failed\",\"from_block\":1,\"to_block\":18446744073709551615,\"attempts\":3," ++
          "\"code\":\"A\",\"message\":\"a \\\"b\\\" \\\\ \\n\\u0001/\"\x7d" ∧
      Json.decodeText (Diagnostic.decode Json.maxDepth)
        (Diagnostic.chunkFailed ⟨1, 18446744073709551615⟩ 3 "A"
          "a \"b\" \\ \n\x01/").toJson.compress =
        .ok (.chunkFailed ⟨1, 18446744073709551615⟩ 3 "A" "a \"b\" \\ \n\x01/") :=
  ⟨by decide +kernel, records_round_trip.1.decode_encode _ ⟨by decide, by decide, by decide⟩⟩

end TokenAudit
