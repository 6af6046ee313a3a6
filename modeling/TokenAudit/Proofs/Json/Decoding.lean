import TokenAudit.Proofs.Json.Members
import TokenAudit.Proofs.Json.Written

/-! # Values decoded from what they were encoded as

An encoding and a decoder belong together if the decoder finds in every encoded value what was
encoded, and finds nothing that could not be encoded. Then what is written as text is read back from
it, and what was read from any text can be written again without loss.

* `Inverts` — a decoder undoes an encoding;
* `Inverts.option`, `inverts_nat`, `inverts_str`, `inverts_strs` — plain shapes;
* `Fills`, `Reading.record_ofMembers` — an object with the fields of a record and no others;
* `Reading.whole_ofJson`, `Reading.tagged_ofJson` — values that name their kind.

Main statements: `Inverts.decodeText_compress` and `Inverts.compress_injective`. -/

namespace TokenAudit.Json

variable {α β : Type}

/-! ## Results -/

/-- One step after another succeeds exactly if the first does, and the second with its value. -/
theorem bind_eq_ok_iff {ε : Type} {x : Except ε α} {f : α → Except ε β} {b : β} :
    x >>= f = .ok b ↔ ∃ a, x = .ok a ∧ f a = .ok b := by
  cases x with
  | error e => exact iff_of_false (fun h => by cases h) fun ⟨_, h, _⟩ => by cases h
  | ok a => exact ⟨fun h => ⟨a, rfl, h⟩, fun ⟨_, ha, h⟩ => by cases ha; exact h⟩

/-- A mapped result is a value exactly if it is one of a value. -/
theorem map_eq_ok_iff {ε : Type} {x : Except ε α} {f : α → β} {b : β} :
    x.map f = .ok b ↔ ∃ a, x = .ok a ∧ f a = b := by
  cases x <;> simp [Except.map]

/-- A value that was taken whole is decoded to what it would be decoded to anyway. -/
theorem withinWhole_eq_ok_iff {x : Except Problem α} {a : α} :
    withinWhole x = .ok a ↔ x = .ok a := by
  cases x <;> simp [withinWhole]

/-! ## Decoders and encodings -/

/-- **A decoder undoes an encoding** of the values that fit. -/
structure Inverts (decode : Decoder α) (encode : α → Json) (Fits : α → Prop) : Prop where
  /-- What is encoded is found. -/
  decode_encode : ∀ {a}, Fits a → decode (Reading.ofJson (encode a)) = .ok a
  /-- What is found can be encoded. -/
  fits_of_decode : ∀ {r a}, decode r = .ok a → Fits a
  /-- What is encoded can be written. -/
  isExact : ∀ {a}, Fits a → IsExact (encode a)

section

variable {decode : Decoder α} {encode : α → Json} {Fits : α → Prop}

/-- **What was written is read back.** -/
theorem Inverts.decodeText_compress (h : Inverts decode encode Fits) {a : α} (ha : Fits a) :
    decodeText decode (encode a).compress = .ok a := by
  rw [decodeText, ofText_compress (h.isExact ha), Document.decode, Document.ofJson]
  dsimp only
  rw [h.decode_encode ha]
  rfl

/-- **Different values are never written alike.** -/
theorem Inverts.compress_injective (h : Inverts decode encode Fits) {a b : α} (ha : Fits a)
    (hb : Fits b) (heq : (encode a).compress = (encode b).compress) : a = b := by
  have hread := h.decodeText_compress ha
  rw [heq, h.decodeText_compress hb] at hread
  exact (Except.ok.inj hread).symm

/-- What is read from a text can be written. -/
theorem Inverts.fits_of_decodeText (h : Inverts decode encode Fits) {text : String} {a : α}
    (ha : decodeText decode text = .ok a) : Fits a := by
  rw [decodeText, Document.decode] at ha
  obtain ⟨value, hvalue, hall⟩ := bind_eq_ok_iff.1 ha
  split at hall
  case isTrue =>
    cases hall
    exact h.fits_of_decode hvalue
  case isFalse => cases hall

/-! ## Plain shapes -/

/-- A text is decoded from itself. -/
theorem inverts_str : Inverts Decoder.str .str fun _ => True where
  decode_encode _ := rfl
  fits_of_decode _ := trivial
  isExact _ := .str _

/-- A list of texts is decoded from an array of them. -/
theorem inverts_strs : Inverts (Decoder.list Decoder.str) .strs fun _ => True where
  decode_encode _ := Decoder.list_strs _
  fits_of_decode _ := trivial
  isExact _ := .arr fun j hj => by
    obtain ⟨s, -, rfl⟩ := List.mem_map.1 hj
    exact .str s

/-- A number that is found fits into its bits. -/
theorem Decoder.nat_lt {bits n : Nat} {r : Reading} (h : Decoder.nat bits r = .ok n) :
    n < 1 <<< bits := by
  unfold Decoder.nat at h
  split at h
  case h_1 m =>
    split at h
    case isTrue hm =>
      cases h
      omega
    case isFalse => cases h
  case h_2 => cases h

/-- A number of so many bits is decoded from itself. -/
theorem inverts_nat {bits : Nat} (hbits : 1 <<< bits ≤ UInt64.size) :
    Inverts (Decoder.nat bits) .nat (· < 1 <<< bits) where
  decode_encode {n} hn := by
    have hfits : (0 : Int) ≤ n ∧ (n : Int) < (1 <<< bits : Nat) := by omega
    rw [Json.nat, Reading.ofJson, Decoder.nat, if_pos hfits]
    rfl
  fits_of_decode h := Decoder.nat_lt h
  isExact hn := .nat (Nat.lt_of_lt_of_le hn hbits)

/-- What is encoded as null is nothing at all. -/
theorem Inverts.option (h : Inverts decode encode Fits)
    (hnull : ∀ a, Reading.ofJson (encode a) ≠ .null) :
    Inverts (Decoder.option decode) (.option encode) fun o => ∀ a ∈ o, Fits a where
  decode_encode {o} ho := by
    cases o with
    | none => rfl
    | some a => exact Decoder.option_of_ok (h.decode_encode (ho a rfl)) (hnull a)
  fits_of_decode {r o} ho := by
    unfold Decoder.option at ho
    split at ho
    case h_1 =>
      cases ho
      simp
    case h_2 =>
      obtain ⟨a, ha, rfl⟩ := map_eq_ok_iff.1 ho
      simpa using h.fits_of_decode ha
  isExact {o} ho := by
    cases o with
    | none => exact .null
    | some a => exact h.isExact (ho a rfl)

/-! ## Records -/

variable {fields : Fields} {name : String} {a : α}

/-- A required field that is found is decoded. -/
theorem Fields.required_of_lookup {r : Reading} (hfound : fields.lookup name = some r)
    (h : decode r = .ok a) : fields.required name decode = .ok a := by
  rw [Fields.required, hfound]
  exact h

/-- An optional field that is found is decoded, be it null or not. -/
theorem Fields.optional_of_lookup {r : Reading} {o : Option α}
    (hfound : fields.lookup name = some r) (h : Decoder.option decode r = .ok o) :
    fields.optional name decode = .ok o := by
  rw [Fields.optional, hfound]
  exact h

/-- What is found in a required field fits. -/
theorem Inverts.fits_of_required (h : Inverts decode encode Fits)
    (ha : fields.required name decode = .ok a) : Fits a := by
  rw [Fields.required] at ha
  split at ha
  case h_1 => exact h.fits_of_decode ha
  case h_2 => cases ha

/-- What is found in an optional field fits, if anything is. -/
theorem Inverts.fits_of_optional
    (h : Inverts (Decoder.option decode) (.option encode) fun o => ∀ a ∈ o, Fits a) {o : Option α}
    (ho : fields.optional name decode = .ok o) : ∀ a ∈ o, Fits a := by
  rw [Fields.optional] at ho
  split at ho
  case h_1 => exact h.fits_of_decode ho
  case h_2 =>
    cases ho
    simp

end

/-- The members of an object as fields. -/
def fieldsOf (members : List (String × Json)) : Fields :=
  members.map fun member => (member.1, Reading.ofJson member.2)

section

variable {shape : List (String × (Reading → Except Problem Unit))} {members : List (String × Json)}

/-- A member is what is looked for in the place of a field, and under its name. -/
def Fills (field : String × (Reading → Except Problem Unit)) (member : String × Json) : Prop :=
  field.1 = member.1 ∧ field.2 (Reading.ofJson member.2) = .ok ()

/-- A member fills the field of its name if the decoder of the field takes it. -/
theorem fills_of_ok (name : String) {decode : Decoder α} {j : Json} {a : α}
    (h : decode (Reading.ofJson j) = .ok a) :
    Fills (name, checked decode) (name, j) := ⟨rfl, checked_of_ok h⟩

/-- Each of the members that fill the fields of a record passes the check that is found under its
key. -/
theorem exists_check_of_fills (h : List.Forall₂ Fills shape members)
    (hkeys : (members.map Prod.fst).Nodup) :
    ∀ member ∈ members, ∃ check,
      shape.lookup member.1 = some check ∧ check (Reading.ofJson member.2) = .ok () := by
  induction h with
  | nil => simp
  | @cons field member shape members hfills _ ih =>
    obtain ⟨name, check⟩ := field
    obtain ⟨rfl, hcheck⟩ : name = member.1 ∧ check (Reading.ofJson member.2) = .ok () := hfills
    rw [List.map_cons, List.nodup_cons] at hkeys
    refine List.forall_mem_cons.2 ⟨⟨check, ?_, hcheck⟩, fun later hlater => ?_⟩
    · rw [lookup_cons_eq_ite, if_pos rfl]
    · obtain ⟨check', hlookup, hcheck'⟩ := ih hkeys.2 later hlater
      have hne : later.1 ≠ member.1 := fun heq => hkeys.1 (heq ▸ List.mem_map_of_mem hlater)
      exact ⟨check', by rw [lookup_cons_eq_ite, if_neg hne, hlookup], hcheck'⟩

/-- **The fields of a record are the members of an object** in which nothing else stands. -/
theorem Reading.record_ofMembers (h : List.Forall₂ Fills shape members)
    (hkeys : (members.map Prod.fst).Nodup) :
    (Reading.ofJson (.obj members)).record shape = .ok (fieldsOf members) := by
  have hchecks := exists_check_of_fills h hkeys
  clear h
  -- the members that were found before have other keys
  have hcollect : ∀ found : Fields, (∀ key ∈ members.map Prod.fst, found.lookup key = none) →
      collect shape found (Reading.ofMembers members) = .ok (found ++ fieldsOf members) := by
    induction members with
    | nil =>
      intro found _
      rw [Reading.ofMembers, collect, fieldsOf, List.map_nil, List.append_nil]
    | cons member rest ih =>
      obtain ⟨key, j⟩ := member
      rw [List.map_cons, List.nodup_cons] at hkeys
      rw [List.forall_mem_cons] at hchecks
      obtain ⟨⟨check, hshape, hcheck⟩, hrest⟩ := hchecks
      intro found hfound
      obtain ⟨hnew, hothers⟩ : found.lookup key = none ∧
          ∀ name ∈ rest.map Prod.fst, found.lookup name = none := List.forall_mem_cons.1 hfound
      have hlater : ∀ name ∈ rest.map Prod.fst,
          (found ++ [(key, Reading.ofJson j)]).lookup name = none := by
        intro name hname
        have hne : name ≠ key := fun heq => hkeys.1 (heq ▸ hname)
        rw [List.lookup_append, hothers name hname, lookup_cons_eq_ite, if_neg hne]
        rfl
      rw [Reading.ofMembers, collect_of_field hshape hnew hcheck, ih hkeys.2 hrest _ hlater,
        List.append_assoc]
      rfl
  rw [Reading.ofJson, Reading.record, hcollect [] fun _ _ => List.lookup_nil]
  rfl

end

/-! ## Values that name their kind -/

mutual

/-- How many brackets of a value stand inside one another. -/
def height : Json → Nat
  | .null | .bool _ | .num _ | .str _ => 0
  | .arr items => itemsHeight items + 1
  | .obj members => membersHeight members + 1

/-- How many brackets of the items of an array stand inside one another. -/
def itemsHeight : List Json → Nat
  | [] => 0
  | j :: rest => max (height j) (itemsHeight rest)

/-- How many brackets of the members of an object stand inside one another. -/
def membersHeight : List (String × Json) → Nat
  | [] => 0
  | (_, j) :: rest => max (height j) (membersHeight rest)

end

mutual

/-- **A value with few brackets is taken whole.** -/
theorem Reading.whole_ofJson : (j : Json) → (depth : Nat) → height j < depth →
    (Reading.ofJson j).whole depth = .ok j
  | .null, _, _ | .bool _, _, _ | .num _, _, _ | .str _, _, _ => by
    simp only [Reading.ofJson, Reading.whole]
  | .arr items, depth, h => by
    rw [height] at h
    rw [Reading.ofJson, Reading.whole, if_neg (by omega),
      Reading.wholeItems_ofItems items (depth - 1) (by omega)]
    rfl
  | .obj members, depth, h => by
    rw [height] at h
    rw [Reading.ofJson, Reading.whole, if_neg (by omega),
      Reading.wholeMembers_ofMembers members (depth - 1) (by omega)]
    rfl

/-- Items with few brackets are taken whole, one after the other. -/
theorem Reading.wholeItems_ofItems :
    (items : List Json) → (depth : Nat) → itemsHeight items < depth →
    Reading.wholeItems depth (Reading.ofItems items) = .ok items
  | [], _, _ => by rw [Reading.ofItems, Reading.wholeItems]
  | j :: rest, depth, h => by
    rw [itemsHeight] at h
    rw [Reading.ofItems, Reading.wholeItems, Reading.whole_ofJson j depth (by omega),
      Reading.wholeItems_ofItems rest depth (by omega)]
    rfl

/-- Members with few brackets are taken whole, one after the other. -/
theorem Reading.wholeMembers_ofMembers : (members : List (String × Json)) → (depth : Nat) →
    membersHeight members < depth →
    Reading.wholeMembers depth (Reading.ofMembers members) = .ok members
  | [], _, _ => by rw [Reading.ofMembers, Reading.wholeMembers]
  | (key, j) :: rest, depth, h => by
    rw [membersHeight] at h
    rw [Reading.ofMembers, Reading.wholeMembers, Reading.whole_ofJson j depth (by omega),
      Reading.wholeMembers_ofMembers rest depth (by omega)]
    rfl

end

section

variable {κ : Type} {tag name : String} {kinds : List (String × κ)} {kind : κ}

/-- The members behind the one that names the kind are taken whole. -/
theorem collectTagged_ofMembers (decodeKind : Decoder κ) {depth : Nat} (found : Option κ)
    {members : List (String × Json)} (htag : tag ∉ members.map Prod.fst)
    (hdepth : membersHeight members < depth) :
    collectTagged tag decodeKind depth found (Reading.ofMembers members) =
      .ok (found, members) := by
  induction members with
  | nil => rw [Reading.ofMembers, collectTagged]
  | cons member rest ih =>
    obtain ⟨key, j⟩ := member
    rw [List.map_cons, List.mem_cons, not_or] at htag
    rw [membersHeight] at hdepth
    rw [Reading.ofMembers, collectTagged, if_neg (Ne.symm htag.1),
      Reading.whole_ofJson j depth (by omega)]
    dsimp only [bind, Except.bind]
    rw [ih htag.2 (by omega)]
    rfl

/-- **A kind is found under its name**, and the rest of the object behind it. -/
theorem Reading.tagged_ofJson {members : List (String × Json)}
    (hkind : kinds.lookup name = some kind) (htag : tag ∉ members.map Prod.fst) (numbered : Bool)
    {depth : Nat} (hdepth : membersHeight members < depth - 1) :
    (Reading.ofJson (.obj ((tag, .str name) :: members))).tagged tag (kindOf kinds numbered) depth =
      .ok (kind, Reading.ofJson (.obj members)) := by
  have hcollect := collectTagged_ofMembers (kindOf kinds numbered) (some kind) htag hdepth
  rw [Reading.ofJson, Reading.ofMembers, Reading.ofJson, Reading.tagged, collectTagged, if_pos rfl]
  simp only [kindOf, hkind, bind, Except.bind, Option.isSome_none, Bool.false_eq_true,
    if_false, hcollect]
  rfl

end

end TokenAudit.Json
