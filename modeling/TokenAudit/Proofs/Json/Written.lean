import Mathlib.Data.List.Basic
import TokenAudit.Json.Decoder
import TokenAudit.Proofs.Text.Numerals

/-! # JSON text read back

The text of a value reads as that value. A number has to be a whole one of 64 bits: what comes
behind a value is a comma or a closing bracket, or there is nothing more, so that the digits of a
number end where it ends. Every character of a text stands for itself or for its escape, and each
escape for one character.

* `IsExact` — values whose numbers are whole ones;
* `quoted_escape`, `value_quote` — texts;
* `number_decimal` — numbers;
* `IsRead`, `isRead_arr`, `isRead_obj` — what stands between brackets, if its parts are read;
* `value_compress` — a value and what follows it.

Main statement: `ofText_compress`, a whole text. -/

namespace TokenAudit.Json

/-- A value whose numbers are whole ones of 64 bits. -/
inductive IsExact : Json → Prop
  | null : IsExact .null
  | bool (b : Bool) : IsExact (.bool b)
  | nat {n : Nat} (h : n < UInt64.size) : IsExact (.num (.int n))
  | str (s : String) : IsExact (.str s)
  | arr {items : List Json} (h : ∀ j ∈ items, IsExact j) : IsExact (.arr items)
  | obj {members : List (String × Json)} (h : ∀ member ∈ members, IsExact member.2) :
    IsExact (.obj members)

/-- An object without members holds no number at all. -/
theorem IsExact.obj_nil : IsExact (.obj []) := .obj (List.forall_mem_nil _)

/-- One more member with such a value leaves an object such a value. -/
theorem IsExact.obj_cons {key : String} {j : Json} {members : List (String × Json)} (hj : IsExact j)
    (h : IsExact (.obj members)) : IsExact (.obj ((key, j) :: members)) := by
  cases h with
  | obj h => exact .obj (List.forall_mem_cons.2 ⟨hj, h⟩)

/-! ## Texts -/

/-- A hexadecimal digit takes one byte. -/
theorem digit_ascii : ∀ d < 16, (Hex.digit d).utf8Size = 1 := by decide

/-- Four digits behind an escape `\u` are the number of a control character. -/
theorem fourDigits_control {n : Nat} (h : n < 0x20) (rest : List Char) :
    fourDigits ('0' :: '0' :: Hex.digit (n / 16) :: Hex.digit (n % 16) :: rest) =
      .ok (n, rest) := by
  have hhigh : n / 16 < 16 := by omega
  have hlow : n % 16 < 16 := by omega
  have hzero : Hex.value? '0' = some 0 := by decide
  have hsize : (String.ofList ['0', '0', Hex.digit (n / 16), Hex.digit (n % 16)]).utf8ByteSize =
      4 := by
    simp only [String.ofList_cons, String.utf8ByteSize_append, String.utf8ByteSize_singleton,
      digit_ascii _ hhigh, digit_ascii _ hlow]
    rfl
  have hvalues : ['0', '0', Hex.digit (n / 16), Hex.digit (n % 16)].mapM Hex.value? =
      some [0, 0, n / 16, n % 16] := by
    simp [hzero, Hex.value?_digit _ hhigh, Hex.value?_digit _ hlow]
  have hnumber : ((0 * 16 + 0) * 16 + n / 16) * 16 + n % 16 = n := by omega
  simp only [fourDigits, List.take_succ_cons, List.take_zero, List.drop_succ_cons,
    List.drop_zero, hsize, Nat.lt_irrefl, if_false, hvalues, hnumber]

/-- An escape `\u` of a control character is read as that character. -/
theorem unicodeEscape_control {c : Char} (h : c.toNat < 0x20) (rest : List Char) :
    unicodeEscape ('0' :: '0' :: Hex.digit (c.toNat / 16) :: Hex.digit (c.toNat % 16) :: rest) =
      .char c rest := by
  have hlow : ¬ (0xDC00 ≤ c.toNat ∧ c.toNat ≤ 0xDFFF) := by omega
  have hhigh : ¬ (0xD800 ≤ c.toNat ∧ c.toNat ≤ 0xDBFF) := by omega
  rw [unicodeEscape, fourDigits_control h]
  dsimp only
  rw [if_neg hlow, if_neg hhigh, Char.ofNat_toNat]

/-- **A character is read from its escape.** -/
theorem quoted_escape (fuel : Nat) (read : List Char) (c : Char) (rest : List Char) :
    quoted (fuel + 1) read none (escape c ++ rest) = quoted fuel (c :: read) none rest := by
  unfold escape
  -- the seven characters with an escape of their own, the other control characters, and all others
  split
  case isTrue h => subst h; rfl
  case isFalse hquote =>
  split
  case isTrue h => subst h; rfl
  case isFalse hbackslash =>
  split
  case isTrue h => subst h; rfl
  case isFalse =>
  split
  case isTrue h => subst h; rfl
  case isFalse =>
  split
  case isTrue h => subst h; rfl
  case isFalse =>
  split
  case isTrue h => subst h; rfl
  case isFalse =>
  split
  case isTrue h => subst h; rfl
  case isFalse =>
  split
  case isTrue h => simp [quoted, unicodeEscape_control h]
  case isFalse h => simp [quoted, hquote, hbackslash, h]

/-- A text is read from its escapes up to the closing quote. -/
theorem quoted_escapes {fuel : Nat} (cs : List Char) (h : cs.length < fuel)
    (read rest : List Char) :
    quoted fuel read none (cs.flatMap escape ++ '"' :: rest) =
      (.str (String.ofList (read.reverse ++ cs)), rest) := by
  induction cs generalizing fuel read with
  | nil =>
    obtain ⟨fuel, rfl⟩ := Nat.exists_eq_succ_of_ne_zero (Nat.ne_of_gt h)
    simp [quoted]
  | cons c cs ih =>
    obtain ⟨fuel, rfl⟩ := Nat.exists_eq_succ_of_ne_zero (Nat.ne_of_gt (Nat.zero_lt_of_lt h))
    rw [List.flatMap_cons, List.append_assoc, quoted_escape, ih (Nat.lt_of_succ_lt_succ h)]
    simp

/-- An escape is not empty. -/
theorem one_le_length_escape (c : Char) : 1 ≤ (escape c).length := by
  unfold escape
  repeat' split
  all_goals exact Nat.succ_le_succ (Nat.zero_le _)

/-- Escapes make a text no shorter. -/
theorem length_le_length_escapes (cs : List Char) : cs.length ≤ (cs.flatMap escape).length := by
  induction cs with
  | nil => exact Nat.le_refl 0
  | cons c cs ih =>
    have hc := one_le_length_escape c
    rw [List.flatMap_cons, List.length_append, List.length_cons]
    omega

/-- The characters of a quotation are the escapes of the text, between quotes. -/
theorem toList_quote (s : String) :
    (quote s).toList = '"' :: (s.toList.flatMap escape ++ ['"']) := by
  rw [quote, String.toList_ofList, List.cons_append]

/-- **A text is read from its quotation**, whatever follows. -/
theorem value_quote {fuel : Nat} (s : String) (h : (quote s).toList.length ≤ fuel)
    (rest : List Char) : value fuel ((quote s).toList ++ rest) = (.str s, rest) := by
  rw [toList_quote] at h ⊢
  have hlength := length_le_length_escapes s.toList
  simp only [List.length_cons, List.length_append] at h
  obtain ⟨fuel, rfl⟩ :=
    Nat.exists_eq_succ_of_ne_zero (Nat.ne_of_gt (Nat.lt_of_lt_of_le (Nat.succ_pos _) h))
  have hfuel : s.toList.length < fuel := by omega
  have hread := quoted_escapes s.toList hfuel [] rest
  rw [List.reverse_nil, List.nil_append, String.ofList_toList] at hread
  rw [← hread, List.cons_append, List.append_assoc, List.singleton_append]
  rfl

/-! ## Numbers -/

/-- What may follow a value inside brackets, or the end of the text. -/
def Ends (rest : List Char) : Prop := ∀ c ∈ rest.head?, c = ',' ∨ c = ']' ∨ c = '}'

/-- Nothing at all may follow a value. -/
theorem ends_nil : Ends [] := by simp [Ends]

/-- A comma may follow a value. -/
theorem ends_comma (rest : List Char) : Ends (',' :: rest) := by simp [Ends]

/-- The bracket that closes an array may follow a value. -/
theorem ends_bracket (rest : List Char) : Ends (']' :: rest) := by simp [Ends]

/-- The brace that closes an object may follow a value. -/
theorem ends_brace (rest : List Char) : Ends ('}' :: rest) := by simp [Ends]

/-- A number does not go on with what may follow a value. -/
theorem Ends.stops {rest : List Char} (h : Ends rest) :
    rest.takeWhile isDigit = [] ∧ rest.dropWhile isDigit = rest ∧
      (rest.head?.any fun d => d == '.' || d == 'e' || d == 'E') = false := by
  cases rest with
  | nil => exact ⟨rfl, rfl, rfl⟩
  | cons c rest => rcases h c rfl with rfl | rfl | rfl <;> exact ⟨rfl, rfl, rfl⟩

/-- A decimal digit is taken into a number with its value. -/
theorem isDigit_of_digitOf? {c : Char} {d : Nat} (h : Numeral.digitOf? 10 c = some d) :
    isDigit c = true ∧ digitValue c = d := by
  rw [Numeral.digitOf?, Option.filter_eq_some_iff, decide_eq_true_iff, Numeral.digit?] at h
  obtain ⟨hvalue, hd⟩ := h
  split at hvalue
  case isTrue hc => exact ⟨by simpa [isDigit] using hc, Option.some.inj hvalue⟩
  -- the value of a letter is ten or more
  split at hvalue
  case isTrue hc =>
    have hletter : 97 ≤ c.toNat := UInt32.le_iff_toNat_le.1 hc.1
    cases hvalue
    omega
  split at hvalue
  case isTrue hc =>
    have hletter : 65 ≤ c.toNat := UInt32.le_iff_toNat_le.1 hc.1
    cases hvalue
    omega
  cases hvalue

/-- All that spells a number in base ten are decimal digits. -/
theorem isDigit_of_spells {cs : List Char} {n : Nat} (h : Numeral.Spells 10 cs n) :
    ∀ c ∈ cs, isDigit c = true := by
  obtain ⟨digits, -, hdigits, hcs, -⟩ := h
  intro c hc
  obtain ⟨d, hd, heq⟩ := List.mem_map.1 (hcs ▸ List.mem_map_of_mem hc)
  exact (isDigit_of_digitOf?
    ((Numeral.digitOf?_eq_some_iff (by decide)).2 ⟨hdigits d hd, heq.symm⟩)).1

/-- Digits that stand for a number below the limit are all taken into it. -/
theorem takeDigits_of_readFrom {acc n : Nat} {cs : List Char}
    (h : Numeral.readFrom 10 UInt64.size acc cs = .ok n) (count : Nat) :
    takeDigits acc count cs = (n, count + cs.length, []) := by
  induction cs generalizing acc count with
  | nil =>
    cases h
    rfl
  | cons c rest ih =>
    rw [Numeral.readFrom] at h
    split at h
    case h_1 => cases h
    case h_2 d hd =>
      split at h
      case isFalse => cases h
      case isTrue hfits =>
        obtain ⟨-, rfl⟩ := isDigit_of_digitOf? hd
        rw [takeDigits, if_pos hfits, ih h, List.length_cons, Nat.add_assoc, Nat.add_comm 1]

/-- A number whose digits begin with a zero is zero. -/
theorem eq_zero_of_decimal {n : Nat} {rest : List Char}
    (h : (Numeral.decimal n).toList = '0' :: rest) : n = 0 := by
  rw [Numeral.toList_decimal] at h
  induction n using Nat.strongRecOn generalizing rest with
  | ind n ih =>
    by_cases hn : n < 10
    · have hzero : ∀ d < 10, Nat.digitChar d = '0' → d = 0 := by decide
      rw [Nat.toDigits_of_lt_base hn] at h
      exact hzero n hn (List.cons.inj h).1
    · -- what is left without the last digit begins with the same one
      rw [Nat.toDigits_of_base_le (by decide) (Nat.not_lt.1 hn)] at h
      obtain ⟨c, front, hfront⟩ :=
        List.exists_cons_of_ne_nil (Nat.toDigits_ne_nil (n := n / 10) (b := 10))
      rw [hfront, List.cons_append] at h
      rw [(List.cons.inj h).1] at hfront
      have := ih (n / 10) (by omega) hfront
      omega

/-- A number in front of what may follow a value is read from its decimal digits. -/
theorem number_decimal {n : Nat} (h : n < UInt64.size) {rest : List Char} (hrest : Ends rest) :
    number false ((Numeral.decimal n).toList ++ rest) = (.num (.int n), rest) := by
  have hspells := Numeral.spells_decimal n
  have hread : Numeral.readFrom 10 UInt64.size 0 (Numeral.decimal n).toList = .ok n :=
    (Numeral.readFrom_zero_eq_ok_iff (by decide) (by decide) (by decide) hspells.ne_nil).2
      ⟨hspells, h⟩
  have htaken := takeDigits_of_readFrom hread 0
  have hdigits := isDigit_of_spells hspells
  obtain ⟨hnone, hall, hstops⟩ := hrest.stops
  -- the digits end where what may follow a value begins
  have htake : ((Numeral.decimal n).toList ++ rest).takeWhile isDigit =
      (Numeral.decimal n).toList := by
    rw [List.takeWhile_append_of_pos hdigits, hnone, List.append_nil]
  have hdrop : ((Numeral.decimal n).toList ++ rest).dropWhile isDigit = rest := by
    rw [List.dropWhile_append_of_pos hdigits, hall]
  obtain ⟨c, more, hcs⟩ := List.exists_cons_of_ne_nil hspells.ne_nil
  -- a number of several digits does not begin with a zero
  have hzero : ¬ (c = '0' ∧ 1 < (Numeral.decimal n).toList.length) := by
    rintro ⟨rfl, hlength⟩
    rw [eq_zero_of_decimal hcs] at hlength
    exact absurd hlength (by decide)
  have hc : isDigit c = true := hdigits c (hcs ▸ List.mem_cons_self)
  rw [hcs, List.cons_append] at htake hdrop ⊢
  rw [hcs] at hzero htaken
  rw [number]
  simp only [htake, hdrop, hc, hzero, htaken, hstops, if_false, Bool.not_true, Bool.false_eq_true,
    List.isEmpty_nil, Bool.or_false, Bool.not_false, if_true]

/-- There is nothing to skip before a character that is no blank. -/
theorem skip_cons {c : Char} (h : isSpace c = false) (rest : List Char) :
    skip (c :: rest) = c :: rest := by
  rw [skip, List.dropWhile_cons, h]
  rfl

/-- A decimal digit is none of the characters that are not. -/
theorem ne_of_isDigit {c : Char} (h : isDigit c = true) (d : Char) (hd : isDigit d = false) :
    c ≠ d := by
  rintro rfl
  exact Bool.false_ne_true (hd.symm.trans h)

/-- A decimal digit is no blank. -/
theorem isSpace_of_isDigit {c : Char} (h : isDigit c = true) : isSpace c = false := by
  have hne := ne_of_isDigit h
  simp [isSpace, hne ' ' rfl, hne '\n' rfl, hne '\t' rfl, hne '\r' rfl]

/-- A digit begins a number. -/
theorem value_of_isDigit {c : Char} (h : isDigit c = true) (fuel : Nat) (rest : List Char) :
    value (fuel + 1) (c :: rest) = number false (c :: rest) := by
  have hne := ne_of_isDigit h
  rw [value, skip_cons (isSpace_of_isDigit h)]
  dsimp only
  rw [if_neg (hne _ rfl), if_neg (hne _ rfl), if_neg (hne _ rfl), if_neg (hne _ rfl),
    if_neg (hne _ rfl), if_neg (hne _ rfl), if_neg (hne _ rfl), if_pos h]

/-- The first of the decimal digits of a number. -/
theorem exists_decimal_eq_cons (n : Nat) :
    ∃ c rest, (Numeral.decimal n).toList = c :: rest ∧ isDigit c = true := by
  have hspells := Numeral.spells_decimal n
  obtain ⟨c, rest, hcs⟩ := List.exists_cons_of_ne_nil hspells.ne_nil
  exact ⟨c, rest, hcs, isDigit_of_spells hspells c (hcs ▸ List.mem_cons_self)⟩

/-! ## Brackets -/

/-- The first character of a text is no blank and closes no bracket. -/
theorem compress_head {j : Json} (h : IsExact j) :
    ∃ c rest, j.compress.toList = c :: rest ∧ isSpace c = false ∧ c ≠ ']' := by
  cases h with
  | null => exact ⟨'n', ['u', 'l', 'l'], by rw [compress]; rfl, rfl, by decide⟩
  | bool b =>
    cases b with
    | false => exact ⟨'f', ['a', 'l', 's', 'e'], by rw [compress]; rfl, rfl, by decide⟩
    | true => exact ⟨'t', ['r', 'u', 'e'], by rw [compress]; rfl, rfl, by decide⟩
  | nat =>
    obtain ⟨c, rest, hcs, hc⟩ := exists_decimal_eq_cons _
    exact ⟨c, rest, by rw [compress]; exact hcs, isSpace_of_isDigit hc, ne_of_isDigit hc _ rfl⟩
  | str s => exact ⟨'"', _, by rw [compress, toList_quote], rfl, by decide⟩
  | arr =>
    exact ⟨'[', _, by rw [compress, String.toList_append, String.toList_append]; rfl,
      rfl, by decide⟩
  | obj =>
    exact ⟨'{', _, by rw [compress, String.toList_append, String.toList_append]; rfl,
      rfl, by decide⟩

/-- Texts with commas between them: the first one, and the others with a comma each. -/
theorem toList_intercalate_cons (text : String) (texts : List String) :
    (",".intercalate (text :: texts)).toList =
      text.toList ++ texts.flatMap fun t => ',' :: t.toList := by
  rw [String.toList_intercalate, List.map_cons]
  induction texts generalizing text with
  | nil => simp
  | cons next rest ih =>
    rw [List.map_cons, List.intercalate_cons_cons, ih next, List.flatMap_cons, List.append_assoc]
    rfl

/-- A whole value says nothing about where an array goes on. -/
theorem resume_ofJson (read : List Reading) (j : Json) (rest : List Char) :
    resume read (Reading.ofJson j) rest = rest := by
  cases j <;> rfl

/-- A value is read from its text, with whatever may follow it. -/
def IsRead (j : Json) : Prop :=
  ∀ fuel rest, 2 * j.compress.toList.length ≤ fuel → Ends rest →
    value fuel (j.compress.toList ++ rest) = (Reading.ofJson j, rest)

/-- The text of items with a comma before each. -/
def laterItems (items : List Json) : List Char := items.flatMap fun j => ',' :: j.compress.toList

/-- The text of members with a comma before each. -/
def laterMembers (members : List (String × Json)) : List Char :=
  members.flatMap fun member => ',' :: ((quote member.1).toList ++ ':' :: member.2.compress.toList)

/-- What follows an item of an array may follow a value. -/
theorem ends_laterItems (items : List Json) (rest : List Char) :
    Ends (laterItems items ++ ']' :: rest) := by
  cases items with
  | nil => exact ends_bracket rest
  | cons j items => exact ends_comma _

/-- What follows a member of an object may follow a value. -/
theorem ends_laterMembers (members : List (String × Json)) (rest : List Char) :
    Ends (laterMembers members ++ '}' :: rest) := by
  cases members with
  | nil => exact ends_brace rest
  | cons member members => exact ends_comma _

/-- Behind a comma stands one more item. -/
theorem items_comma {fuel : Nat} {read : List Reading} {c : Char} {rest after : List Char}
    {item : Reading} (hspace : isSpace c = false) (hbracket : c ≠ ']')
    (h : value fuel (c :: rest) = (item, after)) :
    items (fuel + 1) false read (',' :: c :: rest) =
      items fuel false (item :: read) (resume read item after) := by
  rw [items, skip_cons rfl]
  dsimp only
  rw [if_neg (by decide), if_neg (by decide), if_pos rfl, skip_cons hspace]
  split
  case h_1 heq => exact absurd (List.cons.inj heq).1 hbracket
  case h_2 => rw [h]

/-- The items of an array after the first one are read up to the bracket. -/
theorem items_later {fuel : Nat} {later : List Json} (hread : ∀ j ∈ later, IsRead j)
    (hexact : ∀ j ∈ later, IsExact j) (hfuel : 2 * (laterItems later).length < fuel)
    (read : List Reading) (rest : List Char) :
    items fuel false read (laterItems later ++ ']' :: rest) =
      (.arr (read.reverse ++ Reading.ofItems later) none, rest) := by
  induction later generalizing fuel read with
  | nil =>
    obtain ⟨fuel, rfl⟩ := Nat.exists_eq_succ_of_ne_zero (Nat.ne_of_gt (Nat.zero_lt_of_lt hfuel))
    rw [laterItems, List.flatMap_nil, List.nil_append, items, skip_cons rfl, Reading.ofItems,
      List.append_nil]
    rfl
  | cons j later ih =>
    rw [List.forall_mem_cons] at hread hexact
    -- one step goes to the comma, and the item has twice its own length for itself
    have htext : laterItems (j :: later) = ',' :: (j.compress.toList ++ laterItems later) := rfl
    rw [htext, List.length_cons, List.length_append] at hfuel
    obtain ⟨fuel, rfl⟩ := Nat.exists_eq_succ_of_ne_zero (Nat.ne_of_gt (Nat.zero_lt_of_lt hfuel))
    obtain ⟨c, more, hc, hspace, hbracket⟩ := compress_head hexact.1
    have hvalue :=
      hread.1 fuel (laterItems later ++ ']' :: rest) (by omega) (ends_laterItems later rest)
    have hlater := ih hread.2 hexact.2 (show 2 * (laterItems later).length < fuel by omega)
      (Reading.ofJson j :: read)
    rw [hc, List.cons_append] at hvalue
    rw [htext, List.cons_append, List.append_assoc, hc, List.cons_append,
      items_comma hspace hbracket hvalue, resume_ofJson, hlater, List.reverse_cons,
      List.append_assoc, Reading.ofItems]
    rfl

/-- Each item of an array is written by itself. -/
theorem compressItems_eq_map (list : List Json) : compressItems list = list.map compress := by
  induction list with
  | nil => rfl
  | cons j rest ih => rw [compressItems, ih, List.map_cons]

/-- The text of an array without items. -/
theorem toList_arr_nil : (Json.arr []).compress.toList = ['[', ']'] := rfl

/-- The text of an array with items: the first one, and a comma before each of the others. -/
theorem toList_arr_cons (j : Json) (later : List Json) :
    (Json.arr (j :: later)).compress.toList =
      '[' :: (j.compress.toList ++ (laterItems later ++ [']'])) := by
  rw [compress, compressItems, compressItems_eq_map, String.toList_append, String.toList_append,
    toList_intercalate_cons, List.flatMap_map, List.append_assoc, List.append_assoc]
  rfl

/-- **An array is read from its text**, if its items are. -/
theorem isRead_arr {list : List Json} (hread : ∀ j ∈ list, IsRead j)
    (hexact : ∀ j ∈ list, IsExact j) : IsRead (.arr list) := by
  intro fuel rest hfuel hrest
  cases list with
  | nil =>
    rw [toList_arr_nil] at hfuel ⊢
    obtain ⟨fuel, rfl⟩ :=
      Nat.exists_eq_add_of_le' (show 2 ≤ fuel from Nat.le_trans (by decide) hfuel)
    rfl
  | cons j later =>
    rw [List.forall_mem_cons] at hread hexact
    rw [toList_arr_cons] at hfuel ⊢
    simp only [List.length_cons, List.length_append, List.length_nil] at hfuel
    -- one unit of fuel opens the array, and one more the first item
    obtain ⟨fuel, rfl⟩ := Nat.exists_eq_add_of_le' (show 2 ≤ fuel by omega)
    obtain ⟨c, more, hc, hspace, hbracket⟩ := compress_head hexact.1
    have hvalue :=
      hread.1 fuel (laterItems later ++ ']' :: rest) (by omega) (ends_laterItems later rest)
    have hlater := items_later hread.2 hexact.2 (show 2 * (laterItems later).length < fuel by omega)
      [Reading.ofJson j] rest
    have htext : '[' :: (j.compress.toList ++ (laterItems later ++ [']'])) ++ rest =
        '[' :: (j.compress.toList ++ (laterItems later ++ ']' :: rest)) := by simp
    rw [htext, value, skip_cons rfl]
    rw [hc, List.cons_append] at hvalue ⊢
    dsimp only
    rw [if_neg (by decide), if_pos rfl, items, skip_cons hspace]
    dsimp only
    rw [if_neg hbracket, if_pos rfl, hvalue]
    exact hlater

/-! ### Objects -/

/-- A member is read from its key and its value. -/
theorem member_compress {fuel : Nat} {key : String} {j : Json} (hread : IsRead j)
    (hfuel : 2 * ((quote key).toList.length + j.compress.toList.length) ≤ fuel)
    (read : List (Reading × Reading)) {rest : List Char} (hrest : Ends rest) :
    member (fuel + 1) read ((quote key).toList ++ ':' :: (j.compress.toList ++ rest)) =
      members fuel false ((.str key, Reading.ofJson j) :: read) rest := by
  have hkey : (quote key).toList.length ≤ fuel := by omega
  have hvalue := hread fuel rest (by omega) hrest
  simp only [member, value_quote key hkey, Reading.isText, if_true,
    skip_cons (show isSpace ':' = false from rfl), hvalue]

/-- The members of an object after the first one are read up to the bracket. -/
theorem members_later {fuel : Nat} {later : List (String × Json)}
    (hread : ∀ member ∈ later, IsRead member.2) (hfuel : 2 * (laterMembers later).length < fuel)
    (read : List (Reading × Reading)) (rest : List Char) :
    members fuel false read (laterMembers later ++ '}' :: rest) =
      (.obj (read.reverse ++ Reading.ofMembers later) none, rest) := by
  induction later generalizing fuel read with
  | nil =>
    obtain ⟨fuel, rfl⟩ := Nat.exists_eq_succ_of_ne_zero (Nat.ne_of_gt (Nat.zero_lt_of_lt hfuel))
    rw [laterMembers, List.flatMap_nil, List.nil_append, members, skip_cons rfl, Reading.ofMembers,
      List.append_nil]
    rfl
  | cons entry later ih =>
    obtain ⟨key, j⟩ := entry
    rw [List.forall_mem_cons] at hread
    -- one step goes to the comma, one to the key, and both texts have twice their length for
    -- themselves
    have htext : laterMembers ((key, j) :: later) =
        ',' :: ((quote key).toList ++ ':' :: j.compress.toList) ++ laterMembers later := rfl
    rw [htext] at hfuel ⊢
    simp only [List.length_cons, List.length_append] at hfuel
    obtain ⟨fuel, rfl⟩ := Nat.exists_eq_add_of_le' (show 2 ≤ fuel by omega)
    have hfits : 2 * ((quote key).toList.length + j.compress.toList.length) ≤ fuel := by omega
    have hmember := member_compress hread.1 hfits read (ends_laterMembers later rest)
    have hlater := ih hread.2 (show 2 * (laterMembers later).length < fuel by omega)
      ((.str key, Reading.ofJson j) :: read)
    have hquote :
        skip ((quote key).toList ++ ':' ::
          (j.compress.toList ++ (laterMembers later ++ '}' :: rest))) =
        (quote key).toList ++ ':' ::
          (j.compress.toList ++ (laterMembers later ++ '}' :: rest)) := by
      rw [toList_quote]
      exact skip_cons rfl _
    rw [List.cons_append, List.cons_append, List.append_assoc, List.append_assoc, List.cons_append,
      members, skip_cons rfl]
    dsimp only
    rw [if_neg (by decide), if_neg (by decide), if_pos rfl, hquote, hmember, hlater,
      List.reverse_cons, List.append_assoc, Reading.ofMembers]
    rfl

/-- Each member of an object is written as its key, a colon and its value. -/
theorem compressMembers_eq_map (list : List (String × Json)) :
    compressMembers list = list.map fun member => quote member.1 ++ ":" ++ member.2.compress := by
  induction list with
  | nil => rfl
  | cons entry rest ih => rw [compressMembers, ih, List.map_cons]

/-- The text of an object without members. -/
theorem toList_obj_nil : (Json.obj []).compress.toList = ['{', '}'] := rfl

/-- The text of an object with members: the first one, and a comma before each of the others. -/
theorem toList_obj_cons (key : String) (j : Json) (later : List (String × Json)) :
    (Json.obj ((key, j) :: later)).compress.toList =
      '{' :: ((quote key).toList ++ ':' ::
        (j.compress.toList ++ (laterMembers later ++ ['}']))) := by
  have hmember : ∀ key (j : Json), (quote key ++ ":" ++ j.compress).toList =
      (quote key).toList ++ ':' :: j.compress.toList := by
    intro key j
    rw [String.toList_append, String.toList_append, List.append_assoc]
    rfl
  rw [compress, compressMembers, compressMembers_eq_map, String.toList_append, String.toList_append,
    toList_intercalate_cons, List.flatMap_map, hmember]
  simp only [hmember, laterMembers, List.append_assoc, List.cons_append]
  rfl

/-- **An object is read from its text**, if the values of its members are. -/
theorem isRead_obj {list : List (String × Json)} (hread : ∀ member ∈ list, IsRead member.2) :
    IsRead (.obj list) := by
  intro fuel rest hfuel hrest
  cases list with
  | nil =>
    rw [toList_obj_nil] at hfuel ⊢
    obtain ⟨fuel, rfl⟩ :=
      Nat.exists_eq_add_of_le' (show 2 ≤ fuel from Nat.le_trans (by decide) hfuel)
    rfl
  | cons entry later =>
    obtain ⟨key, j⟩ := entry
    rw [List.forall_mem_cons] at hread
    rw [toList_obj_cons] at hfuel ⊢
    simp only [List.length_cons, List.length_append, List.length_nil] at hfuel
    -- the fuel opens the object, its first member and the value in it
    obtain ⟨fuel, rfl⟩ := Nat.exists_eq_add_of_le' (show 3 ≤ fuel by omega)
    have hfits : 2 * ((quote key).toList.length + j.compress.toList.length) ≤ fuel := by omega
    have hmember := member_compress hread.1 hfits [] (ends_laterMembers later rest)
    have hlater := members_later hread.2 (show 2 * (laterMembers later).length < fuel by omega)
      [(.str key, Reading.ofJson j)] rest
    have htext :
        '{' :: ((quote key).toList ++ ':' ::
          (j.compress.toList ++ (laterMembers later ++ ['}']))) ++ rest =
        '{' :: ((quote key).toList ++ ':' ::
          (j.compress.toList ++ (laterMembers later ++ '}' :: rest))) := by simp
    rw [htext, value, skip_cons rfl]
    dsimp only
    rw [if_neg (by decide), if_neg (by decide), if_pos rfl]
    rw [toList_quote] at hmember ⊢
    rw [members, List.cons_append, skip_cons rfl]
    dsimp only
    rw [if_neg (by decide), if_pos rfl]
    exact hmember.trans hlater

/-! ## Values -/

/-- **A value is read from its text**, whatever may follow it. -/
theorem value_compress {j : Json} (h : IsExact j) : IsRead j := by
  -- arrays and objects by what was read of their parts, on less fuel
  induction h with
  | null =>
    intro fuel rest hfuel _
    obtain ⟨fuel, rfl⟩ :=
      Nat.exists_eq_add_of_le' (show 1 ≤ fuel from Nat.le_trans (by decide) hfuel)
    rfl
  | bool b =>
    intro fuel rest hfuel _
    obtain ⟨fuel, rfl⟩ :=
      Nat.exists_eq_add_of_le' (show 1 ≤ fuel from Nat.le_trans (by cases b <;> decide) hfuel)
    cases b <;> rfl
  | @nat n hn =>
    intro fuel rest hfuel hrest
    obtain ⟨c, more, hcs, hc⟩ := exists_decimal_eq_cons n
    have hnumber := number_decimal hn hrest
    have htext : (Json.num (.int n)).compress.toList = (Numeral.decimal n).toList := by
      rw [compress]
      rfl
    rw [htext, hcs] at hfuel
    rw [htext]
    rw [hcs, List.cons_append] at hnumber ⊢
    obtain ⟨fuel, rfl⟩ :=
      Nat.exists_eq_add_of_le' (show 1 ≤ fuel from Nat.le_trans (Nat.le_add_left 1 _) hfuel)
    exact (value_of_isDigit hc fuel _).trans hnumber
  | str s =>
    intro fuel rest hfuel _
    rw [compress] at hfuel ⊢
    exact value_quote s (by omega) rest
  | arr hexact ih => exact isRead_arr ih hexact
  | obj _ ih => exact isRead_obj ih

/-- **A whole text is read as the value that it is the text of.** -/
theorem ofText_compress {j : Json} (h : IsExact j) :
    Document.ofText j.compress = Document.ofJson j := by
  have hread :=
    value_compress h (2 * j.compress.toList.length + 2) [] (Nat.le_add_right ..) ends_nil
  rw [List.append_nil] at hread
  rw [Document.ofText, readText, hread]
  rfl

end TokenAudit.Json
