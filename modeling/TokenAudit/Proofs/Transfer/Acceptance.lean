import TokenAudit.Proofs.Transfer.Decoding

/-! # Logs that are taken for transfers

A log is taken for a transfer if it has three topics, of which the second and the third are words of
32 bytes, and data that spell at least one byte. Data of fewer bytes than a word has are not
refused: the amount is then the number that these bytes spell, as if zeros stood before them.

* `Log.Tells` — which transfer a log tells of, and `Log.Flawed`, what is wrong with a log that tells
  of none;
* `Log.NamesAccounts`, `Log.HoldsWord`, `Log.IsCutShort` — what there is in the topics and in the
  data;
* `Transfer.bytesOf?_eq_some_iff`, `Transfer.accountOf?_eq_some_iff` — what is read is what is
  spelled.

Main statement: `ofLog_accepts`, and `ofLog_accepts_cutShort` for data that are cut short. -/

namespace TokenAudit

open Hex (Spelled)

namespace Hex

variable {text : String} {bytes : List UInt8}

/-- A text is made of a mark or none, and what is left without it. -/
theorem exists_mark (cs : List Char) :
    ∃ mark ∈ ["", "0x", "0X"], cs = mark.toList ++ withoutMark cs := by
  fun_cases withoutMark cs with
  | case1 rest => exact ⟨"0x", by simp, rfl⟩
  | case2 rest => exact ⟨"0X", by simp, rfl⟩
  | case3 => exact ⟨"", by simp, rfl⟩

/-- A text is a spelling of some bytes just if its digits are, without a mark. -/
theorem spelled_iff :
    Spelled text bytes ↔ (Hex.withoutMark text.toList).map Char.toLower = encode bytes := by
  refine ⟨Spelled.withoutMark, fun h => ?_⟩
  obtain ⟨mark, hmark, htext⟩ := exists_mark text.toList
  exact ⟨mark, hmark, _, htext, h⟩

/-- A text without digits spells no bytes, and no other text does. -/
theorem spelled_nil_iff : Spelled text [] ↔ Hex.withoutMark text.toList = [] := by
  rw [spelled_iff, encode, List.map_eq_nil_iff]

end Hex

namespace Transfer

variable {text topic : String} {bytes : List UInt8} {a : Address}

/-! ## What is read from a text -/

/-- **Bytes are read from their spellings alone.** -/
theorem bytesOf?_eq_some_iff : bytesOf? text = some bytes ↔ Spelled text bytes := by
  rw [bytesOf?, Hex.decode?_eq_some_iff, Hex.spelled_iff]

/-- No bytes are read from a text exactly if it spells none. -/
theorem bytesOf?_eq_none_iff : bytesOf? text = none ↔ ∀ bytes, ¬ Spelled text bytes := by
  simp only [← bytesOf?_eq_some_iff, Option.eq_none_iff_forall_ne_some]

/-- Whether a topic is a word of 32 bytes. -/
def IsWord (topic : String) : Prop := ∃ word : List UInt8, word.length = 32 ∧ Spelled topic word

/-- Whether a topic is a word of 32 bytes of which the last ones are those of an account. -/
def NamesAccount (topic : String) (a : Address) : Prop :=
  ∃ padding : List UInt8, padding.length = 12 ∧ Spelled topic (padding ++ a.bytes)

/-- **An account is read from the words that name it**, and from nothing else. -/
theorem accountOf?_eq_some_iff : accountOf? topic = some a ↔ NamesAccount topic a := by
  constructor
  · intro h
    rw [accountOf?] at h
    split at h
    case h_2 => cases h
    case h_1 word hword =>
      obtain ⟨hlength, hrest⟩ := Option.ite_none_right_eq_some.1 h
      cases hrest
      -- the account has the last twenty bytes of the word
      have hbytes : (Address.ofWord (word.drop 12)).bytes = word.drop 12 := by
        have hdrop : (word.drop 12).length = 20 := by rw [List.length_drop, hlength]
        have hlt : Hex.bigEndian (word.drop 12) < 1 <<< 160 := by
          have hlt := Hex.bigEndian_lt (word.drop 12)
          rwa [hdrop] at hlt
        show Hex.bigEndianBytes 20 (Hex.bigEndian (word.drop 12) % 1 <<< 160) = word.drop 12
        rw [Nat.mod_eq_of_lt hlt, Hex.bigEndianBytes_bigEndian hdrop]
      refine ⟨word.take 12, by rw [List.length_take, hlength]; rfl, ?_⟩
      rw [hbytes, List.take_append_drop]
      exact bytesOf?_eq_some_iff.1 hword
  · rintro ⟨padding, hpadding, hspelled⟩
    exact accountOf?_of_spelled hpadding hspelled

/-- An account is read from every word. -/
theorem isWord_iff : IsWord topic ↔ ∃ a, accountOf? topic = some a := by
  constructor
  · rintro ⟨word, hlength, hspelled⟩
    rw [accountOf?, bytesOf?_eq_some_iff.2 hspelled]
    exact ⟨_, if_pos hlength⟩
  · rintro ⟨a, h⟩
    obtain ⟨padding, hpadding, hspelled⟩ := accountOf?_eq_some_iff.1 h
    exact ⟨_, by rw [List.length_append, hpadding, Address.bytes, Hex.length_bigEndianBytes],
      hspelled⟩

/-- A topic that is no word holds no account. -/
theorem accountOf?_eq_none (h : ¬ IsWord topic) : accountOf? topic = none := by
  rw [isWord_iff] at h
  exact Option.eq_none_iff_forall_ne_some.2 fun a ha => h ⟨a, ha⟩

end Transfer

open Transfer (IsWord NamesAccount ofLog)

namespace Log

/-! ## What a log says -/

/-- Whether the second and the third topic of a log are words of 32 bytes. -/
def NamesAccounts (log : Log) : Prop :=
  ∃ event first second further, log.topics = event :: first :: second :: further ∧
    IsWord first ∧ IsWord second

/-- Whether the data of a log hold the word of an amount, and perhaps more. -/
def HoldsWord (log : Log) : Prop := ∃ bytes : List UInt8, 32 ≤ bytes.length ∧ Spelled log.data bytes

/-- Whether the data of a log hold something, but less than a word. -/
def IsCutShort (log : Log) : Prop :=
  ∃ bytes : List UInt8, 0 < bytes.length ∧ bytes.length < 32 ∧ Spelled log.data bytes

/-- The transfer that a log tells of: the accounts are in the second and the third topic, and the
amount is spelled by the first 32 bytes of the data, or by as many as there are. -/
inductive Tells (log : Log) : Transfer → Prop
  | told {event first second : String} {further : List String} {sender recipient : Address}
    {bytes : List UInt8} (htopics : log.topics = event :: first :: second :: further)
    (hsender : NamesAccount first sender) (hrecipient : NamesAccount second recipient)
    (hdata : Spelled log.data bytes) (hbytes : bytes ≠ []) :
    Tells log ⟨sender, recipient, Hex.bigEndian (bytes.take 32)⟩

/-- What is wrong with a log that tells of no transfer. Of several things the first one counts. -/
inductive Flawed (log : Log) : Malformed → Prop
  | missingTopics (h : log.topics.length < 3) : Flawed log (.missingTopics log.topics.length)
  | firstTopic {event first second : String} {further : List String}
    (htopics : log.topics = event :: first :: second :: further) (h : ¬ IsWord first) :
    Flawed log (.badTopic 1)
  | secondTopic {event first second : String} {further : List String}
    (htopics : log.topics = event :: first :: second :: further) (hfirst : IsWord first)
    (h : ¬ IsWord second) : Flawed log (.badTopic 2)
  | emptyData (haccounts : log.NamesAccounts) (h : Spelled log.data []) : Flawed log .emptyData
  | badData (haccounts : log.NamesAccounts) (h : ∀ bytes, ¬ Spelled log.data bytes) :
    Flawed log .badData

variable {log : Log} {t : Transfer} {reason : Malformed}

/-- A log tells of a transfer, or something is wrong with it. -/
theorem tells_or_flawed (log : Log) : (∃ t, log.Tells t) ∨ ∃ reason, log.Flawed reason := by
  rcases htopics : log.topics with _ | ⟨event, _ | ⟨first, _ | ⟨second, further⟩⟩⟩
  case cons.cons.cons =>
    by_cases hfirst : IsWord first
    case neg => exact Or.inr ⟨_, .firstTopic htopics hfirst⟩
    by_cases hsecond : IsWord second
    case neg => exact Or.inr ⟨_, .secondTopic htopics hfirst hsecond⟩
    have haccounts : log.NamesAccounts := ⟨event, first, second, further, htopics, hfirst, hsecond⟩
    by_cases hspelled : ∃ bytes, Spelled log.data bytes
    case neg => exact Or.inr ⟨_, .badData haccounts (not_exists.1 hspelled)⟩
    obtain ⟨bytes, hdata⟩ := hspelled
    by_cases hbytes : bytes = []
    · subst hbytes
      exact Or.inr ⟨_, .emptyData haccounts hdata⟩
    · obtain ⟨sender, hsender⟩ := Transfer.isWord_iff.1 hfirst
      obtain ⟨recipient, hrecipient⟩ := Transfer.isWord_iff.1 hsecond
      exact Or.inl ⟨_, .told htopics (Transfer.accountOf?_eq_some_iff.1 hsender)
        (Transfer.accountOf?_eq_some_iff.1 hrecipient) hdata hbytes⟩
  all_goals exact Or.inr ⟨_, .missingTopics (by rw [htopics]; simp)⟩

/-- What a log tells of is read from it. -/
theorem Tells.ofLog_eq (h : log.Tells t) : ofLog log = .ok t := by
  obtain ⟨htopics, hsender, hrecipient, hdata, hbytes⟩ := h
  have hfull : (Hex.withoutMark log.data.toList).isEmpty = false := by
    refine Bool.eq_false_iff.2 fun hempty => hbytes ?_
    have hnone := Hex.spelled_nil_iff.2 (List.isEmpty_iff.1 hempty)
    rw [← Transfer.bytesOf?_eq_some_iff] at hnone hdata
    rw [hnone] at hdata
    exact (Option.some.inj hdata).symm
  rw [ofLog, htopics]
  dsimp only
  rw [Transfer.accountOf?_eq_some_iff.2 hsender, Transfer.accountOf?_eq_some_iff.2 hrecipient,
    Transfer.bytesOf?_eq_some_iff.2 hdata]
  dsimp only
  rw [hfull]
  rfl

/-- A log in which accounts are named is read as far as its data. -/
theorem NamesAccounts.exists_ofLog_eq (h : log.NamesAccounts) : ∃ sender recipient,
    ofLog log = if (Hex.withoutMark log.data.toList).isEmpty then .error .emptyData
      else (Transfer.bytesOf? log.data).elim (.error .badData) fun bytes =>
        .ok ⟨sender, recipient, Hex.bigEndian (bytes.take 32)⟩ := by
  obtain ⟨event, first, second, further, htopics, hfirst, hsecond⟩ := h
  obtain ⟨sender, hsender⟩ := Transfer.isWord_iff.1 hfirst
  obtain ⟨recipient, hrecipient⟩ := Transfer.isWord_iff.1 hsecond
  refine ⟨sender, recipient, ?_⟩
  rw [ofLog, htopics]
  dsimp only
  rw [hsender, hrecipient]
  dsimp only
  cases Transfer.bytesOf? log.data <;> rfl

/-- What is wrong with a log is what it is refused for. -/
theorem Flawed.ofLog_eq (h : log.Flawed reason) : ofLog log = .error reason := by
  -- in the order in which a reading comes across the flaws
  cases h with
  | missingTopics h =>
    rcases htopics : log.topics with _ | ⟨event, _ | ⟨first, _ | ⟨second, further⟩⟩⟩
    case cons.cons.cons =>
      rw [htopics] at h
      simp only [List.length_cons] at h
      omega
    all_goals rw [ofLog, htopics]
  | firstTopic htopics h =>
    rw [ofLog, htopics]
    dsimp only
    rw [Transfer.accountOf?_eq_none h]
  | secondTopic htopics hfirst h =>
    obtain ⟨sender, hsender⟩ := Transfer.isWord_iff.1 hfirst
    rw [ofLog, htopics]
    dsimp only
    rw [hsender, Transfer.accountOf?_eq_none h]
  | emptyData haccounts h =>
    obtain ⟨sender, recipient, heq⟩ := haccounts.exists_ofLog_eq
    rw [heq, Hex.spelled_nil_iff.1 h]
    rfl
  | badData haccounts h =>
    obtain ⟨sender, recipient, heq⟩ := haccounts.exists_ofLog_eq
    have hfull : ¬ (Hex.withoutMark log.data.toList).isEmpty = true :=
      fun hempty => h [] (Hex.spelled_nil_iff.2 (List.isEmpty_iff.1 hempty))
    rw [heq, if_neg hfull, Transfer.bytesOf?_eq_none_iff.2 h, Option.elim_none]

/-- A log that tells of a transfer names accounts and has data. -/
theorem exists_tells_iff :
    (∃ t, log.Tells t) ↔ log.NamesAccounts ∧ ∃ bytes, bytes ≠ [] ∧ Spelled log.data bytes := by
  constructor
  · rintro ⟨t, ⟨htopics, hsender, hrecipient, hdata, hbytes⟩⟩
    refine ⟨⟨_, _, _, _, htopics, ?_, ?_⟩, _, hbytes, hdata⟩
    · exact Transfer.isWord_iff.2 ⟨_, Transfer.accountOf?_eq_some_iff.2 hsender⟩
    · exact Transfer.isWord_iff.2 ⟨_, Transfer.accountOf?_eq_some_iff.2 hrecipient⟩
  · rintro ⟨⟨event, first, second, further, htopics, hfirst, hsecond⟩, bytes, hbytes, hdata⟩
    obtain ⟨sender, hsender⟩ := Transfer.isWord_iff.1 hfirst
    obtain ⟨recipient, hrecipient⟩ := Transfer.isWord_iff.1 hsecond
    exact ⟨_, .told htopics (Transfer.accountOf?_eq_some_iff.1 hsender)
      (Transfer.accountOf?_eq_some_iff.1 hrecipient) hdata hbytes⟩

/-- Data that are cut short hold no word. -/
theorem not_holdsWord_of_isCutShort (h : log.IsCutShort) : ¬ log.HoldsWord := by
  obtain ⟨bytes, -, hshort, hdata⟩ := h
  rintro ⟨bytes', hlong, hdata'⟩
  rw [← Transfer.bytesOf?_eq_some_iff] at hdata hdata'
  rw [hdata, Option.some.injEq] at hdata'
  subst hdata'
  omega

end Log

open Log

/-- **Which logs are taken for transfers.** A log is read as the transfer that it tells of, and is
refused for what is wrong with it. It is taken for a transfer just if it names two accounts and has
data that spell some bytes. That the data have to hold a whole word is a right description of this
except for the logs that name two accounts and whose data are cut short. -/
theorem ofLog_accepts (log : Log) :
    (∀ t, ofLog log = .ok t ↔ log.Tells t) ∧
    (∀ reason, ofLog log = .error reason ↔ log.Flawed reason) ∧
    ((∃ t, ofLog log = .ok t) ↔ log.NamesAccounts ∧ ∃ bytes, bytes ≠ [] ∧ Spelled log.data bytes) ∧
    (((∃ t, ofLog log = .ok t) ↔ log.NamesAccounts ∧ log.HoldsWord) ↔
      ¬ (log.NamesAccounts ∧ log.IsCutShort)) := by
  -- a log tells of a transfer or is flawed, so no third outcome is left
  have hok : ∀ t, ofLog log = .ok t ↔ log.Tells t := by
    refine fun t => ⟨fun h => ?_, Tells.ofLog_eq⟩
    rcases log.tells_or_flawed with ⟨t', htells⟩ | ⟨reason, hflawed⟩
    · rw [htells.ofLog_eq] at h
      cases h
      exact htells
    · rw [hflawed.ofLog_eq] at h
      cases h
  have herror : ∀ reason, ofLog log = .error reason ↔ log.Flawed reason := by
    refine fun reason => ⟨fun h => ?_, Flawed.ofLog_eq⟩
    rcases log.tells_or_flawed with ⟨t, htells⟩ | ⟨reason', hflawed⟩
    · rw [htells.ofLog_eq] at h
      cases h
    · rw [hflawed.ofLog_eq] at h
      cases h
      exact hflawed
  have haccepts : (∃ t, ofLog log = .ok t) ↔
      log.NamesAccounts ∧ ∃ bytes, bytes ≠ [] ∧ Spelled log.data bytes :=
    (exists_congr hok).trans exists_tells_iff
  refine ⟨hok, herror, haccepts, ?_⟩
  rw [haccepts]
  constructor
  · -- data that are cut short are accepted, though they hold no word
    rintro h ⟨haccounts, hcut⟩
    have hno := not_holdsWord_of_isCutShort hcut
    obtain ⟨bytes, hpos, -, hdata⟩ := hcut
    exact hno (h.1 ⟨haccounts, bytes, List.ne_nil_of_length_pos hpos, hdata⟩).2
  · -- if none are, all data that are accepted begin with a word
    intro hnot
    refine and_congr_right fun haccounts => ⟨?_, ?_⟩
    · rintro ⟨bytes, hbytes, hdata⟩
      rcases Nat.lt_or_ge bytes.length 32 with hshort | hlong
      · exact absurd ⟨haccounts, bytes, List.length_pos_iff.2 hbytes, hshort, hdata⟩ hnot
      · exact ⟨bytes, hlong, hdata⟩
    · rintro ⟨bytes, hlong, hdata⟩
      exact ⟨bytes, List.ne_nil_of_length_pos (by omega), hdata⟩

/-- A log whose data are one byte instead of a word. -/
def cutShortLog : Log where
  topics :=
    ["", "0x0000000000000000000000000101010101010101010101010101010101010101",
      "0x0000000000000000000000000202020202020202020202020202020202020202"]
  data := "0x01"
  blockNumber := none

/-- One byte is taken for an amount, although it is no word. -/
theorem ofLog_accepts_cutShort :
    ofLog cutShortLog = .ok ⟨Address.repeating 1, Address.repeating 2, 1⟩ ∧
      ¬ cutShortLog.HoldsWord := by
  refine ⟨rfl, ?_⟩
  exact not_holdsWord_of_isCutShort
    ⟨[1], by decide, by decide, "0x", by decide, "01".toList, by decide, by decide⟩

end TokenAudit
