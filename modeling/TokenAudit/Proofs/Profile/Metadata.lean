import TokenAudit.Profile.Metadata
import TokenAudit.Proofs.Ledger.Calm
import TokenAudit.Proofs.Ledger.Results

/-! # What is found of what a token says

A token is asked for its name, its symbol and its decimals in turn, whatever it replies. What is
found in a field hangs on the reply to its own function alone: it is what the reply encodes in the
standard encoding, and nothing if the reply is a fault or encodes nothing.

* `Getter.ask`, `ledgerBefore`, `replyTo` — the questions, and what comes back;
* `Answers`, `Unanswered`, `Settles` — what a reply says about a field;
* `fetchMetadata_eq` — how the questions go;
* `Recorded.replyTo_eq` — what records reply.

Main statement: `metadata_of_replies`, and `metadata_of_replies_unnamed` for records without a
proper name. -/

namespace TokenAudit

variable {σ α : Type}

/-! ## Replies -/

/-- Asks a token for one thing: what comes back, and the ledger afterwards. -/
def Getter.ask (getter : Getter) (ledger : Ledger σ) (token : Address) :
    Action (Clocked σ) (List UInt8) :=
  Ledger.ask (ledger.call token getter.selector)

/-- The ledger before a token is asked for one thing, when it was asked for those before. -/
def ledgerBefore (ledger : Ledger σ) (token : Address) (c : Clocked σ) : Getter → Clocked σ
  | .name => c
  | .symbol => (Getter.name.ask ledger token c).2
  | .decimals => (Getter.symbol.ask ledger token (Getter.name.ask ledger token c).2).2

/-- What a token replies when it is asked for one thing after the other. -/
def replyTo (ledger : Ledger σ) (token : Address) (c : Clocked σ) (getter : Getter) :
    Except Fault (List UInt8) :=
  (getter.ask ledger token (ledgerBefore ledger token c getter)).1

/-- Replies do not hang on what was asked before if questions leave the ledger as it is. -/
theorem replyTo_of_unchanged {ledger : Ledger σ} {token : Address} {c : Clocked σ}
    (h : ∀ getter : Getter, (getter.ask ledger token c).2 = c) (getter : Getter) :
    replyTo ledger token c getter = (getter.ask ledger token c).1 := by
  -- going through the earlier questions, each leaves the ledger to the next one
  have hbefore : ledgerBefore ledger token c getter = c := by
    cases getter with
    | name => rfl
    | symbol => exact h .name
    | decimals => rw [ledgerBefore, h .name, h .symbol]
  rw [replyTo, hbefore]

/-- Records reply what stands in them under the function that is asked for, as they are. -/
theorem Recorded.replyTo_eq (token : Address) (c : Clocked Recorded) (getter : Getter) :
    replyTo ledger token c getter =
      (c.state.calls.get? (token, getter.selector)).elim
        (.error ⟨.rpcError, "execution reverted"⟩) .ok := by
  have hask : ∀ getter : Getter, getter.ask ledger token c =
      (c.state.answerCall token getter.selector, c) :=
    fun getter => ask_call token getter.selector c
  have hreply : replyTo ledger token c getter = c.state.answerCall token getter.selector := by
    rw [replyTo_of_unchanged (fun getter => by rw [hask]), hask]
  have hselector : getter.selector.length = 4 := by cases getter <;> rfl
  rw [hreply, answerCall, if_neg (by omega), List.take_of_length_le (Nat.le_of_eq hselector)]
  cases c.state.calls.get? (token, getter.selector) <;> rfl

/-! ## What a reply says about a field -/

/-- A reply answers with a value if it is a result that encodes the value. -/
def Answers (Encodes : α → List UInt8 → Prop) (reply : Except Fault (List UInt8))
    (value : α) : Prop :=
  ∃ result, reply = .ok result ∧ Encodes value result

/-- A reply is no answer if it is a fault, or a result that encodes nothing. -/
inductive Unanswered (Encodes : α → List UInt8 → Prop) : Except Fault (List UInt8) → Prop
  | failed (fault : Fault) : Unanswered Encodes (.error fault)
  | undecodable {result : List UInt8} (h : ∀ value, ¬ Encodes value result) :
    Unanswered Encodes (.ok result)

/-- A field holds the value that a reply answers with, and is empty just if the reply is no
answer. -/
structure Settles (Encodes : α → List UInt8 → Prop) (reply : Except Fault (List UInt8))
    (field : Option α) : Prop where
  some_iff : ∀ value, field = some value ↔ Answers Encodes reply value
  none_iff : field = none ↔ Unanswered Encodes reply

/-- A reader that accepts just the encodings of values settles a field with what it reads. -/
theorem settles_bind {Encodes : α → List UInt8 → Prop} {decode : List UInt8 → Option α}
    (hdecode : ∀ {result value}, decode result = some value ↔ Encodes value result)
    (reply : Except Fault (List UInt8)) : Settles Encodes reply (reply.toOption.bind decode) := by
  cases reply with
  | error fault =>
    refine ⟨fun value => iff_of_false nofun ?_, iff_of_true rfl (.failed fault)⟩
    rintro ⟨result, hreply, -⟩
    cases hreply
  | ok result =>
    show Settles Encodes (.ok result) (decode result)
    constructor
    case some_iff =>
      intro value
      rw [hdecode]
      constructor
      · exact fun h => ⟨result, rfl, h⟩
      · rintro ⟨result', hreply, h⟩
        cases hreply
        exact h
    case none_iff =>
      -- nothing is read just if every value is refused
      rw [Option.eq_none_iff_forall_ne_some]
      constructor
      · exact fun h => .undecodable fun value hvalue => h value (hdecode.2 hvalue)
      · rintro ⟨⟩ value hvalue
        case undecodable h => exact h value (hdecode.1 hvalue)

/-! ## How the questions go -/

/-- Asking for one thing finds what is read from the reply, and leaves the ledger as the question
does. -/
theorem askToken_eq (ledger : Ledger σ) (token : Address) (getter : Getter)
    (decode : List UInt8 → Option α) (c : Clocked σ) :
    askToken ledger token getter decode c =
      ((getter.ask ledger token c).1.toOption.bind decode, (getter.ask ledger token c).2) := by
  rcases hask : getter.ask ledger token c with ⟨fault | result, c'⟩
  all_goals
    rw [Getter.ask] at hask
    simp only [askToken, bind, StateT.bind, ExceptT.run, hask]
    rfl

/-- What is found when a token replies so. -/
def TokenMetadata.ofReplies (replied : Getter → Except Fault (List UInt8)) : TokenMetadata where
  name := (replied .name).toOption.bind Abi.decodeText?
  symbol := (replied .symbol).toOption.bind Abi.decodeText?
  decimals := (replied .decimals).toOption.bind Abi.decodeByte?

/-- Whatever a token replies settles what is found, field by field. -/
theorem TokenMetadata.settles_ofReplies (replied : Getter → Except Fault (List UInt8)) :
    Settles Abi.IsText (replied .name) (ofReplies replied).name ∧
    Settles Abi.IsText (replied .symbol) (ofReplies replied).symbol ∧
    Settles Abi.IsByte (replied .decimals) (ofReplies replied).decimals :=
  ⟨settles_bind Abi.decodeText?_eq_some_iff _, settles_bind Abi.decodeText?_eq_some_iff _,
    settles_bind Abi.decodeByte?_eq_some_iff_isByte _⟩

/-- **A token is asked for all three things in turn**, and each field is read from the reply to its
own function. -/
theorem fetchMetadata_eq (ledger : Ledger σ) (token : Address) (c : Clocked σ) :
    fetchMetadata ledger token c =
      (.ofReplies (replyTo ledger token c),
        (Getter.decimals.ask ledger token (ledgerBefore ledger token c .decimals)).2) := by
  simp only [fetchMetadata, bind, StateT.bind, askToken_eq]
  rfl

/-! ## Metadata -/

/-- **Metadata are what the replies say.** Each field is settled by the reply to its own function:
it holds the text or the number that the reply encodes, and is empty just if the reply is a fault or
encodes none, whatever the other replies are. So three replies in the standard encoding bring
exactly what they encode, and every text has such an encoding whose length fits in a word. Two
tokens of which one function gives the same, or gives nothing, agree in its field, on whatever
ledgers they are. -/
theorem metadata_of_replies (ledger : Ledger σ) (token : Address) (c : Clocked σ) :
    let found := (fetchMetadata ledger token c).1
    let replied := replyTo ledger token c
    Settles Abi.IsText (replied .name) found.name ∧
    Settles Abi.IsText (replied .symbol) found.symbol ∧
    Settles Abi.IsByte (replied .decimals) found.decimals ∧
    (∀ name symbol decimals, Answers Abi.IsText (replied .name) name →
      Answers Abi.IsText (replied .symbol) symbol →
      Answers Abi.IsByte (replied .decimals) decimals →
      found = { name := some name, symbol := some symbol, decimals := some decimals }) ∧
    (∀ text, (∃ result, Abi.IsText text result) ↔ text.utf8ByteSize < Word.size) ∧
    (∀ {τ : Type} (ledger' : Ledger τ) (token' : Address) (c' : Clocked τ),
      let found' := (fetchMetadata ledger' token' c').1
      let replied' := replyTo ledger' token' c'
      ((replied' .name).toOption = (replied .name).toOption → found'.name = found.name) ∧
      ((replied' .symbol).toOption = (replied .symbol).toOption → found'.symbol = found.symbol) ∧
      ((replied' .decimals).toOption = (replied .decimals).toOption →
        found'.decimals = found.decimals)) := by
  intro found replied
  -- both runs are what is made of their replies
  have hfound : ∀ {τ : Type} (ledger' : Ledger τ) (token' : Address) (c' : Clocked τ),
      (fetchMetadata ledger' token' c').1 = .ofReplies (replyTo ledger' token' c') :=
    fun ledger' token' c' => congrArg Prod.fst (fetchMetadata_eq ledger' token' c')
  have hreplied : found = .ofReplies replied := hfound ledger token c
  obtain ⟨hname, hsymbol, hdecimals⟩ := TokenMetadata.settles_ofReplies replied
  rw [← hreplied] at hname hsymbol hdecimals
  refine ⟨hname, hsymbol, hdecimals, ?_, fun text => Abi.exists_isText_iff, ?_⟩
  · intro name symbol decimals hnamed hsymbolized hcounted
    rw [TokenMetadata.mk.injEq]
    exact ⟨(hname.some_iff name).2 hnamed, (hsymbol.some_iff symbol).2 hsymbolized,
      (hdecimals.some_iff decimals).2 hcounted⟩
  · intro τ ledger' token' c' found' replied'
    rw [hreplied, show found' = .ofReplies replied' from hfound ledger' token' c']
    refine ⟨fun h => ?_, fun h => ?_, fun h => ?_⟩
    all_goals simp only [TokenMetadata.ofReplies, h]

/-- Records of a token whose name fills just one word, whose symbol is empty, and whose decimals are
as many as there can be. -/
def namedRecords : Recorded where
  calls :=
    ((Table.empty.set (default, Getter.name.selector)
      (Abi.encodeText "Crédit foncier numérique été")).set
      (default, Getter.symbol.selector) (Abi.encodeText "")).set
      (default, Getter.decimals.selector) (Abi.encodeByte 255)

/-- The same records, but with a name of which there is nothing. -/
def unnamedRecords : Recorded where
  calls := namedRecords.calls.set (default, Getter.name.selector) []

/-- A token with a name, a symbol and decimals is found as it is, and without a proper name the rest
is the same. -/
theorem metadata_of_replies_unnamed :
    let replied := replyTo Recorded.ledger default (.start namedRecords)
    let replied' := replyTo Recorded.ledger default (.start unnamedRecords)
    Answers Abi.IsText (replied .name) "Crédit foncier numérique été" ∧
      Answers Abi.IsText (replied .symbol) "" ∧ Answers Abi.IsByte (replied .decimals) 255 ∧
      (fetchMetadata Recorded.ledger default (.start namedRecords)).1 =
        { name := some "Crédit foncier numérique été", symbol := some "", decimals := some 255 } ∧
      Unanswered Abi.IsText (replied' .name) ∧
      (replied' .symbol).toOption = (replied .symbol).toOption ∧
      (replied' .decimals).toOption = (replied .decimals).toOption ∧
      (fetchMetadata Recorded.ledger default (.start unnamedRecords)).1 =
        { name := none, symbol := some "", decimals := some 255 } := by
  intro replied replied'
  have hname : Answers Abi.IsText (replied .name) "Crédit foncier numérique été" :=
    ⟨_, Recorded.replyTo_eq default _ .name, Abi.isText_iff.2 ⟨by decide, rfl⟩⟩
  have hsymbol : Answers Abi.IsText (replied .symbol) "" :=
    ⟨_, Recorded.replyTo_eq default _ .symbol, Abi.isText_iff.2 ⟨by decide, rfl⟩⟩
  have hdecimals : Answers Abi.IsByte (replied .decimals) 255 :=
    ⟨_, Recorded.replyTo_eq default _ .decimals, by decide, Abi.isWordOf_iff.2 ⟨by decide, rfl⟩⟩
  obtain ⟨-, -, -, hfound, -, hothers⟩ :=
    metadata_of_replies Recorded.ledger default (.start namedRecords)
  have hall := hfound _ _ _ hname hsymbol hdecimals
  -- without a name, only the first of the replies is another one
  have hnothing : Unanswered Abi.IsText (replied' .name) := by
    rw [show replied' .name = .ok [] from Recorded.replyTo_eq default _ .name]
    refine .undecodable fun text htext => ?_
    rw [← Abi.decodeText?_eq_some_iff] at htext
    cases htext
  obtain ⟨-, hsymbol', hdecimals'⟩ := hothers Recorded.ledger default (.start unnamedRecords)
  have hsame : (replied' .symbol).toOption = (replied .symbol).toOption := rfl
  have hsame' : (replied' .decimals).toOption = (replied .decimals).toOption := rfl
  refine ⟨hname, hsymbol, hdecimals, hall, hnothing, hsame, hsame', ?_⟩
  obtain ⟨hname', -⟩ := metadata_of_replies Recorded.ledger default (.start unnamedRecords)
  rw [hall] at hsymbol' hdecimals'
  rw [TokenMetadata.mk.injEq]
  exact ⟨hname'.none_iff.2 hnothing, hsymbol' hsame, hdecimals' hsame'⟩

end TokenAudit
