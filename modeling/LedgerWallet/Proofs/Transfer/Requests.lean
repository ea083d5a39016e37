import LedgerWallet.Console.TransferRequest
import LedgerWallet.Proofs.Address.Reading

namespace LedgerWallet.TransferRequest

open Text

variable {α β : Type} {gasPrice gasLimit : Amount} {text : String} {parts : List String}
  {request : TransferRequest}

def IsNumber (word : String) : Prop := ∃ n < 2 ^ 64, Numeral.Spells word n

theorem readNumber_eq_ok_iff {number : TransferNumber} {word : String} {n : UInt64} :
    readNumber number word = .ok n ↔ Numeral.Spells word n.toNat := by
  rw [readNumber, mapError_eq_ok_iff, Numeral.readWord_eq_ok_iff]

theorem exists_readNumber_iff {number : TransferNumber} {word : String} :
    (∃ n, readNumber number word = .ok n) ↔ IsNumber word := by
  simp only [readNumber, mapError_eq_ok_iff]
  exact Numeral.exists_readWord_iff

theorem kind_of_readNumber {number : TransferNumber} {word : String} {error : WalletError}
    (h : readNumber number word = .error error) : error.kind = .invalidAmount := by
  obtain ⟨refused, -, rfl⟩ := mapError_error h
  rfl

inductive Rule where
  | recipient
  | amount
  | gasPrice
  | gasLimit
  | noMore
  | positive

namespace Rule

def Holds (parts : List String) : Rule → Prop
  | .recipient => ∃ word ∈ parts[0]?, ∃ digits, Address.Writes word digits
  | .amount => ∃ word ∈ parts[1]?, IsNumber word
  | .gasPrice => ∀ word ∈ parts[2]?, IsNumber word
  | .gasLimit => ∀ word ∈ parts[3]?, IsNumber word
  | .noMore => parts.length ≤ 4
  | .positive => ∀ word ∈ parts[1]?, ¬ Numeral.Spells word 0

def kind : Rule → WalletError.Kind
  | .recipient => .invalidAddress
  | .amount | .gasPrice | .gasLimit | .positive => .invalidAmount
  | .noMore => .invalidInput

def order : List Rule := [.recipient, .amount, .gasPrice, .gasLimit, .noMore, .positive]

theorem mem_order (rule : Rule) : rule ∈ order := by
  cases rule <;> simp [order]

inductive FirstViolated (parts : List String) : List Rule → Rule → Prop where
  | here {rule : Rule} {rules : List Rule} (violated : ¬ rule.Holds parts) :
      FirstViolated parts (rule :: rules) rule
  | later {first rule : Rule} {rules : List Rule} (holds : first.Holds parts)
      (violated : FirstViolated parts rules rule) : FirstViolated parts (first :: rules) rule

variable {rule other : Rule} {rules : List Rule}

theorem FirstViolated.mem (h : FirstViolated parts rules rule) : rule ∈ rules := by
  induction h with
  | here => exact List.mem_cons_self
  | later _ _ ih => exact List.mem_cons_of_mem _ ih

theorem FirstViolated.violates (h : FirstViolated parts rules rule) : ¬ rule.Holds parts := by
  induction h with
  | here violated => exact violated
  | later _ _ ih => exact ih

theorem FirstViolated.unique (h : FirstViolated parts rules rule)
    (h' : FirstViolated parts rules other) : rule = other := by
  induction h with
  | here violated =>
    cases h' with
    | here => rfl
    | later holds => exact absurd holds violated
  | later holds _ ih =>
    cases h' with
    | here violated => exact absurd holds violated
    | later _ violated => exact ih violated

structure Checks (rule : Rule) (parts : List String) (result : Except WalletError α) : Prop where
  accepts : (∃ a, result = .ok a) ↔ rule.Holds parts
  kind : ∀ error, result = .error error → error.kind = rule.kind

/-- A reading succeeds if all rules hold, and fails if not: the first that is violated decides the
kind of the error. -/
inductive Decides (rules : List Rule) (parts : List String) : Except WalletError α → Prop where
  | accepted {a : α} (holds : ∀ rule ∈ rules, rule.Holds parts) : Decides rules parts (.ok a)
  | refused {rule : Rule} {error : WalletError} (first : FirstViolated parts rules rule)
      (kind : rule.kind = error.kind) : Decides rules parts (.error error)

theorem decides_cons {first : Except WalletError α} {rest : α → Except WalletError β}
    (checks : rule.Checks parts first)
    (later : ∀ a, first = .ok a → Decides rules parts (rest a)) :
    Decides (rule :: rules) parts (first >>= rest) := by
  cases first with
  | error error =>
    have violated : ¬ rule.Holds parts := by
      intro holds
      obtain ⟨a, same⟩ := checks.accepts.2 holds
      cases same
    exact .refused (.here violated) (checks.kind error rfl).symm
  | ok a =>
    have holds : rule.Holds parts := checks.accepts.1 ⟨a, rfl⟩
    have others := later a rfl
    change Decides (rule :: rules) parts (rest a)
    generalize rest a = result at others ⊢
    cases others with
    | accepted others => exact .accepted (List.forall_mem_cons.2 ⟨holds, others⟩)
    | refused violated kind => exact .refused (.later holds violated) kind

theorem Decides.accepts_iff {result : Except WalletError α} (h : Decides rules parts result) :
    (∃ a, result = .ok a) ↔ ∀ rule ∈ rules, rule.Holds parts := by
  cases h with
  | accepted holds => exact ⟨fun _ => holds, fun _ => ⟨_, rfl⟩⟩
  | refused first =>
    constructor
    · rintro ⟨a, same⟩
      cases same
    · exact fun holds => absurd (holds _ first.mem) first.violates

theorem Decides.error_iff {result : Except WalletError α} {kind : WalletError.Kind}
    (h : Decides rules parts result) :
    (∃ error, result = .error error ∧ error.kind = kind) ↔
      ∃ rule, FirstViolated parts rules rule ∧ rule.kind = kind := by
  cases h with
  | accepted holds =>
    constructor
    · rintro ⟨error, same, -⟩
      cases same
    · rintro ⟨rule, first, -⟩
      exact absurd (holds _ first.mem) first.violates
  | refused first same =>
    constructor
    · rintro ⟨_, refused, rfl⟩
      cases refused
      exact ⟨_, first, same⟩
    · rintro ⟨rule, violated, rfl⟩
      exact ⟨_, rfl, violated.unique first ▸ same.symm⟩

end Rule

def readAmount : Option String → Except WalletError UInt64
  | none => .error .missingAmount
  | some word => readNumber .amount word

def conclude (request : TransferRequest) : Option String → Except WalletError TransferRequest
  | some extra => .error (.extraWord extra)
  | none => if request.amount = 0 then .error .zeroAmount else .ok request

theorem ofWords_cons (gasPrice gasLimit : Amount) (word : String) (rest : List String) :
    ofWords gasPrice gasLimit (word :: rest) = (do
      let recipient ← (Address.parse word).mapError WalletError.badAddress
      let amount ← readAmount rest[0]?
      let gasPrice ← readNumberOr gasPrice .gasPrice rest[1]?
      let gasLimit ← readNumberOr gasLimit .gasLimit rest[2]?
      conclude ⟨recipient, amount, gasPrice, gasLimit⟩ rest[3]?) := by
  unfold ofWords
  cases rest <;> rfl

theorem checks_recipient (word : String) (rest : List String) :
    Rule.recipient.Checks (word :: rest) ((Address.parse word).mapError WalletError.badAddress) := by
  constructor
  · simp only [mapError_eq_ok_iff, Address.exists_parse_iff]
    simp [Rule.Holds]
  · intro error h
    obtain ⟨refused, -, rfl⟩ := mapError_error h
    rfl

theorem readAmount_eq_ok_iff {part : Option String} {n : UInt64} :
    readAmount part = .ok n ↔ ∃ word ∈ part, Numeral.Spells word n.toNat := by
  cases part with
  | none => simp [readAmount]
  | some word => simp [readAmount, readNumber_eq_ok_iff]

theorem checks_amount (parts : List String) : Rule.amount.Checks parts (readAmount parts[1]?) := by
  constructor
  · cases part : parts[1]? with
    | none => simp [Rule.Holds, readAmount, part]
    | some word => simp [Rule.Holds, readAmount, part, exists_readNumber_iff]
  · intro error h
    cases part : parts[1]? with
    | none =>
      rw [part] at h
      cases h
      rfl
    | some word =>
      rw [part] at h
      exact kind_of_readNumber h

theorem checks_gas {rule : Rule} {part : Option String} (fallback : Amount)
    (number : TransferNumber) (holds : rule.Holds parts ↔ ∀ word ∈ part, IsNumber word)
    (kind : rule.kind = .invalidAmount) :
    rule.Checks parts (readNumberOr fallback number part) := by
  constructor
  · rw [holds]
    cases part with
    | none => simp [readNumberOr]
    | some word => simp [readNumberOr, exists_readNumber_iff]
  · intro error h
    rw [kind]
    cases part with
    | none => cases h
    | some word => exact kind_of_readNumber h

theorem positive_iff {amount : UInt64} (read : readAmount parts[1]? = .ok amount) :
    Rule.positive.Holds parts ↔ amount ≠ 0 := by
  obtain ⟨word, part, spelled⟩ := readAmount_eq_ok_iff.1 read
  rw [Option.mem_def] at part
  have zero : Numeral.Spells word 0 ↔ amount = 0 := by
    constructor
    · intro none
      have first : Numeral.readWord word = .ok amount := Numeral.readWord_eq_ok_iff.2 spelled
      have second : Numeral.readWord word = .ok 0 := Numeral.readWord_eq_ok_iff.2 none
      exact Except.ok.inj (first.symm.trans second)
    · rintro rfl
      exact spelled
  simp [Rule.Holds, part, zero]

theorem decides_conclude (read : readAmount parts[1]? = .ok request.amount) :
    Rule.Decides [.noMore, .positive] parts (request.conclude parts[4]?) := by
  cases last : parts[4]? with
  | some extra =>
    have long : ¬ Rule.noMore.Holds parts := by
      obtain ⟨more, -⟩ := List.getElem?_eq_some_iff.1 last
      exact Nat.not_le_of_lt more
    exact .refused (.here long) rfl
  | none =>
    have short : Rule.noMore.Holds parts := List.getElem?_eq_none_iff.1 last
    rw [conclude]
    split
    · rename_i zero
      have violated : ¬ Rule.positive.Holds parts := fun holds => (positive_iff read).1 holds zero
      exact .refused (.later short (.here violated)) rfl
    · rename_i some
      have holds : Rule.positive.Holds parts := (positive_iff read).2 some
      exact .accepted (List.forall_mem_cons.2 ⟨short, List.forall_mem_singleton.2 holds⟩)

theorem decides_ofWords (gasPrice gasLimit : Amount) (parts : List String) :
    Rule.Decides Rule.order parts (ofWords gasPrice gasLimit parts) := by
  cases parts with
  | nil =>
    have missing : ¬ Rule.recipient.Holds [] := by simp [Rule.Holds]
    exact .refused (.here missing) rfl
  | cons word rest =>
    rw [ofWords_cons]
    refine Rule.decides_cons (checks_recipient word rest) fun recipient _ => ?_
    refine Rule.decides_cons (checks_amount (word :: rest)) fun amount read => ?_
    refine Rule.decides_cons (checks_gas gasPrice .gasPrice Iff.rfl rfl) fun price _ => ?_
    refine Rule.decides_cons (checks_gas gasLimit .gasLimit Iff.rfl rfl) fun limit _ => ?_
    exact decides_conclude read

def IsGas (fallback : Amount) (value : Amount) : Option String → Prop
  | none => value = fallback
  | some word => Numeral.Spells word value.toNat

/-- The words are those of the request: two to four of them, and each field from its own. -/
structure Denotes (gasPrice gasLimit : Amount) (parts : List String)
    (request : TransferRequest) : Prop where
  count : 2 ≤ parts.length ∧ parts.length ≤ 4
  recipient : ∃ word ∈ parts[0]?, ∃ digits bytes, Address.Writes word digits ∧
    Hex.Spells digits bytes ∧ request.recipient.bytes.toList = bytes.drop (bytes.length - 20)
  amount : ∃ word ∈ parts[1]?, Numeral.Spells word request.amount.toNat
  positive : request.amount ≠ 0
  gasPrice : IsGas gasPrice request.gasPrice parts[2]?
  gasLimit : IsGas gasLimit request.gasLimit parts[3]?

theorem readNumberOr_eq_ok_iff {fallback value : Amount} {number : TransferNumber}
    {part : Option String} :
    readNumberOr fallback number part = .ok value ↔ IsGas fallback value part := by
  cases part with
  | none => simp [readNumberOr, IsGas, eq_comm]
  | some word => exact readNumber_eq_ok_iff

theorem conclude_eq_ok_iff {read : TransferRequest} {part : Option String} :
    read.conclude part = .ok request ↔ read = request ∧ part = none ∧ request.amount ≠ 0 := by
  cases part with
  | some extra => simp [conclude]
  | none =>
    rw [conclude]
    split
    · rename_i zero
      constructor
      · intro h
        cases h
      · rintro ⟨rfl, -, some⟩
        exact absurd zero some
    · rename_i some
      constructor
      · intro h
        cases h
        exact ⟨rfl, rfl, some⟩
      · rintro ⟨rfl, -, -⟩
        rfl

theorem denotes_of_ofWords (h : ofWords gasPrice gasLimit parts = .ok request) :
    request.Denotes gasPrice gasLimit parts := by
  cases parts with
  | nil => cases h
  | cons word rest =>
    rw [ofWords_cons] at h
    obtain ⟨recipient, readRecipient, h⟩ := bind_ok h
    obtain ⟨amount, readAmount, h⟩ := bind_ok h
    obtain ⟨price, readPrice, h⟩ := bind_ok h
    obtain ⟨limit, readLimit, h⟩ := bind_ok h
    obtain ⟨rfl, last, some⟩ := conclude_eq_ok_iff.1 h
    obtain ⟨second, next, spelled⟩ := readAmount_eq_ok_iff.1 readAmount
    have atLeast : 0 < rest.length := by
      obtain ⟨more, -⟩ := List.getElem?_eq_some_iff.1 next
      exact more
    have atMost : rest.length ≤ 3 := List.getElem?_eq_none_iff.1 last
    refine ⟨?_, ?_, ⟨second, next, spelled⟩, some, readNumberOr_eq_ok_iff.1 readPrice,
      readNumberOr_eq_ok_iff.1 readLimit⟩
    · rw [List.length_cons]
      omega
    · exact ⟨word, rfl, Address.parse_eq_ok_iff.1 (mapError_ok readRecipient)⟩

theorem ofWords_of_denotes (h : request.Denotes gasPrice gasLimit parts) :
    ofWords gasPrice gasLimit parts = .ok request := by
  obtain ⟨⟨-, atMost⟩, ⟨word, first, writes⟩, spelled, some, price, limit⟩ := h
  cases parts with
  | nil => cases first
  | cons start rest =>
    cases first
    have readRecipient := Address.parse_eq_ok_iff.2 writes
    have readAmount : readAmount rest[0]? = .ok request.amount := readAmount_eq_ok_iff.2 spelled
    have readPrice : readNumberOr gasPrice .gasPrice rest[1]? = .ok request.gasPrice :=
      readNumberOr_eq_ok_iff.2 price
    have readLimit : readNumberOr gasLimit .gasLimit rest[2]? = .ok request.gasLimit :=
      readNumberOr_eq_ok_iff.2 limit
    have last : rest[3]? = none := List.getElem?_eq_none_iff.2 (Nat.le_of_succ_le_succ atMost)
    rw [ofWords_cons, readRecipient, readAmount, readPrice, readLimit]
    exact conclude_eq_ok_iff.2 ⟨rfl, last, some⟩

theorem parse_eq_ok_iff : parse text gasPrice gasLimit = .ok request ↔
    request.Denotes gasPrice gasLimit (words text) :=
  ⟨denotes_of_ofWords, ofWords_of_denotes⟩

theorem exists_parse_iff : (∃ request, parse text gasPrice gasLimit = .ok request) ↔
    ∀ rule : Rule, rule.Holds (words text) := by
  have accepts := (decides_ofWords gasPrice gasLimit (words text)).accepts_iff
  exact accepts.trans ⟨fun holds rule => holds rule rule.mem_order, fun holds rule _ => holds rule⟩

theorem exists_error_iff {kind : WalletError.Kind} :
    (∃ error, parse text gasPrice gasLimit = .error error ∧ error.kind = kind) ↔
      ∃ rule, Rule.FirstViolated (words text) Rule.order rule ∧ rule.kind = kind :=
  (decides_ofWords gasPrice gasLimit (words text)).error_iff

def printed (request : TransferRequest) (first second third : String) : String :=
  request.recipient.text ++ first ++ Numeral.write request.amount.toNat ++ second ++
    Numeral.write request.gasPrice.toNat ++ third ++ Numeral.write request.gasLimit.toNat

theorem words_write (n : UInt64) : words (Numeral.write n.toNat) = [Numeral.write n.toNat] := by
  have spelled := Numeral.spells_write n.toNat
  refine words_of_unbroken (Numeral.unbroken_of_spells spelled) ?_
  intro none
  exact absurd (String.ofList_eq_empty_iff.1 none) (Numeral.isDigits_chars n.toNat).1

theorem words_printed {first second third : String} (firstGap : IsGap first)
    (secondGap : IsGap second) (thirdGap : IsGap third) :
    words (request.printed first second third) =
      [request.recipient.text, Numeral.write request.amount.toNat,
        Numeral.write request.gasPrice.toNat, Numeral.write request.gasLimit.toNat] := by
  have recipient : words request.recipient.text = [request.recipient.text] :=
    words_of_unbroken request.recipient.unbroken_text request.recipient.text_ne_empty
  rw [printed, words_append_gap _ _ thirdGap, words_append_gap _ _ secondGap,
    words_append_gap _ _ firstGap, recipient, words_write, words_write, words_write]
  rfl

theorem parse_printed {first second third : String} (some : request.amount ≠ 0)
    (firstGap : IsGap first) (secondGap : IsGap second) (thirdGap : IsGap third) :
    parse (request.printed first second third) gasPrice gasLimit = .ok request := by
  rw [parse_eq_ok_iff, words_printed firstGap secondGap thirdGap]
  have recipient := Address.parse_eq_ok_iff.1 (Address.parse_text request.recipient)
  exact ⟨by simp, ⟨_, rfl, recipient⟩, ⟨_, rfl, Numeral.spells_write _⟩, some,
    Numeral.spells_write _, Numeral.spells_write _⟩

/-- A text is read as a transfer exactly if its words, of which there are two to four, are the
address of the recipient, an amount that is not zero and, unless the defaults are to stand, the gas
price and the gas limit. Any other text violates one of the rules, and the first of them in their
order decides the kind of the error. What is printed is read back, whatever white space stands
between. -/
theorem parse_follows_grammar (gasPrice gasLimit : Amount) :
    (∀ text : String, ∃! parts, SplitsInto text.toList parts) ∧
    (∀ (text : String) parts, SplitsInto text.toList parts →
      (∀ request, parse text gasPrice gasLimit = .ok request ↔
        request.Denotes gasPrice gasLimit parts) ∧
      ((∃ request, parse text gasPrice gasLimit = .ok request) ↔
        ∀ rule : Rule, rule.Holds parts) ∧
      ∀ kind, (∃ error, parse text gasPrice gasLimit = .error error ∧ error.kind = kind) ↔
        ∃ rule, Rule.FirstViolated parts Rule.order rule ∧ rule.kind = kind) ∧
    ∀ (request : TransferRequest) (first second third : String), request.amount ≠ 0 →
      IsGap first → IsGap second → IsGap third →
        parse (request.printed first second third) gasPrice gasLimit = .ok request := by
  refine ⟨fun text => ?_, fun text parts split => ?_, ?_⟩
  · exact ⟨words text, words_eq_iff.1 rfl, fun parts split => (words_eq_iff.2 split).symm⟩
  · rw [← words_eq_iff.2 split]
    exact ⟨fun _ => parse_eq_ok_iff, exists_parse_iff, fun _ => exists_error_iff⟩
  · exact fun _ _ _ _ some first second third => parse_printed some first second third

/-- An amount of two digits and a plus sign behind white space of several kinds, and the largest
amount there is. -/
theorem parse_of_unusual_gaps :
    let recipient : Address := ⟨.replicate 20 0x42⟩
    let text := "\t" ++ recipient.text ++ "\u3000\n+07 "
    let largest : TransferRequest := ⟨recipient, 0xffffffffffffffff, 0, 0⟩
    SplitsInto text.toList [recipient.text, "+07"] ∧
      Denotes 1 100 [recipient.text, "+07"] ⟨recipient, 7, 1, 100⟩ ∧
      parse (largest.printed "\t" "\u2003\r\n" " ") 1 100 = .ok largest := by
  intro recipient text largest
  have split : SplitsInto text.toList [recipient.text, "+07"] :=
    words_eq_iff.1 (by decide +kernel)
  have read : parse text 1 100 = .ok ⟨recipient, 7, 1, 100⟩ := ok_of_toOption (by decide +kernel)
  obtain ⟨-, grammar, printed⟩ := parse_follows_grammar 1 100
  exact ⟨split, ((grammar text _ split).1 _).1 read,
    printed largest _ _ _ (by decide) (by decide) (by decide) (by decide)⟩

end LedgerWallet.TransferRequest
