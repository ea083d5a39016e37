import LedgerWallet.Json.ByteList
import LedgerWallet.Proofs.Json.Naturals
import LedgerWallet.Proofs.Json.Uniqueness

namespace LedgerWallet

namespace Json

open Numeral (IsNumeral valueOf)

variable {α : Type} {item : Reader α} {valueText : List Char → α → Prop} {values : List α}
  {isFirst : Bool} {count : Nat} {chars rest body text : List Char}
  {texts : List (List Char)}

theorem parts_of_closeList (closed : closeList chars = .ok rest) :
    ∃ body, Parts isFirst body [] ∧ chars = body ++ ']' :: rest := by
  obtain ⟨space, blank, whole⟩ := closeList_eq_ok_iff.1 closed
  exact ⟨space, .nil blank, whole⟩

theorem readUpTo_sound {left : List Char} (accepts : Accepts item valueText)
    (h : readUpTo item count isFirst chars = .ok (values, left))
    (closed : closeList left = .ok rest) :
    ∃ body texts, Parts isFirst body texts ∧ List.Forall₂ valueText texts values ∧
      chars = body ++ ']' :: rest := by
  induction count generalizing isFirst chars values with
  | zero =>
    cases h
    obtain ⟨body, parts, whole⟩ := parts_of_closeList closed
    exact ⟨body, [], parts, .nil, whole⟩
  | succ count ih =>
    obtain ⟨next, found, h⟩ := bind_ok h
    cases next with
    | none =>
      cases h
      obtain ⟨body, parts, whole⟩ := parts_of_closeList closed
      exact ⟨body, [], parts, .nil, whole⟩
    | some behind =>
      obtain ⟨⟨value, behind'⟩, read, h⟩ := bind_ok h
      obtain ⟨⟨others, left'⟩, more, h⟩ := bind_ok h
      cases h
      obtain ⟨gap, isGap, rfl⟩ := nextItem?_some found
      obtain ⟨space, text, blank, isValue, rfl⟩ := accepts.sound read
      obtain ⟨body, texts, parts, areValues, rfl⟩ := ih more
      refine ⟨(gap ++ space) ++ text ++ body, text :: texts, .cons (isGap.append blank) parts,
        .cons isValue areValues, ?_⟩
      simp

theorem readUpTo_complete (accepts : Accepts item valueText)
    (begins : ∀ text value, valueText text value → Begins text) (parts : Parts isFirst body texts)
    (areValues : List.Forall₂ valueText texts values) (few : texts.length ≤ count)
    (rest : List Char) :
    ∃ left, readUpTo item count isFirst (body ++ ']' :: rest) = .ok (values, left) ∧
      closeList left = .ok rest := by
  induction parts generalizing count values with
  | @nil isFirst space blank =>
    cases areValues
    refine ⟨space ++ ']' :: rest, ?_, closeList_eq_ok_iff.2 ⟨space, blank, rfl⟩⟩
    cases count with
    | zero => rfl
    | succ count =>
      rw [readUpTo, nextItem?_close isFirst blank]
      rfl
  | @cons isFirst gap text more texts isGap parts ih =>
    cases areValues with
    | @cons _ value _ values isValue others =>
      cases count with
      | zero => exact absurd few (Nat.not_succ_le_zero _)
      | succ count =>
        obtain ⟨left, later, closed⟩ := ih others (Nat.le_of_succ_le_succ few)
        refine ⟨left, ?_, closed⟩
        have stop : Delimited (more ++ ']' :: rest) :=
          parts.delimited (delimited_mark (Or.inr (Or.inl rfl)) rest)
        have next := nextItem?_gap isGap (begins text value isValue) (more ++ ']' :: rest)
        have first : item (text ++ (more ++ ']' :: rest)) = .ok (value, more ++ ']' :: rest) :=
          accepts.complete blank_nil isValue stop
        rw [List.append_assoc, readUpTo, next]
        simp only [bind, Except.bind, first, later]

def ByteText (text : List Char) (byte : UInt8) : Prop := IsNumeral text byte.toNat

def IsByteText (text : List Char) : Prop := IntegerText text ∧ valueOf text < 256

theorem exists_byteText_iff : (∃ byte, ByteText text byte) ↔ IsByteText text := by
  constructor
  · intro ⟨byte, spelled⟩
    obtain ⟨isInteger, value⟩ := isNumeral_iff_integerText.1 spelled
    exact ⟨isInteger, value ▸ byte.toNat_lt⟩
  · intro ⟨isInteger, below⟩
    refine ⟨UInt8.ofNat (valueOf text), isNumeral_iff_integerText.2 ⟨isInteger, ?_⟩⟩
    exact (UInt8.toNat_ofNat_of_lt' below).symm

theorem exists_byteTexts_iff :
    (∃ bytes, List.Forall₂ ByteText texts bytes) ↔ ∀ text ∈ texts, IsByteText text := by
  constructor
  · intro ⟨bytes, areBytes⟩ text there
    obtain ⟨byte, -, spelled⟩ := exists_of_forall₂ areBytes text there
    exact exists_byteText_iff.1 ⟨byte, spelled⟩
  · intro areBytes
    exact exists_forall₂ fun text there => exists_byteText_iff.2 (areBytes text there)

theorem ByteText.isValue {byte : UInt8} (h : ByteText text byte) : ValueText text :=
  valueText_of_isNumeral h

theorem byteTexts_of_numbers {numbers : List Nat}
    (h : List.Forall₂ (fun text n => IsNumeral text n ∧ n < byteRange.bound) texts numbers) :
    List.Forall₂ ByteText texts (numbers.map UInt8.ofNat) := by
  refine List.forall₂_map_right_iff.2 (h.imp fun text n spelled => ?_)
  rw [ByteText, UInt8.toNat_ofNat_of_lt' spelled.2]
  exact spelled.1

theorem numbers_of_byteTexts {bytes : List UInt8} (h : List.Forall₂ ByteText texts bytes) :
    List.Forall₂ (fun text n => IsNumeral text n ∧ n < byteRange.bound) texts
      (bytes.map UInt8.toNat) :=
  List.forall₂_map_right_iff.2 (h.imp fun _ byte spelled => ⟨spelled, byte.toNat_lt⟩)

theorem byte_accepts :
    Accepts byteRange.read fun text n => IsNumeral text n ∧ n < byteRange.bound :=
  bounded_accepts (by decide)

variable {n : Nat} {expected : String} {bytes : FixedBytes n}

theorem readBytes_sound (h : readBytes n expected chars = .ok (bytes, rest)) :
    ∃ space text, Blank space ∧ ListOf ByteText text bytes.toList ∧
      chars = space ++ text ++ rest := by
  obtain ⟨space, blank, front⟩ := eq_of_skipSpace chars
  unfold readBytes at h
  split at h
  · rename_i behind same
    obtain ⟨⟨numbers, left⟩, read, h⟩ := bind_ok h
    dsimp only at h
    split at h
    · rename_i found fixed
      obtain ⟨behind', closed, h⟩ := bind_ok h
      cases h
      obtain ⟨body, texts, parts, areNumbers, rfl⟩ := readUpTo_sound byte_accepts read closed
      have areBytes := byteTexts_of_numbers areNumbers
      rw [← FixedBytes.toList_of_ofList? fixed] at areBytes
      refine ⟨space, '[' :: (body ++ [']']), blank, ⟨texts, ⟨body, parts, rfl⟩, areBytes⟩, ?_⟩
      rw [front, same, enclosed_append]
    · cases h
  · exact absurd h (failMismatch_ne_ok _ _ _)

theorem readBytes_complete {space : List Char} (blank : Blank space)
    (isList : ListOf ByteText text bytes.toList) (expected : String) (rest : List Char) :
    readBytes n expected (space ++ text ++ rest) = .ok (bytes, rest) := by
  obtain ⟨texts, ⟨body, parts, rfl⟩, areBytes⟩ := isList
  have few : texts.length ≤ n := by
    rw [areBytes.length_eq, bytes.length_toList]
  have begins : ∀ text n, IsNumeral text n ∧ n < byteRange.bound → Begins text :=
    fun _ _ spelled => (valueText_of_isNumeral spelled.1).begins
  obtain ⟨left, read, closed⟩ := readUpTo_complete byte_accepts begins parts
    (numbers_of_byteTexts areBytes) few rest
  have back : (bytes.toList.map UInt8.toNat).map UInt8.ofNat = bytes.toList := by
    simp [List.map_map, Function.comp_def]
  rw [enclosed_append, readBytes, skipSpace_mark blank (by rfl)]
  simp only [read, bind, Except.bind, back, FixedBytes.ofList?_toList, closed]
  rfl

theorem readBytes_recognizes (n : Nat) (expected : String) :
    Recognizes (readBytes n expected) fun text bytes => ListOf ByteText text bytes.toList := by
  intro chars bytes rest
  constructor
  · exact readBytes_sound
  · intro ⟨space, text, blank, isList, whole⟩
    rw [whole]
    exact readBytes_complete blank isList expected rest

theorem parts_compactMore (items : List Json) :
    Parts false (compactMore items) (items.map compactChars) := by
  induction items with
  | nil => exact .nil blank_nil
  | cons item items ih =>
    have isGap : Gap false [','] := ⟨[], [], blank_nil, blank_nil, rfl⟩
    rw [compactMore_cons]
    exact .cons isGap ih

theorem listText_compact (items : List Json) :
    ListText (compactChars (.array items)) (items.map compactChars) := by
  refine ⟨compactItems items, ?_, by simp [compactChars]⟩
  cases items with
  | nil => exact .nil blank_nil
  | cons item items =>
    have isGap : Gap true [] := blank_nil
    rw [compactItems_cons]
    exact .cons isGap (parts_compactMore items)

theorem listOf_toJson (bytes : FixedBytes n) :
    ListOf ByteText (compactChars bytes.toJson) bytes.toList := by
  refine ⟨_, listText_compact _, ?_⟩
  rw [List.map_map, List.forall₂_map_left_iff]
  exact List.forall₂_same.2 fun byte _ => Numeral.isNumeral_chars byte.toNat

/-- Values of so many bytes are read from the lists of exactly these bytes, and no list of another
length or with another item is taken. -/
structure ReadsByteLists (n : Nat) (bytesOf : α → FixedBytes n)
    (parse : String → Except Error α) : Prop where
  reads : ∀ text a, parse text = .ok a ↔
    StandsAlone (fun chars => ListOf ByteText chars (bytesOf a).toList) text
  takes : ∀ text, (∃ a, parse text = .ok a) ↔ ∃ items,
    StandsAlone (fun chars => ListText chars items) text ∧ items.length = n ∧
      ∀ item ∈ items, IsByteText item
  refuses : ∀ text items, StandsAlone (fun chars => ListText chars items) text →
    (∀ item ∈ items, ValueText item) → (items.length ≠ n ∨ ∃ item ∈ items, ¬ IsByteText item) →
      ∃ error, parse text = .error error

variable {whole : String} {items : List (List Char)}

theorem readAll_bytes_iff : readAll (readBytes n expected) whole = .ok bytes ↔
    StandsAlone (fun chars => ListOf ByteText chars bytes.toList) whole :=
  (readBytes_recognizes n expected).readAll_eq_ok_iff

theorem exists_readAll_bytes_iff (expected : String) :
    (∃ bytes, readAll (readBytes n expected) whole = .ok bytes) ↔ ∃ items,
      StandsAlone (fun chars => ListText chars items) whole ∧ items.length = n ∧
        ∀ item ∈ items, IsByteText item := by
  constructor
  · intro ⟨bytes, read⟩
    obtain ⟨space, chars, space', blank, blank', ⟨items, isList, areBytes⟩, shape⟩ :=
      readAll_bytes_iff.1 read
    refine ⟨items, ⟨space, chars, space', blank, blank', isList, shape⟩, ?_, ?_⟩
    · rw [areBytes.length_eq, bytes.length_toList]
    · exact exists_byteTexts_iff.1 ⟨_, areBytes⟩
  · intro ⟨items, ⟨space, chars, space', blank, blank', isList, shape⟩, length, areBytes⟩
    obtain ⟨bytes, spelled⟩ := exists_byteTexts_iff.2 areBytes
    have fixed : bytes.length = n := by rw [← spelled.length_eq, length]
    exact ⟨⟨bytes, fixed⟩, readAll_bytes_iff.2
      ⟨space, chars, space', blank, blank', ⟨items, isList, spelled⟩, shape⟩⟩

theorem bytes_of_readAll (isList : StandsAlone (fun chars => ListText chars items) whole)
    (areValues : ∀ item ∈ items, ValueText item)
    (read : readAll (readBytes n expected) whole = .ok bytes) :
    items.length = n ∧ ∀ item ∈ items, IsByteText item := by
  obtain ⟨items', isList', length, areBytes⟩ :=
    (exists_readAll_bytes_iff expected).1 ⟨bytes, read⟩
  have areValues' : ∀ item ∈ items', ValueText item := by
    intro item there
    obtain ⟨byte, spelled⟩ := exists_byteText_iff.2 (areBytes item there)
    exact spelled.isValue
  rw [items_unique isList isList' areValues areValues']
  exact ⟨length, areBytes⟩

theorem readsByteLists_of_readBytes {bytesOf : α → FixedBytes n} {make : FixedBytes n → α}
    {parse : String → Except Error α}
    (parses : ∀ text, parse text = (readAll (readBytes n expected) text).map make)
    (inverse : ∀ a, make (bytesOf a) = a) (inverse' : ∀ bytes, bytesOf (make bytes) = bytes) :
    ReadsByteLists n bytesOf parse := by
  have read {text : String} {a : α} : parse text = .ok a ↔
      readAll (readBytes n expected) text = .ok (bytesOf a) := by
    rw [parses]
    constructor
    · intro h
      obtain ⟨bytes, read, rfl⟩ := map_ok h
      rw [inverse', read]
    · intro read
      rw [read, Except.map, inverse]
  constructor
  · intro text a
    rw [read, readAll_bytes_iff]
  · intro text
    rw [← exists_readAll_bytes_iff expected]
    constructor
    · intro ⟨a, taken⟩
      exact ⟨bytesOf a, read.1 taken⟩
    · intro ⟨bytes, taken⟩
      exact ⟨make bytes, read.2 (by rw [inverse', taken])⟩
  · intro text items isList areValues wrong
    cases taken : parse text with
    | error error => exact ⟨error, rfl⟩
    | ok a =>
      obtain ⟨length, areBytes⟩ := bytes_of_readAll isList areValues (read.1 taken)
      rcases wrong with other | ⟨item, there, other⟩
      · exact absurd length other
      · exact absurd (areBytes item there) other

theorem ReadsByteLists.read_compact {bytesOf : α → FixedBytes n}
    {parse : String → Except Error α} (h : ReadsByteLists n bytesOf parse) (a : α) :
    parse (bytesOf a).toJson.compact = .ok a := by
  have written : (bytesOf a).toJson.compact.toList =
      [] ++ compactChars (bytesOf a).toJson ++ [] := by
    rw [compact, String.toList_ofList, List.append_nil, List.nil_append]
  exact (h.reads _ a).2 ⟨[], _, [], blank_nil, blank_nil, listOf_toJson _, written⟩

end Json

/-- Signatures and addresses are read back from the lists as which they are written, and from
exactly the lists of so many bytes. -/
theorem byte_lists_exact :
    (∀ signature, Signature.parseJson signature.toJson.compact = .ok signature) ∧
    (∀ address, Address.parseJson address.toJson.compact = .ok address) ∧
    Json.ReadsByteLists 64 Signature.bytes Signature.parseJson ∧
    Json.ReadsByteLists 20 Address.bytes Address.parseJson := by
  have signatures : Json.ReadsByteLists 64 Signature.bytes Signature.parseJson :=
    Json.readsByteLists_of_readBytes (fun _ => rfl) (fun _ => rfl) (fun _ => rfl)
  have addresses : Json.ReadsByteLists 20 Address.bytes Address.parseJson :=
    Json.readsByteLists_of_readBytes (fun _ => rfl) (fun _ => rfl) (fun _ => rfl)
  exact ⟨signatures.read_compact, addresses.read_compact, signatures, addresses⟩

end LedgerWallet
