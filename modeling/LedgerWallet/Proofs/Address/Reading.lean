import LedgerWallet.Account
import LedgerWallet.Proofs.Bytes.Numbers
import LedgerWallet.Proofs.Text.Words

namespace LedgerWallet.Address

open Text

variable {text : String} {address : Address} {mark digits : List Char} {bytes : ByteString}

def marks : List (List Char) := [[], ['0', 'x'], ['0', 'X']]

theorem visible_of_mark : ∀ mark ∈ marks, ∀ c ∈ mark, isBlank c = false := by
  simp [marks, isBlank]

theorem visible_of_marked (known : mark ∈ marks) (digit : ∀ c ∈ digits, Hex.IsDigit c) :
    ∀ c ∈ mark ++ digits, isBlank c = false :=
  List.forall_mem_append.2
    ⟨visible_of_mark mark known, fun c member => Hex.isBlank_of_isDigit (digit c member)⟩

theorem exists_mark (text : String) :
    ∃ mark ∈ marks, (trim text).toList = mark ++ (digitsOf text).toList := by
  rw [trim, String.toList_ofList]
  unfold digitsOf
  dsimp only
  split
  · rename_i rest marked
    rw [String.toList_ofList]
    exact ⟨['0', 'x'], by decide, dropStart?_eq_some marked⟩
  · split
    · rename_i rest marked
      rw [String.toList_ofList]
      exact ⟨['0', 'X'], by decide, dropStart?_eq_some marked⟩
    · rw [String.toList_ofList]
      exact ⟨[], by decide, rfl⟩

theorem dropStart?_of_isDigit {c : Char} (noDigit : ¬ Hex.IsDigit c)
    (digit : ∀ c ∈ digits, Hex.IsDigit c) : dropStart? ['0', c] digits = none := by
  cases dropped : dropStart? ['0', c] digits with
  | none => rfl
  | some rest =>
    rw [dropStart?_eq_some dropped] at digit
    exact absurd (digit c (by simp)) noDigit

theorem digitsOf_of_mark (known : mark ∈ marks) (digit : ∀ c ∈ digits, Hex.IsDigit c)
    (whole : (trim text).toList = mark ++ digits) : digitsOf text = String.ofList digits := by
  have small : dropStart? ['0', 'x'] digits = none := dropStart?_of_isDigit (by decide) digit
  have large : dropStart? ['0', 'X'] digits = none := dropStart?_of_isDigit (by decide) digit
  rw [trim, String.toList_ofList] at whole
  simp only [marks, List.mem_cons, List.not_mem_nil, or_false] at known
  rcases known with rfl | rfl | rfl
  · simp [digitsOf, whole, small, large]
  · simp [digitsOf, whole, dropStart?]
  · simp [digitsOf, whole, dropStart?]

/-- Apart from white space around it and one mark, the text is digits: the forty of an address or
the sixty-four of a public key. -/
structure Writes (text : String) (digits : List Char) : Prop where
  marked : ∃ mark ∈ marks, (trim text).toList = mark ++ digits
  length : digits.length = 40 ∨ digits.length = 64
  digit : ∀ c ∈ digits, Hex.IsDigit c

theorem toList_ofBytes (long : 20 ≤ bytes.length) :
    (ofBytes bytes).bytes.toList = bytes.drop (bytes.length - 20) := by
  have none : 20 - bytes.length = 0 := by omega
  change List.replicate (20 - bytes.length) 0 ++ bytes.drop (bytes.length - 20) = _
  rw [none, List.replicate_zero, List.nil_append]

theorem ofBytes_bytes (address : Address) : ofBytes address.bytes.toList = address := by
  have length := address.bytes.length_toList
  have same : (ofBytes address.bytes.toList).bytes = address.bytes := by
    apply FixedBytes.ext_toList
    rw [toList_ofBytes length.ge, length]
    rfl
  cases address
  exact congrArg Address.mk same

theorem length_of_writes (writes : Writes text digits) (spelled : Hex.Spells digits bytes) :
    bytes.length = 20 ∨ bytes.length = 32 := by
  have twice := Hex.length_of_spells spelled
  have length := writes.length
  omega

theorem parse_of_writes (writes : Writes text digits) (spelled : Hex.Spells digits bytes) :
    parse text = .ok (ofBytes bytes) := by
  obtain ⟨mark, known, whole⟩ := writes.marked
  have decoded : Hex.decode (String.ofList digits) = .ok bytes := by
    rw [Hex.decode_eq_ok_iff, String.toList_ofList]
    exact spelled
  rw [parse, digitsOf_of_mark known writes.digit whole, decoded]
  exact if_pos (length_of_writes writes spelled)

theorem writes_of_parse (h : parse text = .ok address) :
    ∃ digits bytes, Writes text digits ∧ Hex.Spells digits bytes ∧ address = ofBytes bytes := by
  unfold parse at h
  split at h
  · cases h
  · rename_i bytes decoded
    have marked := exists_mark text
    have spelled := Hex.decode_eq_ok_iff.1 decoded
    -- From here on only what the digits spell matters, not how they are found.
    generalize (digitsOf text).toList = digits at marked spelled
    split at h
    · rename_i length
      cases h
      have twice := Hex.length_of_spells spelled
      exact ⟨digits, bytes, ⟨marked, by omega, Hex.isDigit_of_spells spelled⟩, spelled, rfl⟩
    · cases h

theorem unbroken_of_parse (h : parse text = .ok address) : IsUnbroken (trim text) := by
  obtain ⟨digits, bytes, writes, -, -⟩ := writes_of_parse h
  obtain ⟨mark, known, whole⟩ := writes.marked
  rw [IsUnbroken, whole]
  exact visible_of_marked known writes.digit

theorem parse_eq_ok_iff : parse text = .ok address ↔
    ∃ digits bytes, Writes text digits ∧ Hex.Spells digits bytes ∧
      address.bytes.toList = bytes.drop (bytes.length - 20) := by
  have last {digits : List Char} {bytes : ByteString} (writes : Writes text digits)
      (spelled : Hex.Spells digits bytes) :
      (ofBytes bytes).bytes.toList = bytes.drop (bytes.length - 20) := by
    have length := length_of_writes writes spelled
    exact toList_ofBytes (by omega)
  constructor
  · intro h
    obtain ⟨digits, bytes, writes, spelled, rfl⟩ := writes_of_parse h
    exact ⟨digits, bytes, writes, spelled, last writes spelled⟩
  · rintro ⟨digits, bytes, writes, spelled, same⟩
    have ends : address.bytes.toList = (ofBytes bytes).bytes.toList :=
      same.trans (last writes spelled).symm
    rw [parse_of_writes writes spelled]
    cases address
    exact congrArg Except.ok (congrArg Address.mk (FixedBytes.ext_toList ends).symm)

theorem exists_parse_iff : (∃ address, parse text = .ok address) ↔ ∃ digits, Writes text digits := by
  constructor
  · rintro ⟨address, read⟩
    obtain ⟨digits, _, writes, -⟩ := writes_of_parse read
    exact ⟨digits, writes⟩
  · rintro ⟨digits, writes⟩
    have even : digits.length % 2 = 0 := by
      have length := writes.length
      omega
    obtain ⟨bytes, spelled⟩ := Hex.exists_spells even writes.digit
    exact ⟨_, parse_of_writes writes spelled⟩

theorem unbroken_written (known : mark ∈ marks) (bytes : ByteString) :
    IsUnbroken (String.ofList (mark ++ Hex.encodeChars bytes)) := by
  have digit := Hex.isDigit_of_spells (Hex.spells_encodeChars bytes)
  rw [IsUnbroken, String.toList_ofList]
  exact visible_of_marked known digit

theorem parse_written (known : mark ∈ marks) (length : bytes.length = 20 ∨ bytes.length = 32) :
    parse (String.ofList (mark ++ Hex.encodeChars bytes)) = .ok (ofBytes bytes) := by
  have spelled := Hex.spells_encodeChars bytes
  have twice := Hex.length_of_spells spelled
  refine parse_of_writes ⟨⟨mark, known, ?_⟩, by omega, Hex.isDigit_of_spells spelled⟩ spelled
  rw [trim_of_unbroken (unbroken_written known bytes), String.toList_ofList]

theorem text_eq (address : Address) :
    address.text = String.ofList (['0', 'x'] ++ Hex.encodeChars address.bytes.toList) := by
  rw [text, Hex.encode, String.ofList_append]

theorem unbroken_text (address : Address) : IsUnbroken address.text := by
  rw [text_eq]
  exact unbroken_written (by decide) _

theorem text_ne_empty (address : Address) : address.text ≠ "" := by
  rw [text_eq]
  exact mt String.ofList_eq_empty_iff.1 (List.cons_ne_nil _ _)

theorem parse_text (address : Address) : parse address.text = .ok address := by
  rw [text_eq, parse_written (by decide) (Or.inl address.bytes.length_toList), ofBytes_bytes]

theorem parse_publicKey (key : PublicKey) :
    parse (Hex.encode key.toList) = .ok (ofPublicKey key) := by
  have unmarked : [] ∈ marks := by decide
  have written := parse_written unmarked (Or.inr key.length_toList)
  rwa [List.nil_append] at written

/-- A text is read as an address exactly if it is forty or sixty-four digits behind at most one
mark, white space around it apart, and then as the last twenty bytes that they spell. Addresses are
read back as they are printed, and the digits of a public key as the address of its account. The
number that an address spells is that of any longer or shorter bytes it is made of, cut to 160
bits. -/
theorem address_text_exact :
    (∀ text address, parse text = .ok address ↔
      ∃ digits bytes, Writes text digits ∧ Hex.Spells digits bytes ∧
        address.bytes.toList = bytes.drop (bytes.length - 20)) ∧
    (∀ text, (∃ address, parse text = .ok address) ↔ ∃ digits, Writes text digits) ∧
    (∀ address, parse address.text = .ok address) ∧
    (∀ key, parse (Hex.encode key.toList) = .ok (ofPublicKey key)) ∧
    (∀ account : Account,
      parse (Hex.encode account.publicKey.toList) = .ok account.address) ∧
    ∀ bytes, ByteString.ofBigEndian (ofBytes bytes).bytes.toList =
      ByteString.ofBigEndian bytes % 2 ^ 160 := by
  refine ⟨fun _ _ => parse_eq_ok_iff, fun _ => exists_parse_iff, parse_text, parse_publicKey,
    fun account => parse_publicKey account.publicKey, fun bytes => ?_⟩
  rw [show (2 : Nat) ^ 160 = 256 ^ 20 by decide]
  exact ByteString.ofBigEndian_suffix 20 bytes

end LedgerWallet.Address
