import Mathlib.Data.List.DropRight
import LedgerWallet.Proofs.Bytes.Hex
import LedgerWallet.Proofs.Text.Numerals
import LedgerWallet.Text.Blank

namespace LedgerWallet

namespace Text

def IsUnbroken (text : String) : Prop := ∀ c ∈ text.toList, isBlank c = false

def IsGap (text : String) : Prop := text ≠ "" ∧ isAllBlank text = true

instance (text : String) : Decidable (IsGap text) := inferInstanceAs (Decidable (_ ∧ _))

theorem wordsOfChars_cons (c : Char) (rest : List Char) :
    wordsOfChars (c :: rest) =
      if isBlank c then wordsOfChars rest
      else
        match rest, wordsOfChars rest with
        | d :: _, word :: words => if isBlank d then [c] :: word :: words else (c :: word) :: words
        | _, words => [c] :: words := rfl

theorem wordsOfChars_eq_splitOnP (chars : List Char) :
    wordsOfChars chars = (chars.splitOnP isBlank).filter fun word => !word.isEmpty := by
  -- Between two blanks lies an empty piece, and before a blank the first piece is empty.
  induction chars with
  | nil => rfl
  | cons c rest ih =>
    rw [List.splitOnP_cons_eq_if_modifyHead, wordsOfChars_cons, ih]
    cases blank : isBlank c with
    | true => rfl
    | false =>
      cases rest with
      | nil => rfl
      | cons d rest =>
        rw [List.splitOnP_cons_eq_if_modifyHead]
        cases next : isBlank d with
        | true =>
          cases later : (rest.splitOnP isBlank).filter fun word => !word.isEmpty <;>
            simp [next, later]
        | false =>
          cases pieces : rest.splitOnP isBlank with
          | nil => exact absurd pieces (List.splitOnP_ne_nil _ _)
          | cons piece pieces => simp [next]

theorem wordsOfChars_blanks_append {blanks : List Char} (blank : ∀ c ∈ blanks, isBlank c = true)
    (chars : List Char) : wordsOfChars (blanks ++ chars) = wordsOfChars chars := by
  induction blanks with
  | nil => rfl
  | cons c blanks ih =>
    obtain ⟨first, others⟩ := List.forall_mem_cons.1 blank
    rw [List.cons_append, wordsOfChars_cons, if_pos first, ih others]

theorem words_append_gap (left right : String) {gap : String} (isGap : IsGap gap) :
    words (left ++ gap ++ right) = words left ++ words right := by
  have all : ∀ c ∈ gap.toList, isBlank c = true := List.all_eq_true.1 isGap.2
  rw [words, words, words, String.toList_append, String.toList_append]
  cases chars : gap.toList with
  | nil => exact absurd (String.toList_eq_nil_iff.1 chars) isGap.1
  | cons c others =>
    rw [chars] at all
    obtain ⟨first, later⟩ := List.forall_mem_cons.1 all
    rw [← wordsOfChars_blanks_append later right.toList, List.append_assoc, List.cons_append]
    simp only [wordsOfChars_eq_splitOnP]
    rw [List.splitOnP_append_cons _ _ first, List.filter_append, List.map_append]

theorem words_append_space (left right : String) :
    words (left ++ " " ++ right) = words left ++ words right :=
  words_append_gap left right (by decide)

theorem words_of_unbroken {text : String} (unbroken : IsUnbroken text) (some : text ≠ "") :
    words text = [text] := by
  have one : text.toList.splitOnP isBlank = [text.toList] := List.splitOnP_eq_singleton unbroken
  have visible : text.toList.isEmpty = false := by simpa using some
  simp [words, wordsOfChars_eq_splitOnP, one, visible]

/-- The characters of a text are white space and the words between it, each as long as can be. -/
inductive SplitsInto : List Char → List String → Prop where
  | nil : SplitsInto [] []
  | blank {c : Char} {chars : List Char} {parts : List String} (blank : isBlank c = true)
      (later : SplitsInto chars parts) : SplitsInto (c :: chars) parts
  | word {word : String} {chars : List Char} {parts : List String} (unbroken : IsUnbroken word)
      (some : word ≠ "") (ends : ∀ c ∈ chars.head?, isBlank c = true)
      (later : SplitsInto chars parts) : SplitsInto (word.toList ++ chars) (word :: parts)

theorem wordsOfChars_append {word chars : List Char} (some : word ≠ [])
    (visible : ∀ c ∈ word, isBlank c = false) (ends : ∀ c ∈ chars.head?, isBlank c = true) :
    wordsOfChars (word ++ chars) = word :: wordsOfChars chars := by
  have one : word.splitOnP isBlank = [word] := List.splitOnP_eq_singleton visible
  have shown : word.isEmpty = false := List.isEmpty_eq_false_iff.2 some
  cases chars with
  | nil => simp [wordsOfChars_eq_splitOnP, one, shown]
  | cons c chars =>
    have blank : isBlank c = true := ends c rfl
    rw [wordsOfChars_cons c, if_pos blank, wordsOfChars_eq_splitOnP, wordsOfChars_eq_splitOnP,
      List.splitOnP_append_cons _ _ blank, List.filter_append, one]
    simp [shown]

theorem SplitsInto.words_eq {chars : List Char} {parts : List String} (h : SplitsInto chars parts) :
    (wordsOfChars chars).map String.ofList = parts := by
  induction h with
  | nil => rfl
  | blank blank _ ih => rw [wordsOfChars_cons, if_pos blank, ih]
  | word unbroken some ends _ ih =>
    have nonempty := mt String.toList_eq_nil_iff.1 some
    rw [wordsOfChars_append nonempty unbroken ends, List.map_cons, ih, String.ofList_toList]

theorem SplitsInto.ofList {word chars : List Char} {parts : List String}
    (visible : ∀ c ∈ word, isBlank c = false) (some : word ≠ [])
    (ends : ∀ c ∈ chars.head?, isBlank c = true) (later : SplitsInto chars parts) :
    SplitsInto (word ++ chars) (String.ofList word :: parts) := by
  have unbroken : IsUnbroken (String.ofList word) := by rwa [IsUnbroken, String.toList_ofList]
  have nonempty : String.ofList word ≠ "" := mt String.ofList_eq_empty_iff.1 some
  have split := SplitsInto.word unbroken nonempty ends later
  rwa [String.toList_ofList] at split

theorem SplitsInto.exists_cons {chars : List Char} {parts : List String}
    (h : SplitsInto chars parts) (c : Char) : ∃ parts, SplitsInto (c :: chars) parts := by
  cases shown : isBlank c with
  | true => exact ⟨parts, .blank shown h⟩
  | false =>
    have single : ∀ d ∈ [c], isBlank d = false := List.forall_mem_singleton.2 shown
    cases h with
    | nil => exact ⟨_, .ofList single (List.cons_ne_nil _ _) (by simp) .nil⟩
    | blank next later =>
      exact ⟨_, .ofList single (List.cons_ne_nil _ _) (by simpa using next) (.blank next later)⟩
    | @word word _ _ unbroken _ ends later =>
      have visible : ∀ d ∈ c :: word.toList, isBlank d = false :=
        List.forall_mem_cons.2 ⟨shown, unbroken⟩
      exact ⟨_, .ofList visible (List.cons_ne_nil _ _) ends later⟩

theorem exists_splitsInto (chars : List Char) : ∃ parts, SplitsInto chars parts := by
  induction chars with
  | nil => exact ⟨[], .nil⟩
  | cons c chars ih =>
    obtain ⟨parts, split⟩ := ih
    exact split.exists_cons c

theorem words_eq_iff {text : String} {parts : List String} :
    words text = parts ↔ SplitsInto text.toList parts := by
  constructor
  · rintro rfl
    obtain ⟨parts, split⟩ := exists_splitsInto text.toList
    rw [words, split.words_eq]
    exact split
  · exact fun split => split.words_eq

theorem trim_of_unbroken {text : String} (unbroken : IsUnbroken text) : trim text = text := by
  have start : trimStartChars text.toList = text.toList :=
    List.dropWhile_eq_self_iff.2 fun some => by simp [unbroken _ (List.getElem_mem some)]
  have whole : trimEndChars text.toList = text.toList :=
    List.rdropWhile_eq_self_iff.2 fun some => by simp [unbroken _ (List.getLast_mem some)]
  rw [trim, trimChars, start, whole, String.ofList_toList]

theorem trimStartChars_eq_self {front chars : List Char}
    (h : trimStartChars chars = chars) (within : front <+: chars) :
    trimStartChars front = front := by
  cases front with
  | nil => rfl
  | cons c rest =>
    obtain ⟨behind, rfl⟩ := within
    have visible := List.dropWhile_eq_self_iff.1 h (Nat.succ_pos _)
    exact List.dropWhile_eq_self_iff.2 fun _ => visible

theorem trimStartChars_trimChars (chars : List Char) :
    trimStartChars (trimChars chars) = trimChars chars := by
  have start : trimStartChars (trimStartChars chars) = trimStartChars chars :=
    List.dropWhile_idempotent isBlank _
  have front : trimChars chars <+: trimStartChars chars := List.rdropWhile_prefix isBlank _
  exact trimStartChars_eq_self start front

theorem trimEndChars_trimChars (chars : List Char) :
    trimEndChars (trimChars chars) = trimChars chars :=
  List.rdropWhile_idempotent isBlank _

theorem trim_trim (text : String) : trim (trim text) = trim text := by
  rw [trim, trim, String.toList_ofList, trimChars, trimStartChars_trimChars,
    trimEndChars_trimChars]

theorem trim_empty : trim "" = "" := by decide +kernel

theorem trimChars_append_blank (chars : List Char) {c : Char} (blank : isBlank c = true) :
    trimChars (chars ++ [c]) = trimChars chars := by
  have nothing : trimStartChars [c] = [] := by
    rw [trimStartChars, List.dropWhile_cons, if_pos blank]
    rfl
  rw [trimChars, trimChars, trimStartChars, List.dropWhile_append]
  cases visible : trimStartChars chars with
  | nil =>
    rw [trimStartChars] at visible nothing
    rw [visible, if_pos List.isEmpty_nil, nothing]
  | cons first rest =>
    rw [trimStartChars] at visible
    rw [visible, if_neg (by simp)]
    exact List.rdropWhile_concat_pos isBlank _ c blank

theorem trimChars_append_blanks (chars : List Char) {blanks : List Char}
    (blank : ∀ c ∈ blanks, isBlank c = true) : trimChars (chars ++ blanks) = trimChars chars := by
  induction blanks generalizing chars with
  | nil => rw [List.append_nil]
  | cons c blanks ih =>
    obtain ⟨first, others⟩ := List.forall_mem_cons.1 blank
    rw [List.append_cons, ih _ others, trimChars_append_blank chars first]

theorem exists_blanks_behind (chars : List Char) :
    ∃ blanks, (∀ c ∈ blanks, isBlank c = true) ∧ trimEndChars chars ++ blanks = chars :=
  ⟨chars.rtakeWhile isBlank, fun _ => List.mem_rtakeWhile_imp,
    List.rdropWhile_append_rtakeWhile⟩

theorem prefix_trimEndChars {front chars : List Char} (visible : ∀ c ∈ front, isBlank c = false)
    (within : front <+: chars) : front <+: trimEndChars chars := by
  obtain ⟨blanks, blank, parts⟩ := exists_blanks_behind chars
  rcases List.prefix_or_prefix_of_prefix within ⟨blanks, parts⟩ with shorter | ⟨tail, longer⟩
  · exact shorter
  · cases tail with
    | nil =>
      rw [List.append_nil] at longer
      exact longer ▸ List.prefix_refl _
    | cons c tail =>
      have behind : c :: tail <+: blanks := by
        rwa [← List.prefix_append_right_inj (trimEndChars chars), longer, parts]
      have shown : isBlank c = false := visible c (longer ▸ by simp)
      rw [blank c (behind.subset List.mem_cons_self)] at shown
      cases shown

theorem trim_eq_empty_iff {text : String} : trim text = "" ↔ isAllBlank text = true := by
  have ends : trim text = "" ↔ trimChars text.toList = [] := by
    rw [trim, ← String.toList_inj, String.toList_ofList, String.toList_empty]
  rw [ends, isAllBlank, List.all_eq_true]
  constructor
  · intro none c member
    have left : ∀ c ∈ trimStartChars text.toList, isBlank c = true :=
      List.rdropWhile_eq_nil_iff.1 none
    by_cases start : trimStartChars text.toList = []
    · exact List.dropWhile_eq_nil_iff.1 start c member
    · -- What stands first behind the leading white space is not white space.
      have visible : isBlank ((trimStartChars text.toList).head start) = false :=
        List.head_dropWhile_not isBlank start
      rw [left _ (List.head_mem start)] at visible
      cases visible
  · intro blank
    have start : trimStartChars text.toList = [] := List.dropWhile_eq_nil_iff.2 blank
    rw [trimChars, start]
    rfl

theorem wordsOfChars_trimStartChars (chars : List Char) :
    wordsOfChars (trimStartChars chars) = wordsOfChars chars := by
  have blank : ∀ c ∈ chars.takeWhile isBlank, isBlank c = true := fun _ => List.mem_takeWhile_imp
  have whole : chars.takeWhile isBlank ++ trimStartChars chars = chars :=
    List.takeWhile_append_dropWhile
  rw [← wordsOfChars_blanks_append blank, whole]

theorem wordsOfChars_append_blanks (chars : List Char) {blanks : List Char}
    (blank : ∀ c ∈ blanks, isBlank c = true) : wordsOfChars (chars ++ blanks) = wordsOfChars chars := by
  cases blanks with
  | nil => rw [List.append_nil]
  | cons c blanks =>
    obtain ⟨first, others⟩ := List.forall_mem_cons.1 blank
    have none : wordsOfChars (blanks ++ []) = [] := wordsOfChars_blanks_append others []
    rw [List.append_nil] at none
    simp only [wordsOfChars_eq_splitOnP] at none ⊢
    rw [List.splitOnP_append_cons _ _ first, List.filter_append, none, List.append_nil]

theorem wordsOfChars_trimEndChars (chars : List Char) :
    wordsOfChars (trimEndChars chars) = wordsOfChars chars := by
  obtain ⟨blanks, blank, whole⟩ := exists_blanks_behind chars
  rw [← wordsOfChars_append_blanks (trimEndChars chars) blank, whole]

theorem words_trim (text : String) : words (trim text) = words text := by
  rw [words, words, trim, String.toList_ofList, trimChars, wordsOfChars_trimEndChars,
    wordsOfChars_trimStartChars]

theorem dropStart?_eq_some {start chars rest : List Char}
    (h : dropStart? start chars = some rest) : chars = start ++ rest := by
  induction start generalizing chars with
  | nil => exact Option.some.inj h
  | cons s start ih =>
    cases chars with
    | nil => cases h
    | cons c chars =>
      unfold dropStart? at h
      split at h
      · rename_i same
        rw [same, ih h]
        rfl
      · cases h

theorem dropStart?_append (start rest : List Char) : dropStart? start (start ++ rest) = some rest := by
  induction start with
  | nil => rfl
  | cons s start ih =>
    rw [List.cons_append, dropStart?, if_pos rfl]
    exact ih

theorem isBlank_of_toNat {c : Char} (low : 33 ≤ c.toNat) (high : c.toNat < 128) :
    isBlank c = false := by
  simp only [isBlank, Bool.or_eq_false_iff, Bool.and_eq_false_iff, decide_eq_false_iff_not,
    beq_eq_false_iff_ne]
  omega

end Text

open Text

namespace Hex

theorem isBlank_of_isDigit {c : Char} (h : IsDigit c) : isBlank c = false := by
  have range : 48 ≤ c.toNat ∧ c.toNat ≤ 102 := by
    rcases h with ⟨low, high⟩ | ⟨low, high⟩ | ⟨low, high⟩
    · exact ⟨low, Nat.le_trans high (by decide)⟩
    · exact ⟨Nat.le_trans (by decide) low, high⟩
    · exact ⟨Nat.le_trans (by decide) low, Nat.le_trans high (by decide)⟩
  exact isBlank_of_toNat (by omega) (by omega)

end Hex

namespace Numeral

theorem isBlank_of_isDigit {c : Char} (h : c.isDigit = true) : isBlank c = false :=
  Hex.isBlank_of_isDigit (Or.inl (isDigit_iff.1 h))

theorem unbroken_of_spells {text : String} {n : Nat} (h : Spells text n) : IsUnbroken text := by
  obtain ⟨digits, signed, isDigits, -⟩ := h
  have visible : ∀ c ∈ digits, isBlank c = false := fun c member =>
    isBlank_of_isDigit (isDigits.2 c member)
  rw [IsUnbroken]
  rcases signed with same | same
  · rwa [same]
  · have plus : isBlank '+' = false := by decide
    rw [same]
    exact List.forall_mem_cons.2 ⟨plus, visible⟩

end Numeral

end LedgerWallet
