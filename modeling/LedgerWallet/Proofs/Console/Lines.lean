import LedgerWallet.Proofs.Console.Prompting

namespace LedgerWallet

namespace Utf8

theorem encode_eq_flatMap (text : String) :
    encode text = text.toList.flatMap String.utf8EncodeChar := by
  have bytes : text.toByteArray = (text.toList.flatMap String.utf8EncodeChar).toByteArray := by
    rw [← String.utf8Encode_toList]
    rfl
  rw [encode, String.toUTF8_eq_toByteArray, bytes, List.data_toByteArray]

theorem encode_append (left right : String) :
    encode (left ++ right) = encode left ++ encode right := by
  simp only [encode_eq_flatMap, String.toList_append, List.flatMap_append]

theorem lineBreak_of_mem_utf8EncodeChar {c : Char} (member : 10 ∈ String.utf8EncodeChar c) :
    c = '\n' := by
  have low : ∀ n : Nat, 10 = UInt8.ofNat n → n < 256 → n = 10 := by
    intro n same small
    have value := congrArg UInt8.toNat same
    rw [UInt8.toNat_ofNat_of_lt' small] at value
    exact value.symm
  have single : c.val.toNat = 10 := by
    unfold String.utf8EncodeChar at member
    dsimp only at member
    split at member
    · rw [List.mem_singleton] at member
      exact low _ member (by omega)
    · exfalso
      split at member
      · simp only [List.mem_cons, List.not_mem_nil, or_false] at member
        rcases member with same | same
        all_goals
          have byte := low _ same (by omega)
          omega
      · split at member
        · simp only [List.mem_cons, List.not_mem_nil, or_false] at member
          rcases member with same | same | same
          all_goals
            have byte := low _ same (by omega)
            omega
        · simp only [List.mem_cons, List.not_mem_nil, or_false] at member
          rcases member with same | same | same | same
          all_goals
            have byte := low _ same (by omega)
            omega
  exact Char.toNat_inj.1 single

theorem no_lineBreak_encode {text : String} (h : '\n' ∉ text.toList) : 10 ∉ encode text := by
  rw [encode_eq_flatMap]
  intro member
  obtain ⟨c, there, byte⟩ := List.mem_flatMap.1 member
  exact h (lineBreak_of_mem_utf8EncodeChar byte ▸ there)

end Utf8

open Text

theorem Text.trim_lineBreak (text : String) : trim (text ++ "\n") = trim text := by
  rw [trim, trim, String.toList_append]
  exact congrArg String.ofList (trimChars_append_blank text.toList (c := '\n') (by decide))

theorem splitLines_line {front : ByteString} (h : 10 ∉ front) (rest : ByteString) :
    splitLines (front ++ 10 :: rest) = (front ++ [10]) :: splitLines rest := by
  induction front with
  | nil => rfl
  | cons byte front ih =>
    obtain ⟨ne, others⟩ := not_or.1 (mt List.mem_cons.2 h)
    rw [List.cons_append, splitLines, if_neg (Ne.symm ne), ih others]
    rfl

theorem splitLines_unbroken {byte : UInt8} {rest : ByteString} (h : 10 ∉ byte :: rest) :
    splitLines (byte :: rest) = [byte :: rest] := by
  induction rest generalizing byte with
  | nil =>
    obtain ⟨ne, -⟩ := not_or.1 (mt List.mem_cons.2 h)
    rw [splitLines, if_neg (Ne.symm ne), splitLines]
  | cons next rest ih =>
    obtain ⟨ne, others⟩ := not_or.1 (mt List.mem_cons.2 h)
    rw [splitLines, if_neg (Ne.symm ne), ih others]

namespace Console

variable {text : String}

theorem splitLines_typed (unbroken : '\n' ∉ text.toList) (rest : ByteString) :
    splitLines (Utf8.encode (text ++ "\n") ++ rest) =
      Utf8.encode (text ++ "\n") :: splitLines rest := by
  have lineBreak : Utf8.encode "\n" = [10] := by decide +kernel
  rw [Utf8.encode_append, lineBreak, List.append_assoc]
  exact splitLines_line (Utf8.no_lineBreak_encode unbroken) rest

theorem textOfLine_encode (text : String) : textOfLine (Utf8.encode text) = .ok (trim text) := by
  rw [textOfLine, Utf8.decode?_encode]

theorem textOfLine_typed (text : String) :
    textOfLine (Utf8.encode (text ++ "\n")) = .ok (trim text) := by
  rw [textOfLine_encode, trim_lineBreak]

/-- The line holds the text. Only the last line of an input can be without a line break. -/
def IsLineOf (text : String) (line : ByteString) : Prop :=
  line = Utf8.encode text ∨ line = Utf8.encode (text ++ "\n")

def Answers (text : String) (lines rest : List ByteString) : Prop :=
  ∃ blanks line, (∀ blank ∈ blanks, ∃ white, isAllBlank white = true ∧ IsLineOf white blank) ∧
    IsLineOf text line ∧ lines = blanks ++ line :: rest

variable {lines rest : List ByteString}

theorem IsLineOf.textOfLine {line : ByteString} (h : IsLineOf text line) :
    textOfLine line = .ok (trim text) := by
  rcases h with rfl | rfl
  · exact textOfLine_encode text
  · exact textOfLine_typed text

theorem Answers.firstAnswer (h : Answers text lines rest) (visible : isAllBlank text = false)
    (prompt output : String) :
    ∃ printed, firstAnswer prompt lines output = (.ok (trim text), rest, printed) := by
  obtain ⟨blanks, line, blank, holds, rfl⟩ := h
  have some : trim text ≠ "" := by
    rw [Ne, trim_eq_empty_iff, visible]
    exact Bool.false_ne_true
  induction blanks generalizing output with
  | nil =>
    refine ⟨output ++ prompt, ?_⟩
    rw [List.nil_append, Console.firstAnswer, holds.textOfLine]
    exact if_neg some
  | cons first blanks ih =>
    obtain ⟨white, empty, there⟩ := blank first List.mem_cons_self
    obtain ⟨printed, answered⟩ :=
      ih (output ++ prompt) fun later member => blank later (List.mem_cons_of_mem first member)
    refine ⟨printed, ?_⟩
    rw [List.cons_append, Console.firstAnswer, there.textOfLine, trim_eq_empty_iff.2 empty]
    exact answered

theorem Answers.run_ask (h : Answers text lines rest) (visible : isAllBlank text = false)
    (question : String) (console : Console) :
    ∃ output, run (ask question) { console with input := lines } =
      (.ok (trim text), { console with input := rest, output }) := by
  obtain ⟨printed, answered⟩ := h.firstAnswer visible ("> " ++ question ++ ": ") console.output
  refine ⟨printed, ?_⟩
  rw [Console.run_ask]
  dsimp only
  rw [answered]

end Console

end LedgerWallet
