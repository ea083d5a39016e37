import Mathlib.Data.List.DropRight
import LedgerWallet.Node.Rpc

namespace LedgerWallet.Rpc

variable {chars base : List Char} {text address front : String}

def IsBare (chars : List Char) : Prop := chars.getLast? ≠ some '/'

theorem trimSlashes_append_slash (chars : List Char) :
    trimSlashes (chars ++ ['/']) = trimSlashes chars :=
  List.rdropWhile_concat_pos _ _ _ (by decide)

theorem trimSlashes_append_slashes (chars : List Char) (count : Nat) :
    trimSlashes (chars ++ List.replicate count '/') = trimSlashes chars := by
  induction count with
  | zero => rw [List.replicate_zero, List.append_nil]
  | succ count ih =>
    rw [List.replicate_succ', ← List.append_assoc, trimSlashes_append_slash, ih]

theorem trimSlashes_eq_self_iff : trimSlashes chars = chars ↔ IsBare chars := by
  have kept : trimSlashes chars = chars ↔ ∀ some : chars ≠ [], ¬decide (chars.getLast some = '/') :=
    List.rdropWhile_eq_self_iff
  rw [kept, IsBare]
  cases chars with
  | nil => simp
  | cons c rest => simp [List.getLast?_eq_some_getLast]

theorem isBare_trimSlashes (chars : List Char) : IsBare (trimSlashes chars) :=
  trimSlashes_eq_self_iff.1 (List.rdropWhile_idempotent _ _)

theorem exists_slashes_behind (chars : List Char) :
    ∃ count, chars = trimSlashes chars ++ List.replicate count '/' := by
  have cut : chars.rtakeWhile (· = '/') = List.replicate _ '/' :=
    List.eq_replicate_of_mem fun c member => by simpa using List.mem_rtakeWhile_imp member
  have whole : trimSlashes chars ++ chars.rtakeWhile (· = '/') = chars :=
    List.rdropWhile_append_rtakeWhile
  rw [cut] at whole
  exact ⟨_, whole.symm⟩

theorem trimSlashes_eq_iff :
    trimSlashes chars = base ↔ IsBare base ∧ ∃ count, chars = base ++ List.replicate count '/' := by
  constructor
  · rintro rfl
    exact ⟨isBare_trimSlashes chars, exists_slashes_behind chars⟩
  · rintro ⟨bare, count, rfl⟩
    rw [trimSlashes_append_slashes, trimSlashes_eq_self_iff.2 bare]

def EndsInPath (text : String) : Prop := pathEnd <:+ text.toList

def slashed (base : String) (count : Nat) : String :=
  base ++ String.ofList (List.replicate count '/')

/-- The address that a text is completed to: the text without the slashes at its end, and with
`/rpc` added only where it is missing. -/
inductive Completes : String → String → Prop where
  | kept {base : String} (ends : EndsInPath base) (count : Nat) :
      Completes (slashed base count) base
  | added {base : String} (bare : IsBare base.toList) (lacks : ¬EndsInPath base) (count : Nat) :
      Completes (slashed base count) (base ++ "/rpc")

theorem EndsInPath.isBare (h : EndsInPath text) : IsBare text.toList := by
  obtain ⟨front, parts⟩ := h
  rw [IsBare, ← parts, pathEnd]
  simp

theorem endsInPath_append (front : String) : EndsInPath (front ++ "/rpc") := by
  rw [EndsInPath, String.toList_append]
  exact List.suffix_append _ _

theorem trimSlashes_slashed (text : String) (count : Nat) :
    trimSlashes (slashed text count).toList = trimSlashes text.toList := by
  rw [slashed, String.toList_append, String.toList_ofList, trimSlashes_append_slashes]

theorem endpoint_slashed (text : String) (count : Nat) :
    endpoint (slashed text count) = endpoint text := by
  rw [endpoint, endpoint, endpointChars, endpointChars, trimSlashes_slashed]

theorem endpoint_of_endsInPath (ends : EndsInPath text) : endpoint text = text := by
  have same : trimSlashes text.toList = text.toList := trimSlashes_eq_self_iff.2 ends.isBare
  have known : pathEnd.isSuffixOf text.toList = true := List.isSuffixOf_iff_suffix.2 ends
  rw [endpoint, endpointChars, same, if_pos known, String.ofList_toList]

theorem endpoint_of_lacks (bare : IsBare text.toList) (lacks : ¬EndsInPath text) :
    endpoint text = text ++ "/rpc" := by
  have same : trimSlashes text.toList = text.toList := trimSlashes_eq_self_iff.2 bare
  have missing : ¬pathEnd.isSuffixOf text.toList = true := mt List.isSuffixOf_iff_suffix.1 lacks
  rw [endpoint, endpointChars, same, if_neg missing, String.ofList_append, String.ofList_toList]
  rfl

theorem Completes.endpoint_eq (h : Completes text address) : endpoint text = address := by
  cases h with
  | kept ends count => rw [endpoint_slashed, endpoint_of_endsInPath ends]
  | added bare lacks count => rw [endpoint_slashed, endpoint_of_lacks bare lacks]

theorem exists_bare_front (text : String) :
    ∃ base count, IsBare base.toList ∧ text = slashed base count := by
  obtain ⟨bare, count, parts⟩ := trimSlashes_eq_iff.1 (rfl : trimSlashes text.toList = _)
  refine ⟨String.ofList (trimSlashes text.toList), count, ?_, ?_⟩
  · rwa [String.toList_ofList]
  · rw [slashed, ← String.ofList_append, ← parts, String.ofList_toList]

theorem exists_completes (text : String) : ∃ address, Completes text address := by
  obtain ⟨base, count, bare, rfl⟩ := exists_bare_front text
  by_cases ends : EndsInPath base
  · exact ⟨base, .kept ends count⟩
  · exact ⟨base ++ "/rpc", .added bare ends count⟩

theorem endpoint_eq_iff : endpoint text = address ↔ Completes text address := by
  constructor
  · rintro rfl
    obtain ⟨address, completes⟩ := exists_completes text
    rwa [completes.endpoint_eq]
  · exact Completes.endpoint_eq

theorem Completes.endsInPath (h : Completes text address) : EndsInPath address := by
  cases h with
  | kept ends => exact ends
  | added => exact endsInPath_append _

theorem endsInPath_endpoint (text : String) : EndsInPath (endpoint text) :=
  (endpoint_eq_iff.1 rfl).endsInPath

theorem endpoint_endpoint (text : String) : endpoint (endpoint text) = endpoint text :=
  endpoint_of_endsInPath (endsInPath_endpoint text)

theorem endpoint_eq_twice_iff :
    endpoint text = front ++ "/rpc" ++ "/rpc" ↔
      ∃ count, text = slashed (front ++ "/rpc" ++ "/rpc") count := by
  constructor
  · intro twice
    obtain ⟨address, completes⟩ := exists_completes text
    rw [completes.endpoint_eq] at twice
    cases completes with
    | kept ends count => exact ⟨count, by rw [twice]⟩
    | added bare lacks count =>
      rw [String.append_left_inj] at twice
      exact absurd (twice ▸ endsInPath_append front) lacks
  · rintro ⟨count, rfl⟩
    rw [endpoint_slashed, endpoint_of_endsInPath (endsInPath_append _)]

/-- An address ends with `/rpc` and with no slash, it is its own address, and slashes behind a text
make no difference. A text is completed to its address and to no other text, and where this ends
with `/rpc` twice, so did the text. -/
theorem endpoint_canonical (text : String) :
    EndsInPath (endpoint text) ∧ IsBare (endpoint text).toList ∧
      endpoint (endpoint text) = endpoint text ∧
      (∀ count, endpoint (slashed text count) = endpoint text) ∧
      (∀ address, endpoint text = address ↔ Completes text address) ∧
      ∀ front, endpoint text = front ++ "/rpc" ++ "/rpc" ↔
        ∃ count, text = slashed (front ++ "/rpc" ++ "/rpc") count := by
  have ends := endsInPath_endpoint text
  exact ⟨ends, ends.isBare, endpoint_endpoint text, endpoint_slashed text,
    fun _ => endpoint_eq_iff, fun _ => endpoint_eq_twice_iff⟩

example : endpoint "rpc" = "rpc/rpc" ∧ endpoint "/rpc///" = "/rpc" ∧ endpoint "//" = "/rpc" := by
  decide

end LedgerWallet.Rpc
