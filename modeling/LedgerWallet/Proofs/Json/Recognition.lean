import LedgerWallet.Proofs.Json.Members
import LedgerWallet.Proofs.Json.Passing

namespace LedgerWallet.Json

variable {α γ δ : Type} {isFirst : Bool} {fuel : Nat} {chars rest gap text : List Char}

/-- A reader takes the texts of a value, with white space in front of them, and no other texts. -/
def Recognizes (reader : Reader α) (valueText : List Char → α → Prop) : Prop :=
  ∀ chars value rest, reader chars = .ok (value, rest) ↔
    ∃ space text, Blank space ∧ valueText text value ∧ chars = space ++ text ++ rest

theorem Recognizes.unique {reader : Reader α} {valueText : List Char → α → Prop} {a b : α}
    (h : Recognizes reader valueText) (first : valueText text a) (second : valueText text b) :
    a = b := by
  have read := (h (text ++ []) a []).2 ⟨[], text, blank_nil, first, rfl⟩
  rw [(h (text ++ []) b []).2 ⟨[], text, blank_nil, second, rfl⟩] at read
  exact (congrArg Prod.fst (Except.ok.inj read)).symm

/-- A reader takes the texts of a value where something behind them shows their end, and no other
texts. -/
structure Accepts (reader : Reader α) (valueText : List Char → α → Prop) : Prop where
  sound : ∀ {chars a rest}, reader chars = .ok (a, rest) →
    ∃ space text, Blank space ∧ valueText text a ∧ chars = space ++ text ++ rest
  complete : ∀ {space text a rest}, Blank space → valueText text a → Delimited rest →
    reader (space ++ text ++ rest) = .ok (a, rest)

theorem Recognizes.accepts {reader : Reader α} {valueText : List Char → α → Prop}
    (h : Recognizes reader valueText) : Accepts reader valueText :=
  ⟨(h _ _ _).1, fun blank isValue _ => (h _ _ _).2 ⟨_, _, blank, isValue, rfl⟩⟩

theorem enclosed_append (space body rest : List Char) (opens closes : Char) :
    space ++ opens :: (body ++ [closes]) ++ rest =
      space ++ opens :: (body ++ closes :: rest) := by simp

theorem skipSpace_eq_cons_iff {c : Char} (noSpace : isSpace c = false) :
    skipSpace chars = c :: rest ↔ ∃ space, Blank space ∧ chars = space ++ c :: rest := by
  constructor
  · intro same
    obtain ⟨space, blank, front⟩ := eq_of_skipSpace chars
    exact ⟨space, blank, same ▸ front⟩
  · rintro ⟨space, blank, rfl⟩
    exact skipSpace_mark blank noSpace rest

theorem closeList_eq_ok_iff :
    closeList chars = .ok rest ↔ ∃ space, Blank space ∧ chars = space ++ ']' :: rest := by
  rw [← skipSpace_eq_cons_iff (by rfl), closeList]
  split
  · rename_i same
    simp [same, failBehind]
  · rename_i behind same
    rw [same]
    simp
  · rename_i behind same
    rw [same]
    split <;> simp [failBehind]
  · rename_i notNil notClose notComma
    exact ⟨fun h => (by cases h), fun same => absurd same (notClose rest)⟩

theorem closeObject_eq_ok_iff :
    closeObject chars = .ok rest ↔ ∃ space, Blank space ∧ chars = space ++ '}' :: rest := by
  rw [← skipSpace_eq_cons_iff (by rfl), closeObject]
  split
  · rename_i same
    simp [same, failBehind]
  · rename_i behind same
    rw [same]
    simp
  · rename_i behind same
    rw [same]
    simp [failBehind]
  · rename_i notNil notClose notComma
    exact ⟨fun h => (by cases h), fun same => absurd same (notClose rest)⟩

theorem Gap.append {space : List Char} (h : Gap isFirst gap) (blank : Blank space) :
    Gap isFirst (gap ++ space) := by
  cases isFirst with
  | true => exact Blank.append h blank
  | false =>
    obtain ⟨before, behind, blank', blank'', rfl⟩ := h
    exact ⟨before, behind ++ space, blank', blank''.append blank, by simp⟩

theorem nextItem?_some (h : nextItem? isFirst chars = .ok (some rest)) :
    ∃ gap, Gap isFirst gap ∧ chars = gap ++ rest := by
  obtain ⟨space, blank, front⟩ := eq_of_skipSpace chars
  unfold nextItem? at h
  split at h
  · cases h
  · cases h
  · rename_i behind same
    rw [same] at front
    split at h
    · rename_i first
      cases h
      rw [first]
      exact ⟨space, blank, front⟩
    · rename_i later
      have second : isFirst = false := by simpa using later
      obtain ⟨space', blank', front'⟩ := eq_of_skipSpace behind
      split at h
      · cases h
      · cases h
      · cases h
        rw [second]
        refine ⟨space ++ ',' :: space', ⟨space, space', blank, blank', rfl⟩, ?_⟩
        rw [front, List.append_assoc, List.cons_append, ← front']
  · split at h
    · rename_i first
      cases h
      rw [first]
      exact ⟨space, blank, front⟩
    · cases h

theorem nextItem?_gap (isGap : Gap isFirst gap) (begins : Begins text) (rest : List Char) :
    nextItem? isFirst (gap ++ text ++ rest) = .ok (some (text ++ rest)) := by
  cases isFirst with
  | true => exact nextItem?_first rest isGap begins
  | false =>
    obtain ⟨space, space', blank, blank', rfl⟩ := isGap
    have later := nextItem?_later rest blank' begins
    have shape : space ++ ',' :: space' ++ text ++ rest =
        space ++ ',' :: (space' ++ text ++ rest) := by simp
    rw [shape, nextItem?, skipSpace_append blank]
    exact later

theorem nextKey?_some (h : nextKey? isFirst chars = .ok (some rest)) :
    ∃ gap, Gap isFirst gap ∧ chars = gap ++ '"' :: rest := by
  obtain ⟨space, blank, front⟩ := eq_of_skipSpace chars
  unfold nextKey? at h
  split at h
  · cases h
  · cases h
  · rename_i behind same
    split at h
    · rename_i first
      cases h
      rw [first]
      exact ⟨space, blank, same ▸ front⟩
    · cases h
  · rename_i behind same
    rw [same] at front
    split at h
    · cases h
    · rename_i later
      have second : isFirst = false := by simpa using later
      obtain ⟨space', blank', front'⟩ := eq_of_skipSpace behind
      split at h
      · cases h
      · rename_i behind' same'
        cases h
        rw [second]
        refine ⟨space ++ ',' :: space', ⟨space, space', blank, blank', rfl⟩, ?_⟩
        rw [front, front', same']
        simp
      · cases h
      · cases h
  · cases h

theorem nextKey?_gap (isGap : Gap isFirst gap) (rest : List Char) :
    nextKey? isFirst (gap ++ '"' :: rest) = .ok (some rest) := by
  cases isFirst with
  | true => exact nextKey?_first isGap rest
  | false =>
    obtain ⟨space, space', blank, blank', rfl⟩ := isGap
    have later := nextKey?_later blank' rest
    rw [List.append_assoc, List.cons_append, nextKey?, skipSpace_append blank]
    exact later

theorem failMismatch_ne_ok (expected : String) (chars : List Char) (a : α) :
    failMismatch expected chars ≠ .ok a := by
  intro h
  unfold failMismatch at h
  split at h
  · cases h
  · obtain ⟨_, _, h⟩ := bind_ok h
    cases h
  · obtain ⟨_, _, h⟩ := bind_ok h
    cases h
  · obtain ⟨_, _, h⟩ := bind_ok h
    cases h
  · obtain ⟨_, _, h⟩ := bind_ok h
    cases h
  · cases h
  · cases h
  · split at h
    · obtain ⟨_, _, h⟩ := bind_ok h
      cases h
    · cases h

theorem text_recognizes (expected : String) :
    Recognizes (Shape.text expected).read StringText := by
  intro chars s rest
  constructor
  · intro h
    obtain ⟨space, blank, front⟩ := eq_of_skipSpace chars
    unfold Shape.text at h
    dsimp only at h
    split at h
    · rename_i behind same
      obtain ⟨body, spelled, rfl⟩ := readString_eq_ok_iff.1 h
      refine ⟨space, '"' :: (body ++ ['"']), blank, ⟨body, spelled, rfl⟩, ?_⟩
      rw [front, same, enclosed_append]
    · exact absurd h (failMismatch_ne_ok _ _ _)
  · rintro ⟨space, _, blank, ⟨body, spelled, rfl⟩, rfl⟩
    unfold Shape.text
    dsimp only
    rw [enclosed_append, skipSpace_mark blank (by rfl)]
    exact readString_eq_ok_iff.2 ⟨body, spelled, rfl⟩

theorem StringText.begins {s : String} (h : StringText text s) : Begins text := by
  obtain ⟨body, -, rfl⟩ := h
  exact ⟨'"', _, rfl, by decide⟩

theorem unitsText_of_charsText {decoded : List Char} (h : CharsText text decoded) :
    UnitsText text := by
  induction h with
  | nil => exact .nil
  | cons spelled _ ih =>
    cases spelled with
    | plain isPlain => exact .plain isPlain ih
    | short known => exact .short known ih
    | unit spelled => exact .unit spelled ih
    | pair spelled spelled' =>
      simp only [List.cons_append, List.append_assoc]
      exact .unit spelled (.unit spelled' ih)

theorem StringText.quoted {s : String} (h : StringText text s) : QuotedText text := by
  obtain ⟨body, spelled, rfl⟩ := h
  exact ⟨body, unitsText_of_charsText spelled, rfl⟩

theorem ValueText.begins (h : ValueText text) : Begins text := by
  obtain ⟨c, more, spelled, noSpace, noComma, noClose, -⟩ := h.head
  exact ⟨c, more, spelled, noSpace, noComma, noClose⟩

variable {item : Reader α} {valueText : List Char → α → Prop}

theorem readItems_sound {values : List α} {left : List Char}
    (recognizes : Recognizes item valueText)
    (h : readItems item fuel isFirst chars = .ok (values, left))
    (closed : closeList left = .ok rest) :
    ∃ body texts, Parts isFirst body texts ∧ List.Forall₂ valueText texts values ∧
      chars = body ++ ']' :: rest := by
  induction fuel generalizing isFirst chars values with
  | zero => cases h
  | succ fuel ih =>
    obtain ⟨next, found, h⟩ := bind_ok h
    cases next with
    | none =>
      cases h
      obtain ⟨space, blank, rfl⟩ := closeList_eq_ok_iff.1 closed
      exact ⟨space, [], .nil blank, .nil, rfl⟩
    | some behind =>
      obtain ⟨⟨value, behind'⟩, read, h⟩ := bind_ok h
      obtain ⟨⟨others, left'⟩, more, h⟩ := bind_ok h
      cases h
      obtain ⟨gap, isGap, rfl⟩ := nextItem?_some found
      obtain ⟨space, text, blank, isValue, rfl⟩ := (recognizes _ _ _).1 read
      obtain ⟨body, texts, parts, areValues, rfl⟩ := ih more
      refine ⟨(gap ++ space) ++ text ++ body, text :: texts, .cons (isGap.append blank) parts,
        .cons isValue areValues, ?_⟩
      simp

theorem readItems_complete {values : List α} {body : List Char} {texts : List (List Char)}
    (recognizes : Recognizes item valueText)
    (begins : ∀ text value, valueText text value → Begins text) (parts : Parts isFirst body texts)
    (areValues : List.Forall₂ valueText texts values) (enough : texts.length < fuel)
    (rest : List Char) :
    ∃ left, readItems item fuel isFirst (body ++ ']' :: rest) = .ok (values, left) ∧
      closeList left = .ok rest := by
  induction parts generalizing fuel values with
  | @nil isFirst space blank =>
    cases areValues
    cases fuel with
    | zero => omega
    | succ fuel =>
      refine ⟨space ++ ']' :: rest, ?_, closeList_eq_ok_iff.2 ⟨space, blank, rfl⟩⟩
      rw [readItems, nextItem?_close isFirst blank]
      rfl
  | @cons isFirst gap text more texts isGap parts ih =>
    cases areValues with
    | @cons _ value _ values isValue others =>
      cases fuel with
      | zero => omega
      | succ fuel =>
        have fewer : texts.length < fuel := by
          rw [List.length_cons] at enough
          omega
        obtain ⟨left, later, closed⟩ := ih others fewer
        refine ⟨left, ?_, closed⟩
        have next := nextItem?_gap isGap (begins text value isValue) (more ++ ']' :: rest)
        have read : item (text ++ (more ++ ']' :: rest)) = .ok (value, more ++ ']' :: rest) :=
          (recognizes _ _ _).2 ⟨[], text, blank_nil, isValue, rfl⟩
        rw [List.append_assoc, readItems, next]
        simp only [bind, Except.bind, read, later]

theorem Parts.length_lt {body : List Char} {texts : List (List Char)} (h : Parts isFirst body texts)
    (nonempty : ∀ text ∈ texts, text ≠ []) (rest : List Char) :
    texts.length < (body ++ rest).length + 1 := by
  induction h with
  | nil => exact Nat.zero_lt_succ _
  | cons _ _ ih =>
    obtain ⟨first, others⟩ := List.forall_mem_cons.1 nonempty
    have least := List.length_pos_iff.2 first
    have more := ih others
    simp only [List.length_cons, List.length_append] at more ⊢
    omega

def ListOf (valueText : List Char → α → Prop) (chars : List Char) (values : List α) : Prop :=
  ∃ texts, ListText chars texts ∧ List.Forall₂ valueText texts values

theorem list_recognizes {shape : Shape α} (recognizes : Recognizes shape.read valueText)
    (begins : ∀ text value, valueText text value → Begins text) :
    Recognizes shape.list.read (ListOf valueText) := by
  intro chars values rest
  constructor
  · intro h
    obtain ⟨space, blank, front⟩ := eq_of_skipSpace chars
    unfold Shape.list at h
    dsimp only at h
    split at h
    · rename_i behind same
      obtain ⟨⟨items, left⟩, read, h⟩ := bind_ok h
      obtain ⟨behind', closed, h⟩ := bind_ok h
      cases h
      obtain ⟨body, texts, parts, areValues, rfl⟩ := readItems_sound recognizes read closed
      refine ⟨space, '[' :: (body ++ [']']), blank, ⟨texts, ⟨body, parts, rfl⟩, areValues⟩, ?_⟩
      rw [front, same, enclosed_append]
    · exact absurd h (failMismatch_ne_ok _ _ _)
  · rintro ⟨space, _, blank, ⟨texts, ⟨body, parts, rfl⟩, areValues⟩, rfl⟩
    have nonempty : ∀ text ∈ texts, text ≠ [] := by
      intro text there
      obtain ⟨value, -, isValue⟩ := exists_of_forall₂ areValues text there
      obtain ⟨c, more, rfl, -⟩ := begins text value isValue
      exact List.cons_ne_nil c more
    have enough := parts.length_lt nonempty (']' :: rest)
    obtain ⟨left, read, closed⟩ := readItems_complete recognizes begins parts areValues enough rest
    unfold Shape.list
    dsimp only
    rw [enclosed_append, skipSpace_mark blank (by rfl)]
    simp only [read, closed, bind, Except.bind]
    rfl

theorem finish_eq_ok_iff : finish chars = .ok () ↔ Blank chars := by
  have nothing : Blank chars ↔ skipSpace chars = [] := by
    rw [skipSpace, List.dropWhile_eq_nil_iff, Blank]
  rw [nothing, finish]
  split
  · rename_i same
    simp [same]
  · rename_i some
    exact ⟨fun h => (by cases h), fun same => absurd same some⟩

theorem Recognizes.readAll_eq_ok_iff {reader : Reader α} {valueText : List Char → α → Prop}
    (h : Recognizes reader valueText) {whole : String} {a : α} :
    readAll reader whole = .ok a ↔ StandsAlone (fun text => valueText text a) whole := by
  rw [Json.readAll_eq_ok_iff]
  constructor
  · rintro ⟨rest, read, ends⟩
    obtain ⟨space, text, blank, isValue, shape⟩ := (h _ _ _).1 read
    exact ⟨space, text, rest, blank, finish_eq_ok_iff.1 ends, isValue, shape⟩
  · rintro ⟨space, text, space', blank, blank', isValue, shape⟩
    exact ⟨space', (h _ _ _).2 ⟨space, text, blank, isValue, shape⟩, finish_eq_ok_iff.2 blank'⟩

end LedgerWallet.Json
