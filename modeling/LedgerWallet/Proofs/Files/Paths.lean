import LedgerWallet.Files.Tree

namespace LedgerWallet

namespace Text

variable {separates : Char → Bool}

theorem pieces_ne_nil (chars : List Char) : pieces separates chars ≠ [] := by
  cases chars with
  | nil => simp [pieces]
  | cons c chars =>
    simp only [pieces, List.foldr_cons]
    generalize chars.foldr (extendPieces separates) [[]] = rest
    cases rest with
    | nil => simp [extendPieces]
    | cons first others =>
      simp only [extendPieces]
      split <;> simp

theorem extendPieces_append {c : Char} {first : List (List Char)} (others : List (List Char))
    (h : first ≠ []) :
    extendPieces separates c (first ++ others) = extendPieces separates c first ++ others := by
  cases first with
  | nil => exact absurd rfl h
  | cons piece first =>
    simp only [List.cons_append, extendPieces]
    split <;> rfl

theorem pieces_append {c : Char} (h : separates c = true) (left right : List Char) :
    pieces separates (left ++ c :: right) = pieces separates left ++ pieces separates right := by
  induction left with
  | nil =>
    have some : pieces separates right ≠ [] := pieces_ne_nil right
    change extendPieces separates c (pieces separates right) = _
    cases behind : pieces separates right with
    | nil => exact absurd behind some
    | cons piece others => simp [extendPieces, h, pieces]
  | cons d left ih =>
    change extendPieces separates d (pieces separates (left ++ c :: right)) = _
    rw [ih, extendPieces_append _ (pieces_ne_nil left)]
    rfl

theorem pieces_of_none {chars : List Char} (h : ∀ c ∈ chars, separates c = false) :
    pieces separates chars = [chars] := by
  induction chars with
  | nil => rfl
  | cons c chars ih =>
    have rest := ih fun d member => h d (List.mem_cons_of_mem _ member)
    change extendPieces separates c (pieces separates chars) = _
    simp [rest, extendPieces, h c]

end Text

namespace Path

structure IsName (name : String) : Prop where
  notEmpty : name ≠ ""
  noSlash : '/' ∉ name.toList
  notHere : name ≠ "."
  notAbove : name ≠ ".."

theorem IsName.getLast? {name : String} (h : IsName name) (chars : List Char) :
    (chars ++ name.toList).getLast? ≠ some '/' := by
  have notNil : name.toList ≠ [] := by simpa using h.notEmpty
  rw [List.getLast?_append, List.getLast?_eq_some_getLast notNil]
  intro last
  exact h.noSlash (Option.some.inj last ▸ List.getLast_mem notNil)

variable (directory : Path) {name : String}

theorem toList_join (name : String) :
    (directory.text.toList = [] ∧ (directory.join name).text.toList = name.toList) ∨
      ∃ front, (directory.text.toList = front ++ ['/'] ∨
          directory.text.toList = front ∧ front ≠ []) ∧
        (directory.join name).text.toList = front ++ '/' :: name.toList := by
  by_cases empty : directory.text = ""
  · exact Or.inl (by simp [join, empty])
  · right
    by_cases slash : directory.endsInSlash = true
    · obtain ⟨front, same⟩ := List.getLast?_eq_some_iff.1 (of_decide_eq_true slash)
      exact ⟨front, Or.inl same, by simp [join, slash, same]⟩
    · exact ⟨directory.text.toList, Or.inr ⟨rfl, by simpa using empty⟩,
        by simp [join, empty, slash]⟩

theorem endsInSlash_join (h : IsName name) : (directory.join name).endsInSlash = false := by
  apply decide_eq_false
  rcases directory.toList_join name with ⟨-, same⟩ | ⟨front, -, same⟩
  · rw [same]
    exact h.getLast? []
  · rw [same]
    simpa using h.getLast? (front ++ ['/'])

theorem isAbsolute_join (h : IsName name) :
    (directory.join name).isAbsolute = directory.isAbsolute := by
  unfold isAbsolute
  congr 1
  apply propext
  rcases directory.toList_join name with ⟨empty, same⟩ | ⟨front, stands | ⟨stands, some⟩, same⟩
  · rw [same, empty]
    constructor
    · intro head
      exact absurd (List.mem_of_head? head) h.noSlash
    · simp
  · rw [same, stands]
    cases front <;> simp
  · rw [same, stands]
    cases front with
    | nil => exact absurd rfl some
    | cons c front => simp

theorem steps_join (h : IsName name) :
    (directory.join name).steps = directory.steps ++ [name] := by
  have alone : Text.pieces (· = '/') name.toList = [name.toList] := by
    apply Text.pieces_of_none
    intro c member
    apply decide_eq_false
    rintro rfl
    exact h.noSlash member
  have kept : ([name.toList].filter (· ≠ [])).map String.ofList = [name] := by
    simp [h.notEmpty]
  unfold steps Path.pieces
  rcases directory.toList_join name with ⟨empty, same⟩ | ⟨front, stands | ⟨stands, -⟩, same⟩
  · rw [same, empty, alone, kept]
    rfl
  · rw [same, stands, Text.pieces_append (by simp), Text.pieces_append (by simp), alone,
      List.filter_append, List.map_append, kept]
    simp [Text.pieces]
  · rw [same, stands, Text.pieces_append (by simp), alone, List.filter_append, List.map_append,
      kept]

end Path

end LedgerWallet
