import LedgerWallet.Proofs.Json.Numbers

namespace LedgerWallet.Json

def Stops (rest : List Char) : Prop := ∀ c, rest.head? = some c → c = ',' ∨ c = ']' ∨ c = '}'

theorem stops_nil : Stops [] := by
  intro c head
  cases head

theorem stops_cons {c : Char} (h : c = ',' ∨ c = ']' ∨ c = '}') (rest : List Char) :
    Stops (c :: rest) := by
  intro d head
  cases head
  exact h

theorem Stops.endsNumeral {rest : List Char} (stops : Stops rest) : EndsNumeral rest := by
  have delimited : Delimited rest := fun c head => Or.inr (stops c head)
  exact delimited.endsNumeral

theorem takeWhile_isDigit_stop {rest : List Char} (stop : startsWithDigit rest = false) :
    rest.takeWhile isDigit = [] := by
  cases rest with
  | nil => rfl
  | cons d rest =>
    have other : isDigit d = false := stop
    rw [List.takeWhile_cons, if_neg (by rw [other]; decide)]

theorem takeDigits_stop {rest : List Char} (stop : startsWithDigit rest = false)
    (value taken : Nat) : takeDigits rest value taken = (value, taken, rest) := by
  cases rest with
  | nil => rfl
  | cons c rest =>
    cases digit : Numeral.digitValue? c with
    | none => rw [takeDigits, digit]
    | some d =>
      rw [startsWithDigit, isDigit, digit] at stop
      cases stop

theorem takeDigits_digits {digits rest : List Char} {value : Nat} (taken : Nat)
    (isDigits : ∀ c ∈ digits, c.isDigit = true) (stop : startsWithDigit rest = false)
    (fits : Nat.ofDigitChars 10 digits value < significandBound) :
    takeDigits (digits ++ rest) value taken =
      (Nat.ofDigitChars 10 digits value, taken + digits.length, rest) := by
  induction digits generalizing value taken with
  | nil => exact takeDigits_stop stop value taken
  | cons c digits ih =>
    obtain ⟨isDigit, others⟩ := List.forall_mem_cons.1 isDigits
    have next : Nat.ofDigitChars 10 (c :: digits) value =
        Nat.ofDigitChars 10 digits (10 * value + (c.toNat - 48)) := Nat.ofDigitChars_cons
    rw [next] at fits ⊢
    have least := Numeral.le_ofDigitChars digits (10 * value + (c.toNat - 48))
    rw [List.cons_append, takeDigits, Numeral.digitValue?_of_isDigit isDigit]
    dsimp only
    rw [if_pos (by omega), ih (taken + 1) others fits, List.length_cons]
    congr 2
    omega

theorem readFraction_end (isNegative : Bool) (n : Nat) {rest : List Char}
    (ends : EndsNumeral rest) :
    readFraction isNegative n 0 rest = .ok (integerNumber isNegative n, rest) := by
  cases rest with
  | nil => rfl
  | cons c rest =>
    obtain ⟨notDot, notSmall, notLarge⟩ := ends.noMark c rfl
    unfold readFraction
    split <;> simp_all

theorem readUnsigned_numeral (isNegative : Bool) {n : Nat} (fits : n < significandBound)
    {rest : List Char} (ends : EndsNumeral rest) :
    readUnsigned isNegative (Numeral.chars n ++ rest) =
      .ok (integerNumber isNegative n, rest) := by
  rcases Nat.eq_zero_or_pos n with rfl | positive
  · change (if startsWithDigit rest then _ else _) = _
    rw [ends.noDigit]
    exact readFraction_end isNegative 0 ends
  · obtain ⟨nonempty, isDigits⟩ := Numeral.isDigits_chars n
    have noZero := Numeral.head?_chars positive
    have value := Numeral.valueOf_chars n
    cases spelled : Numeral.chars n with
    | nil => exact absurd spelled nonempty
    | cons c digits =>
      rw [spelled] at isDigits noZero value
      have first : isDigit c = true := by
        rw [isDigit, Numeral.digitValue?_of_isDigit (isDigits c List.mem_cons_self)]
        rfl
      have taken := takeDigits_digits 0 isDigits ends.noDigit (by
        rw [← Numeral.valueOf, value]
        exact fits)
      rw [← Numeral.valueOf, value] at taken
      rw [List.cons_append, readUnsigned]
      · rw [if_pos first, ← List.cons_append, taken]
        simp only [takeWhile_isDigit_stop ends.noDigit, List.length_nil, List.drop_zero]
        exact readFraction_end isNegative n ends
      · rintro rfl
        exact noZero rfl

theorem readNumber_natural {n : Nat} (fits : n < significandBound) {rest : List Char}
    (ends : EndsNumeral rest) : readNumber (Numeral.chars n ++ rest) = .ok (.natural n, rest) := by
  obtain ⟨nonempty, isDigits⟩ := Numeral.isDigits_chars n
  have read := readUnsigned_numeral false fits ends
  unfold readNumber
  split
  · rename_i tail spelled
    cases written : Numeral.chars n with
    | nil => exact absurd written nonempty
    | cons c digits =>
      rw [written, List.cons_append, List.cons.injEq] at spelled
      have digit := isDigits c (by rw [written]; exact List.mem_cons_self)
      rw [spelled.1] at digit
      exact absurd digit (by decide)
  · exact read

theorem readNumber_negative {m : Nat} (positive : 0 < m) (fits : m ≤ Nat.pow 2 63)
    {rest : List Char} (ends : EndsNumeral rest) :
    readNumber ('-' :: Numeral.chars m ++ rest) = .ok (.negative m, rest) := by
  have below : m < significandBound := Nat.lt_of_le_of_lt fits (by decide)
  have read := readUnsigned_numeral true below ends
  rw [integerNumber, if_neg (by decide), if_pos ⟨positive, fits⟩] at read
  exact read

def Number.Exact : Number → Prop
  | natural n => n < significandBound
  | negative m => 0 < m ∧ m ≤ Nat.pow 2 63
  | float _ => False

/-- Values nested at most so deep, with exact numbers and ascending keys. -/
inductive Canonical : Nat → Json → Prop
  | null (depth : Nat) : Canonical depth .null
  | bool (depth : Nat) (b : Bool) : Canonical depth (.bool b)
  | number (depth : Nat) {n : Number} : n.Exact → Canonical depth (.number n)
  | string (depth : Nat) (s : String) : Canonical depth (.string s)
  | array {depth : Nat} {items : List Json} :
      (∀ item ∈ items, Canonical depth item) → Canonical (depth + 1) (.array items)
  | object {depth : Nat} {members : List (String × Json)} :
      Ascending members → (∀ member ∈ members, Canonical depth member.2) →
      Canonical (depth + 1) (.object members)

theorem exact_chars {n : Number} (exact : n.Exact) :
    ∃ c digits, n.chars = c :: digits ∧ (c = '-' ∨ c.isDigit = true) := by
  cases n with
  | natural n =>
    obtain ⟨nonempty, isDigits⟩ := Numeral.isDigits_chars n
    cases spelled : Numeral.chars n with
    | nil => exact absurd spelled nonempty
    | cons c digits =>
      exact ⟨c, digits, spelled, Or.inr (isDigits c (by rw [spelled]; exact List.mem_cons_self))⟩
  | negative m => exact ⟨'-', Numeral.chars m, rfl, Or.inl rfl⟩
  | float value => exact exact.elim

theorem readNumber_exact {n : Number} (exact : n.Exact) {rest : List Char}
    (ends : EndsNumeral rest) :
    readNumber (n.chars ++ rest) = .ok (n, rest) := by
  cases n with
  | natural n => exact readNumber_natural exact ends
  | negative m => exact readNumber_negative exact.1 exact.2 ends
  | float value => exact exact.elim

theorem begins_numeral {c : Char} (first : c = '-' ∨ c.isDigit = true) (digits : List Char) :
    Begins (c :: digits) := by
  refine ⟨c, digits, rfl, ?_⟩
  rcases first with rfl | digit
  · decide
  · obtain ⟨low, high⟩ := Numeral.isDigit_iff.1 digit
    simp only [isSpace, Bool.or_eq_false_iff, decide_eq_false_iff_not]
    refine ⟨⟨⟨⟨?_, ?_⟩, ?_⟩, ?_⟩, ?_, ?_⟩ <;> (rintro rfl; revert low high; decide)

theorem readValue_of_numeral (depth : Nat) {c : Char} (rest : List Char)
    (first : c = '-' ∨ c.isDigit = true) :
    readValue depth (c :: rest) =
      (readNumber (c :: rest) >>= fun read => .ok (.number read.1, read.2)) := by
  obtain ⟨_, _, spelled, noSpace, -⟩ := begins_numeral first rest
  cases spelled
  have mark : (decide (c = '-') || isDigit c) = true := by
    rcases first with rfl | digit
    · rfl
    · rw [isDigit, Numeral.digitValue?_of_isDigit digit, Option.isSome_some, Bool.or_true]
  unfold readValue
  rw [skipSpace_cons noSpace]
  split
  case h_1 =>
    rename_i same
    cases same
  case h_8 =>
    rename_i same
    cases same
    rw [if_pos mark]
    rfl
  all_goals
    rename_i same
    cases same
    exact absurd first (by decide)

def compactMore : List Json → List Char
  | [] => []
  | items => ',' :: compactItems items

theorem compactItems_cons (item : Json) (items : List Json) :
    compactItems (item :: items) = compactChars item ++ compactMore items := by
  cases items <;> simp [compactItems, compactMore]

theorem compactMore_cons (item : Json) (items : List Json) :
    compactMore (item :: items) = ',' :: (compactChars item ++ compactMore items) := by
  rw [← compactItems_cons]
  rfl

theorem stops_compactMore (items : List Json) (rest : List Char) :
    Stops (compactMore items ++ ']' :: rest) := by
  cases items with
  | nil => exact stops_cons (Or.inr (Or.inl rfl)) rest
  | cons item items => exact stops_cons (Or.inl rfl) _

theorem length_le_compactMore (items : List Json) : items.length ≤ (compactMore items).length := by
  induction items with
  | nil => exact Nat.le_refl _
  | cons item items ih =>
    simp only [compactMore_cons, List.length_cons, List.length_append]
    omega

def TakesBack (depth : Nat) (value : Json) : Prop :=
  ∀ rest, Stops rest → readValue depth (compactChars value ++ rest) = .ok (value, rest)

theorem readItems_item {depth fuel : Nat} {isFirst : Bool} {chars behind : List Char} {item : Json}
    (stops : Stops behind) (back : TakesBack depth item)
    (next : nextItem? isFirst chars = .ok (some (compactChars item ++ behind))) :
    readItems (readValue depth) (fuel + 1) isFirst chars =
      (readItems (readValue depth) fuel false behind >>= fun read =>
        .ok (item :: read.1, read.2)) := by
  have read := back behind stops
  simp only [readItems, next, read, bind, Except.bind]

theorem readItems_compactMore {depth : Nat} {items : List Json}
    (takes : ∀ item ∈ items, Begins (compactChars item) ∧ TakesBack depth item) {fuel : Nat}
    (enough : items.length < fuel) (rest : List Char) :
    readItems (readValue depth) fuel false (compactMore items ++ ']' :: rest) =
      .ok (items, ']' :: rest) := by
  induction items generalizing fuel with
  | nil =>
    cases fuel with
    | zero => omega
    | succ fuel => rfl
  | cons item items ih =>
    cases fuel with
    | zero => omega
    | succ fuel =>
      obtain ⟨⟨begins, back⟩, others⟩ := List.forall_mem_cons.1 takes
      have fewer : items.length < fuel := by
        rw [List.length_cons] at enough
        omega
      have next := nextItem?_later (compactMore items ++ ']' :: rest) blank_nil begins
      rw [readItems_item (stops_compactMore items rest) back, ih others fewer]
      · rfl
      · simpa [compactMore_cons] using next

theorem readItems_compactItems {depth : Nat} {items : List Json}
    (takes : ∀ item ∈ items, Begins (compactChars item) ∧ TakesBack depth item) {fuel : Nat}
    (enough : items.length < fuel) (rest : List Char) :
    readItems (readValue depth) fuel true (compactItems items ++ ']' :: rest) =
      .ok (items, ']' :: rest) := by
  cases items with
  | nil =>
    cases fuel with
    | zero => omega
    | succ fuel => rfl
  | cons item items =>
    cases fuel with
    | zero => omega
    | succ fuel =>
      obtain ⟨⟨begins, back⟩, others⟩ := List.forall_mem_cons.1 takes
      have fewer : items.length < fuel := by
        rw [List.length_cons] at enough
        omega
      have next := nextItem?_first (compactMore items ++ ']' :: rest) blank_nil begins
      rw [readItems_item (stops_compactMore items rest) back,
        readItems_compactMore others fewer]
      · rfl
      · simpa [compactItems_cons] using next

theorem takesBack_array {depth : Nat} {items : List Json}
    (takes : ∀ item ∈ items, Begins (compactChars item) ∧ TakesBack depth item) :
    TakesBack (depth + 1) (.array items) := by
  intro rest _
  have close : closeList (']' :: rest) = .ok rest := closeList_written blank_nil rest
  have enough : items.length < (compactItems items ++ ']' :: rest).length + 1 := by
    cases items with
    | nil => exact Nat.succ_pos _
    | cons item items =>
      have least := length_le_compactMore items
      rw [compactItems_cons]
      simp only [List.length_append, List.length_cons]
      omega
  have read := readItems_compactItems takes enough rest
  have text : compactChars (.array items) ++ rest = '[' :: (compactItems items ++ ']' :: rest) := by
    simp [compactChars]
  rw [text]
  unfold readValue
  rw [skipSpace_cons (by rfl)]
  simp only [read, close, bind, Except.bind]
  rfl

def compactOthers : List (String × Json) → List Char
  | [] => []
  | members => ',' :: compactMembers members

theorem compactMembers_cons (key : String) (value : Json) (members : List (String × Json)) :
    compactMembers ((key, value) :: members) =
      stringChars key ++ ':' :: (compactChars value ++ compactOthers members) := by
  cases members <;> simp [compactMembers, compactOthers]

theorem compactOthers_cons (key : String) (value : Json) (members : List (String × Json)) :
    compactOthers ((key, value) :: members) =
      ',' :: (stringChars key ++ ':' :: (compactChars value ++ compactOthers members)) := by
  rw [← compactMembers_cons]
  rfl

theorem stops_compactOthers (members : List (String × Json)) (rest : List Char) :
    Stops (compactOthers members ++ '}' :: rest) := by
  cases members with
  | nil => exact stops_cons (Or.inr (Or.inr rfl)) rest
  | cons member members => exact stops_cons (Or.inl rfl) _

theorem length_le_compactOthers (members : List (String × Json)) :
    members.length ≤ (compactOthers members).length := by
  induction members with
  | nil => exact Nat.le_refl _
  | cons member members ih =>
    obtain ⟨key, value⟩ := member
    simp only [compactOthers_cons, List.length_cons, List.length_append]
    omega

theorem readMembers_member {depth fuel : Nat} {isFirst : Bool} {chars behind : List Char}
    {key : String} {value : Json} (stops : Stops behind) (back : TakesBack depth value)
    (next : nextKey? isFirst chars = .ok (some (key.toList.flatMap escapeChar ++
      '"' :: ':' :: (compactChars value ++ behind)))) :
    readMembers (readValue depth) (fuel + 1) isFirst chars =
      (readMembers (readValue depth) fuel false behind >>= fun read =>
        .ok ((key, value) :: read.1, read.2)) := by
  have read := back behind stops
  simp only [readMembers, next, readString_written, passColon_written, read, bind, Except.bind]

theorem readMembers_compactOthers {depth : Nat} {members : List (String × Json)}
    (takes : ∀ member ∈ members, TakesBack depth member.2) {fuel : Nat}
    (enough : members.length < fuel) (rest : List Char) :
    readMembers (readValue depth) fuel false (compactOthers members ++ '}' :: rest) =
      .ok (members, '}' :: rest) := by
  induction members generalizing fuel with
  | nil =>
    cases fuel with
    | zero => omega
    | succ fuel => rfl
  | cons member members ih =>
    obtain ⟨key, value⟩ := member
    cases fuel with
    | zero => omega
    | succ fuel =>
      obtain ⟨back, others⟩ := List.forall_mem_cons.1 takes
      have fewer : members.length < fuel := by
        rw [List.length_cons] at enough
        omega
      have next := nextKey?_later blank_nil (key.toList.flatMap escapeChar ++
        '"' :: ':' :: (compactChars value ++ (compactOthers members ++ '}' :: rest)))
      rw [readMembers_member (stops_compactOthers members rest) back, ih others fewer]
      · rfl
      · simpa [compactOthers_cons, stringChars] using next

theorem readMembers_compactMembers {depth : Nat} {members : List (String × Json)}
    (takes : ∀ member ∈ members, TakesBack depth member.2) {fuel : Nat}
    (enough : members.length < fuel) (rest : List Char) :
    readMembers (readValue depth) fuel true (compactMembers members ++ '}' :: rest) =
      .ok (members, '}' :: rest) := by
  cases members with
  | nil =>
    cases fuel with
    | zero => omega
    | succ fuel => rfl
  | cons member members =>
    obtain ⟨key, value⟩ := member
    cases fuel with
    | zero => omega
    | succ fuel =>
      obtain ⟨back, others⟩ := List.forall_mem_cons.1 takes
      have fewer : members.length < fuel := by
        rw [List.length_cons] at enough
        omega
      have next := nextKey?_first blank_nil (key.toList.flatMap escapeChar ++
        '"' :: ':' :: (compactChars value ++ (compactOthers members ++ '}' :: rest)))
      rw [readMembers_member (stops_compactOthers members rest) back,
        readMembers_compactOthers others fewer]
      · rfl
      · simpa [compactMembers_cons, stringChars] using next

theorem takesBack_object {depth : Nat} {members : List (String × Json)}
    (ascending : Ascending members) (takes : ∀ member ∈ members, TakesBack depth member.2) :
    TakesBack (depth + 1) (.object members) := by
  intro rest _
  have close : closeObject ('}' :: rest) = .ok rest := closeObject_written blank_nil rest
  have enough : members.length < (compactMembers members ++ '}' :: rest).length + 1 := by
    cases members with
    | nil => exact Nat.succ_pos _
    | cons member members =>
      have least := length_le_compactOthers members
      rw [compactMembers_cons]
      simp only [List.length_append, List.length_cons]
      omega
  have read := readMembers_compactMembers takes enough rest
  have text : compactChars (.object members) ++ rest =
      '{' :: (compactMembers members ++ '}' :: rest) := by
    simp [compactChars]
  have fields : readFields depth (compactChars (.object members) ++ rest) = .ok (members, rest) :=
    readFields_eq_ok_iff.2 ⟨_, _, by rw [text]; exact skipSpace_cons (by rfl) _, read, close⟩
  rw [readValue_of_readFields fields, sortMembers_of_ascending ascending]

theorem Canonical.begins {depth : Nat} {value : Json} (h : Canonical depth value) :
    Begins (compactChars value) := by
  cases h with
  | null => exact ⟨'n', ['u', 'l', 'l'], rfl, by decide⟩
  | bool _ b =>
    cases b with
    | true => exact ⟨'t', ['r', 'u', 'e'], rfl, by decide⟩
    | false => exact ⟨'f', ['a', 'l', 's', 'e'], rfl, by decide⟩
  | number _ exact =>
    obtain ⟨c, digits, spelled, first⟩ := exact_chars exact
    rw [compactChars, spelled]
    exact begins_numeral first digits
  | string _ s => exact ⟨'"', _, rfl, by decide⟩
  | array => exact ⟨'[', _, by rw [compactChars]; rfl, by decide⟩
  | object => exact ⟨'{', _, by rw [compactChars]; rfl, by decide⟩

theorem Canonical.takesBack {depth : Nat} {value : Json} (h : Canonical depth value) :
    TakesBack depth value := by
  induction h with
  | null depth =>
    intro rest _
    unfold readValue
    rfl
  | bool depth b =>
    intro rest _
    unfold readValue
    cases b with
    | true => rfl
    | false => rfl
  | @number depth n exact =>
    intro rest stops
    obtain ⟨c, digits, spelled, first⟩ := exact_chars exact
    have read := readNumber_exact exact stops.endsNumeral
    rw [spelled, List.cons_append] at read
    rw [compactChars, spelled, List.cons_append, readValue_of_numeral depth _ first, read]
    rfl
  | string depth s =>
    intro rest _
    have read := readString_written s rest
    have text : compactChars (.string s) ++ rest =
        '"' :: (s.toList.flatMap escapeChar ++ '"' :: rest) := by
      simp [compactChars, stringChars]
    rw [text]
    unfold readValue
    rw [skipSpace_cons (by rfl)]
    simp only [read, bind, Except.bind]
    rfl
  | array items ih =>
    exact takesBack_array fun item member => ⟨(items item member).begins, ih item member⟩
  | object ascending _ ih => exact takesBack_object ascending ih

theorem parse_compact {value : Json} (h : Canonical depthLimit value) :
    parse value.compact = .ok value := by
  have read := h.takesBack [] stops_nil
  rw [List.append_nil] at read
  refine readAll_eq_ok_iff.2 ⟨[], ?_, rfl⟩
  rw [compact, String.toList_ofList, read]

end LedgerWallet.Json
