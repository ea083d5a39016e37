import LedgerWallet.Json.Record

namespace LedgerWallet.Json

theorem hexValue?_controlDigits : ∀ n < 0x20,
    hexValue? ['0', '0', Nat.digitChar (n / 16), Nat.digitChar (n % 16)] 0 = some n := by
  decide

theorem readCodeUnit_control {n : Nat} (h : n < 0x20) (rest : List Char) :
    readCodeUnit ('0' :: '0' :: Nat.digitChar (n / 16) :: Nat.digitChar (n % 16) :: rest) =
      .ok (Char.ofNat n, rest) := by
  have value := hexValue?_controlDigits n h
  have trail : isTrailSurrogate n = false := by
    simp only [isTrailSurrogate, Bool.and_eq_false_iff, decide_eq_false_iff_not]
    omega
  have lead : isLeadSurrogate n = false := by
    simp only [isLeadSurrogate, Bool.and_eq_false_iff, decide_eq_false_iff_not]
    omega
  simp [readCodeUnit, readFourHex, value, trail, lead, bind, Except.bind]

theorem readStringChars_escapeChar (fuel : Nat) (c : Char) (rest : List Char) :
    readStringChars (fuel + 1) (escapeChar c ++ rest) =
      (readStringChars fuel rest >>= fun read => .ok (c :: read.1, read.2)) := by
  unfold escapeChar
  split
  · subst_vars; rfl
  · split
    · subst_vars; rfl
    · split
      · subst_vars; rfl
      · split
        · subst_vars; rfl
        · split
          · subst_vars; rfl
          · split
            · subst_vars; rfl
            · split
              · subst_vars; rfl
              · split
                · rename_i control
                  have unit := readCodeUnit_control control rest
                  simp [readStringChars, readEscape, unit, bind, Except.bind]
                · rename_i quote backslash _ _ _ _ _ control
                  simp [readStringChars, quote, backslash, control]

theorem readStringChars_written (chars rest : List Char) {fuel : Nat}
    (enough : chars.length < fuel) :
    readStringChars fuel (chars.flatMap escapeChar ++ '"' :: rest) = .ok (chars, rest) := by
  induction chars generalizing fuel with
  | nil =>
    cases fuel with
    | zero => omega
    | succ fuel => simp [readStringChars]
  | cons c chars ih =>
    cases fuel with
    | zero => omega
    | succ fuel =>
      have shorter : chars.length < fuel := by
        rw [List.length_cons] at enough
        omega
      rw [List.flatMap_cons, List.append_assoc, readStringChars_escapeChar, ih shorter]
      rfl

theorem length_le_flatMap_escapeChar (chars : List Char) :
    chars.length ≤ (chars.flatMap escapeChar).length := by
  induction chars with
  | nil => exact Nat.le_refl _
  | cons c chars ih =>
    have some : 1 ≤ (escapeChar c).length := by
      unfold escapeChar
      repeat' split
      all_goals simp
    simp only [List.flatMap_cons, List.length_append, List.length_cons]
    omega

theorem readString_written (text : String) (rest : List Char) :
    readString (text.toList.flatMap escapeChar ++ '"' :: rest) = .ok (text, rest) := by
  have enough : text.toList.length <
      (text.toList.flatMap escapeChar ++ '"' :: rest).length := by
    have least := length_le_flatMap_escapeChar text.toList
    simp only [List.length_append, List.length_cons]
    omega
  rw [readString, readStringChars_written _ _ enough]
  simp [bind, Except.bind]

def Blank (space : List Char) : Prop := ∀ c ∈ space, isSpace c = true

def Ends (rest : List Char) : Prop := ∀ c, rest.head? = some c → c = ',' ∨ c = '\n'

def Begins (text : List Char) : Prop :=
  ∃ c tail, text = c :: tail ∧ isSpace c = false ∧ c ≠ ',' ∧ c ≠ ']'

def ReadsAs {α : Type} (reader : Reader α) (text : List Char) (value : α) : Prop :=
  ∀ space rest, Blank space → Ends rest → reader (space ++ text ++ rest) = .ok (value, rest)

theorem skipSpace_append {space : List Char} (blank : Blank space) (rest : List Char) :
    skipSpace (space ++ rest) = skipSpace rest :=
  List.dropWhile_append_of_pos blank

theorem skipSpace_cons {c : Char} (h : isSpace c = false) (rest : List Char) :
    skipSpace (c :: rest) = c :: rest := by
  simp [skipSpace, h]

theorem skipSpace_mark {space : List Char} {c : Char} (blank : Blank space)
    (h : isSpace c = false) (rest : List Char) : skipSpace (space ++ c :: rest) = c :: rest := by
  rw [skipSpace_append blank, skipSpace_cons h]

theorem blank_newLine (depth : Nat) : Blank (newLine depth) := by
  intro c member
  rcases List.mem_cons.1 member with rfl | member
  · rfl
  · rw [(List.mem_replicate.1 member).2]
    rfl

theorem ends_nil : Ends [] := by
  intro c head
  cases head

theorem ends_comma (rest : List Char) : Ends (',' :: rest) := by
  intro c head
  cases head
  exact Or.inl rfl

theorem ends_newLine (depth : Nat) (rest : List Char) : Ends (newLine depth ++ rest) := by
  intro c head
  cases head
  exact Or.inr rfl

theorem blank_nil : Blank [] := by
  intro c member
  cases member

theorem readAll_of_readsAs {α : Type} {reader : Reader α} {text : String} {value : α}
    (h : ReadsAs reader text.toList value) : readAll reader text = .ok value := by
  have read := h [] [] blank_nil ends_nil
  rw [List.nil_append, List.append_nil] at read
  simp only [readAll, read, bind, Except.bind]
  rfl

theorem text_readsAs (expected text : String) :
    ReadsAs (Shape.text expected).read (stringChars text) text := by
  intro space rest blank _
  have read := readString_written text rest
  simp only [stringChars, Shape.text, List.append_assoc, List.cons_append, List.nil_append]
  rw [skipSpace_mark blank (by rfl)]
  exact read

variable {α : Type}

def moreItems (depth : Nat) : List Json → List Char
  | [] => []
  | items => ',' :: indentedItems depth items

theorem indentedItems_cons (depth : Nat) (item : Json) (items : List Json) :
    indentedItems depth (item :: items) =
      newLine depth ++ indentedChars depth item ++ moreItems depth items := by
  cases items <;> simp [indentedItems, moreItems]

theorem moreItems_cons (depth : Nat) (item : Json) (items : List Json) :
    moreItems depth (item :: items) =
      ',' :: (newLine depth ++ indentedChars depth item ++ moreItems depth items) := by
  rw [← indentedItems_cons]
  rfl

inductive ReadItems (item : Reader α) (depth : Nat) : List Json → List α → Prop
  | nil : ReadItems item depth [] []
  | cons {json : Json} {value : α} {items : List Json} {values : List α} :
      Begins (indentedChars depth json) → ReadsAs item (indentedChars depth json) value →
      ReadItems item depth items values → ReadItems item depth (json :: items) (value :: values)

theorem nextItem?_first {space text : List Char} (rest : List Char) (blank : Blank space)
    (begins : Begins text) :
    nextItem? true (space ++ text ++ rest) = .ok (some (text ++ rest)) := by
  obtain ⟨c, tail, rfl, mark, comma, close⟩ := begins
  rw [List.append_assoc, List.cons_append]
  unfold nextItem?
  rw [skipSpace_mark blank mark]
  split <;> simp_all

theorem nextItem?_later {space text : List Char} (rest : List Char) (blank : Blank space)
    (begins : Begins text) :
    nextItem? false (',' :: (space ++ text ++ rest)) = .ok (some (text ++ rest)) := by
  obtain ⟨c, tail, rfl, mark, comma, close⟩ := begins
  rw [List.append_assoc, List.cons_append]
  unfold nextItem?
  rw [skipSpace_cons (by rfl)]
  simp only [Bool.false_eq_true, ↓reduceIte]
  rw [skipSpace_mark blank mark]
  split <;> simp_all

theorem nextItem?_close (isFirst : Bool) {space : List Char} (blank : Blank space)
    (rest : List Char) : nextItem? isFirst (space ++ ']' :: rest) = .ok none := by
  unfold nextItem?
  rw [skipSpace_mark blank (by rfl)]
  rfl

theorem closeList_written {space : List Char} (blank : Blank space) (rest : List Char) :
    closeList (space ++ ']' :: rest) = .ok rest := by
  unfold closeList
  rw [skipSpace_mark blank (by rfl)]
  rfl

theorem readItems_more {item : Reader α} {depth : Nat} {items : List Json} {values : List α}
    (h : ReadItems item depth items values) {fuel : Nat} (enough : items.length < fuel)
    (outer : Nat) (rest : List Char) :
    readItems item fuel false (moreItems depth items ++ (newLine outer ++ ']' :: rest)) =
      .ok (values, newLine outer ++ ']' :: rest) := by
  induction h generalizing fuel with
  | nil =>
    cases fuel with
    | zero => omega
    | succ fuel =>
      simp only [moreItems, List.nil_append, readItems, nextItem?_close false (blank_newLine outer),
        bind, Except.bind]
  | @cons json value items values begins reads _ ih =>
    cases fuel with
    | zero => omega
    | succ fuel =>
      have fewer : items.length < fuel := by
        rw [List.length_cons] at enough
        omega
      have ends : Ends (moreItems depth items ++ (newLine outer ++ ']' :: rest)) := by
        cases items with
        | nil => exact ends_newLine outer _
        | cons _ _ => exact ends_comma _
      have next := nextItem?_later (moreItems depth items ++ (newLine outer ++ ']' :: rest))
        (blank_newLine depth) begins
      have read := reads [] _ blank_nil ends
      rw [List.nil_append] at read
      rw [moreItems_cons, List.cons_append, List.append_assoc, readItems, next]
      simp only [bind, Except.bind, read, ih fewer]

theorem length_le_moreItems (depth : Nat) (items : List Json) :
    items.length ≤ (moreItems depth items).length := by
  induction items with
  | nil => exact Nat.le_refl _
  | cons item items ih =>
    simp only [moreItems_cons, List.length_cons, List.length_append]
    omega

theorem list_readsAs {shape : Shape α} {depth : Nat} {items : List Json} {values : List α}
    (h : ReadItems shape.read (depth + 1) items values) :
    ReadsAs shape.list.read (indentedChars depth (.array items)) values := by
  intro space rest blank ends
  cases h with
  | nil =>
    have nothing : nextItem? true (']' :: rest) = .ok none := nextItem?_close true blank_nil rest
    have close : closeList (']' :: rest) = .ok rest := closeList_written blank_nil rest
    simp only [indentedChars, List.append_assoc, List.cons_append, List.nil_append, Shape.list]
    rw [skipSpace_mark blank (by rfl)]
    simp only [readItems, nothing, close, bind, Except.bind, pure, Except.pure]
  | @cons json value items values begins reads others =>
    -- No comma stands in front of the first item, so it is read apart from the others.
    let behind := moreItems (depth + 1) items ++ (newLine depth ++ ']' :: rest)
    let inside := newLine (depth + 1) ++ indentedChars (depth + 1) json ++ behind
    have text : indentedChars depth (.array (json :: items)) ++ rest = '[' :: inside := by
      rw [indentedChars, indentedItems_cons]
      · simp [inside, behind]
      · simp
    have ends' : Ends behind := by
      cases items with
      | nil => exact ends_newLine depth _
      | cons _ _ => exact ends_comma _
    have next : nextItem? true inside = .ok (some (indentedChars (depth + 1) json ++ behind)) :=
      nextItem?_first behind (blank_newLine (depth + 1)) begins
    have read := reads [] behind blank_nil ends'
    rw [List.nil_append] at read
    have enough : items.length < inside.length := by
      have least := length_le_moreItems (depth + 1) items
      simp only [inside, behind, newLine, List.length_append, List.length_cons]
      omega
    have more : readItems shape.read inside.length false behind = _ :=
      readItems_more others enough depth rest
    have close := closeList_written (blank_newLine depth) rest
    rw [List.append_assoc, text]
    simp only [Shape.list]
    rw [skipSpace_mark blank (by rfl)]
    simp only [readItems, next, read, more, close, bind, Except.bind, pure, Except.pure]

variable {δ : Type}

def moreMembers (depth : Nat) : List (String × Json) → List Char
  | [] => []
  | members => ',' :: indentedMembers depth members

theorem indentedMembers_cons (depth : Nat) (key : String) (value : Json)
    (members : List (String × Json)) :
    indentedMembers depth ((key, value) :: members) =
      newLine depth ++ stringChars key ++ ':' :: ([' '] ++ indentedChars depth value ++
        moreMembers depth members) := by
  cases members <;> simp [indentedMembers, moreMembers]

theorem ofShape_readsAs {β : Type} {key : String} {shape : Shape β} {get : δ → Option β}
    {set : β → δ → δ} {text : List Char} {value : β} (draft : δ)
    (h : ReadsAs shape.read text value) :
    ReadsAs ((Member.ofShape key shape get set).read draft) text (set value draft) := by
  intro space rest blank ends
  have read := h space rest blank ends
  simp only [Member.ofShape, read, bind, Except.bind]

inductive Takes (r : Record δ α) (depth : Nat) : δ → List (String × Json) → δ → Prop
  | nil (draft : δ) : Takes r depth draft [] draft
  | cons {draft next final : δ} {key : String} {value : Json} {members : List (String × Json)}
      {m : Member δ} : r.member? key = some m → m.isGiven draft = false →
      ReadsAs (m.read draft) (indentedChars depth value) next → Takes r depth next members final →
      Takes r depth draft ((key, value) :: members) final

theorem nextKey?_first {space : List Char} (blank : Blank space) (rest : List Char) :
    nextKey? true (space ++ '"' :: rest) = .ok (some rest) := by
  unfold nextKey?
  rw [skipSpace_mark blank (by rfl)]
  rfl

theorem nextKey?_later {space : List Char} (blank : Blank space) (rest : List Char) :
    nextKey? false (',' :: (space ++ '"' :: rest)) = .ok (some rest) := by
  unfold nextKey?
  rw [skipSpace_cons (by rfl)]
  simp only [Bool.false_eq_true, ↓reduceIte]
  rw [skipSpace_mark blank (by rfl)]
  rfl

theorem nextKey?_close (isFirst : Bool) {space : List Char} (blank : Blank space)
    (rest : List Char) : nextKey? isFirst (space ++ '}' :: rest) = .ok none := by
  unfold nextKey?
  rw [skipSpace_mark blank (by rfl)]
  rfl

theorem closeObject_written {space : List Char} (blank : Blank space) (rest : List Char) :
    closeObject (space ++ '}' :: rest) = .ok rest := by
  unfold closeObject
  rw [skipSpace_mark blank (by rfl)]
  rfl

theorem passColon_written (rest : List Char) : passColon (':' :: rest) = .ok rest := by
  unfold passColon
  rw [skipSpace_cons (by rfl)]
  rfl

theorem readObject_member {r : Record δ α} {m : Member δ} {draft next : δ} {key : String}
    {value : Json} {depth : Nat} {isFirst : Bool} {chars behind : List Char} (fuel : Nat)
    (found : r.member? key = some m) (fresh : m.isGiven draft = false)
    (reads : ReadsAs (m.read draft) (indentedChars depth value) next) (ends : Ends behind)
    (begins : nextKey? isFirst chars = .ok (some (key.toList.flatMap escapeChar ++
      '"' :: ':' :: ([' '] ++ indentedChars depth value ++ behind)))) :
    r.readObject (fuel + 1) isFirst draft chars = r.readObject fuel false next behind := by
  have space : Blank [' '] := by
    intro c member
    rw [List.mem_singleton.1 member]
    rfl
  have read := reads [' '] behind space ends
  simp only [Record.readObject, begins, readString_written, found, fresh, passColon_written, read,
    bind, Except.bind, Bool.false_eq_true, ↓reduceIte]

theorem moreMembers_cons (depth : Nat) (key : String) (value : Json)
    (members : List (String × Json)) :
    moreMembers depth ((key, value) :: members) =
      ',' :: (newLine depth ++ stringChars key ++ ':' :: ([' '] ++ indentedChars depth value ++
        moreMembers depth members)) := by
  rw [← indentedMembers_cons]
  rfl

theorem ends_moreMembers (depth outer : Nat) (members : List (String × Json)) (rest : List Char) :
    Ends (moreMembers depth members ++ (newLine outer ++ rest)) := by
  cases members with
  | nil => exact ends_newLine outer _
  | cons _ _ => exact ends_comma _

theorem readObject_more {r : Record δ α} {depth : Nat} {draft final : δ}
    {members : List (String × Json)} (h : Takes r depth draft members final) {fuel : Nat}
    (enough : members.length < fuel) (outer : Nat) (rest : List Char) :
    r.readObject fuel false draft (moreMembers depth members ++ (newLine outer ++ '}' :: rest)) =
      .ok (final, newLine outer ++ '}' :: rest) := by
  induction h generalizing fuel with
  | nil =>
    cases fuel with
    | zero => omega
    | succ fuel =>
      simp only [moreMembers, List.nil_append, Record.readObject,
        nextKey?_close false (blank_newLine outer), bind, Except.bind]
  | @cons draft next final key value members m found fresh reads _ ih =>
    cases fuel with
    | zero => omega
    | succ fuel =>
      have fewer : members.length < fuel := by
        rw [List.length_cons] at enough
        omega
      rw [← ih fewer]
      apply readObject_member fuel found fresh reads (ends_moreMembers depth outer members _)
      have next := nextKey?_later (blank_newLine depth) (key.toList.flatMap escapeChar ++
        '"' :: ':' :: ([' '] ++ indentedChars depth value ++
          (moreMembers depth members ++ (newLine outer ++ '}' :: rest))))
      simpa only [moreMembers_cons, stringChars, List.append_assoc, List.cons_append,
        List.nil_append] using next

theorem length_le_moreMembers (depth : Nat) (members : List (String × Json)) :
    members.length ≤ (moreMembers depth members).length := by
  induction members with
  | nil => exact Nat.le_refl _
  | cons member members ih =>
    obtain ⟨key, value⟩ := member
    simp only [moreMembers_cons, List.length_cons, List.length_append]
    omega

theorem begins_object (depth : Nat) (member : String × Json) (members : List (String × Json)) :
    Begins (indentedChars depth (.object (member :: members))) := by
  refine ⟨'{', indentedMembers (depth + 1) (member :: members) ++ newLine depth ++ ['}'], ?_⟩
  constructor
  · rw [indentedChars]
    · simp only [List.append_assoc, List.cons_append]
    · simp
  · decide

theorem record_readsAs {r : Record δ α} {depth : Nat} {final : δ} {value : α}
    {member : String × Json} {members : List (String × Json)}
    (h : Takes r (depth + 1) r.blank (member :: members) final)
    (complete : r.complete final = .ok value) :
    ReadsAs r.read (indentedChars depth (.object (member :: members))) value := by
  intro space rest blank ends
  cases h with
  | @cons _ next _ key json _ m found fresh reads others =>
    -- As in a list, the first member is read apart from the others.
    let behind := moreMembers (depth + 1) members ++ (newLine depth ++ '}' :: rest)
    let inside := newLine (depth + 1) ++ stringChars key ++
      ':' :: ([' '] ++ indentedChars (depth + 1) json ++ behind)
    have text : indentedChars depth (.object ((key, json) :: members)) ++ rest =
        '{' :: inside := by
      rw [indentedChars, indentedMembers_cons]
      · simp [inside, behind]
      · simp
    have first : nextKey? true inside = .ok (some (key.toList.flatMap escapeChar ++
        '"' :: ':' :: ([' '] ++ indentedChars (depth + 1) json ++ behind))) := by
      have next := nextKey?_first (blank_newLine (depth + 1)) (key.toList.flatMap escapeChar ++
        '"' :: ':' :: ([' '] ++ indentedChars (depth + 1) json ++ behind))
      simpa only [inside, stringChars, List.append_assoc, List.cons_append,
        List.nil_append] using next
    have enough : members.length < inside.length := by
      have least := length_le_moreMembers (depth + 1) members
      simp only [inside, behind, newLine, List.length_append, List.length_cons]
      omega
    have step := readObject_member inside.length found fresh reads
      (ends_moreMembers (depth + 1) depth members ('}' :: rest)) first
    rw [readObject_more others enough] at step
    have close := closeObject_written (blank_newLine depth) rest
    rw [List.append_assoc, text]
    unfold Record.read
    rw [skipSpace_mark blank (by rfl)]
    simp only [step, complete, close, bind, Except.bind, pure, Except.pure]

end LedgerWallet.Json
