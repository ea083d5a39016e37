import LedgerWallet.Proofs.Json.Recognition

namespace LedgerWallet.Json

variable {β : Type} {isFirst : Bool} {rest rest' text text' space space' : List Char}

/-- Where values end is known from what they are, not from what is read of them. -/
theorem ValueText.unique (h : ValueText text) (h' : ValueText text') (stop : Delimited rest)
    (stop' : Delimited rest') (same : text ++ rest = text' ++ rest') :
    text = text' ∧ rest = rest' := by
  have passed : skipValue (text ++ rest) = .ok rest := skipValue_of_valueText blank_nil h stop
  have passed' : skipValue (text' ++ rest') = .ok rest' := skipValue_of_valueText blank_nil h' stop'
  rw [same, passed'] at passed
  cases passed
  exact ⟨List.append_cancel_right same, rfl⟩

theorem StringText.unique {s s' : String} (h : StringText text s) (h' : StringText text' s')
    (same : text ++ rest = text' ++ rest') : s = s' ∧ rest = rest' := by
  obtain ⟨body, spelled, rfl⟩ := h
  obtain ⟨body', spelled', rfl⟩ := h'
  have read : readString (body ++ '"' :: rest) = .ok (s, rest) :=
    readString_eq_ok_iff.2 ⟨body, spelled, rfl⟩
  have read' : readString (body' ++ '"' :: rest') = .ok (s', rest') :=
    readString_eq_ok_iff.2 ⟨body', spelled', rfl⟩
  have inside : body ++ '"' :: rest = body' ++ '"' :: rest' := by simpa using same
  rw [inside, read'] at read
  cases read
  exact ⟨rfl, rfl⟩

theorem eq_of_space_append {c c' : Char} (blank : Blank space) (blank' : Blank space')
    (noSpace : isSpace c = false) (noSpace' : isSpace c' = false)
    (same : space ++ c :: rest = space' ++ c' :: rest') : c = c' ∧ rest = rest' := by
  have skipped := congrArg skipSpace same
  rw [skipSpace_mark blank noSpace, skipSpace_mark blank' noSpace'] at skipped
  exact List.cons.inj skipped

theorem ValueText.unique_behind_space (blank : Blank space) (blank' : Blank space')
    (h : ValueText text) (h' : ValueText text') (stop : Delimited rest) (stop' : Delimited rest')
    (same : space ++ text ++ rest = space' ++ text' ++ rest') : text = text' ∧ rest = rest' := by
  apply h.unique h' stop stop'
  obtain ⟨c, more, rfl, noSpace, -⟩ := h.head
  obtain ⟨c', more', rfl, noSpace', -⟩ := h'.head
  simp only [List.append_assoc, List.cons_append] at same ⊢
  rw [(eq_of_space_append blank blank' noSpace noSpace' same).1,
    (eq_of_space_append blank blank' noSpace noSpace' same).2]

def Leads (close : Char) (text : List Char) : Prop :=
  ∃ c more, text = c :: more ∧ isSpace c = false ∧ c ≠ close

variable {close : Char} {gap gap' body body' : List Char} {texts texts' : List (List Char)}

theorem Gap.unique (isGap : Gap isFirst gap) (isGap' : Gap isFirst gap') (leads : Leads close text)
    (leads' : Leads close text') (same : gap ++ text ++ rest = gap' ++ text' ++ rest') :
    text ++ rest = text' ++ rest' := by
  obtain ⟨c, more, rfl, noSpace, -⟩ := leads
  obtain ⟨c', more', rfl, noSpace', -⟩ := leads'
  have behind {space space' : List Char} (blank : Blank space) (blank' : Blank space')
      (same : space ++ c :: (more ++ rest) = space' ++ c' :: (more' ++ rest')) :
      c :: more ++ rest = c' :: more' ++ rest' := by
    obtain ⟨first, others⟩ := eq_of_space_append blank blank' noSpace noSpace' same
    rw [List.cons_append, List.cons_append, first, others]
  cases isFirst with
  | true => exact behind isGap isGap' (by simpa using same)
  | false =>
    obtain ⟨before, after, blank, blank₁, rfl⟩ := isGap
    obtain ⟨before', after', blank', blank₁', rfl⟩ := isGap'
    have commas : before ++ ',' :: (after ++ c :: (more ++ rest)) =
        before' ++ ',' :: (after' ++ c' :: (more' ++ rest')) := by simpa using same
    exact behind blank₁ blank₁' (eq_of_space_append blank blank' (by rfl) (by rfl) commas).2

theorem Gap.ne_close (isGap : Gap isFirst gap) (blank : Blank space) (leads : Leads close text)
    (noSpace : isSpace close = false) (noComma : close ≠ ',') :
    gap ++ text ++ rest ≠ space ++ close :: rest' := by
  intro same
  cases isFirst with
  | true =>
    obtain ⟨c, more, rfl, noSpace', other⟩ := leads
    rw [List.append_assoc, List.cons_append] at same
    exact other (eq_of_space_append isGap blank noSpace' noSpace same).1
  | false =>
    obtain ⟨before, after, blank', -, rfl⟩ := isGap
    rw [List.append_assoc, List.append_assoc, List.cons_append] at same
    exact noComma (eq_of_space_append blank' blank (by rfl) noSpace same).1.symm

theorem Parts.unique {Means : List Char → β → Prop} {bs bs' : List β}
    (leads : ∀ {text b}, Means text b → Leads close text)
    (unique : ∀ {text text' b b' rest rest'}, Means text b → Means text' b' → Delimited rest →
      Delimited rest' → text ++ rest = text' ++ rest' → b = b' ∧ rest = rest')
    (isMark : close = ']' ∨ close = '}') (parts : Parts isFirst body texts)
    (parts' : Parts isFirst body' texts') (mean : List.Forall₂ Means texts bs)
    (mean' : List.Forall₂ Means texts' bs')
    (same : body ++ close :: rest = body' ++ close :: rest') : bs = bs' ∧ rest = rest' := by
  have noSpace : isSpace close = false := by rcases isMark with rfl | rfl <;> rfl
  have noComma : close ≠ ',' := by rcases isMark with rfl | rfl <;> decide
  have stop (rest : List Char) : Delimited (close :: rest) := delimited_mark (Or.inr isMark) rest
  induction parts generalizing body' texts' bs bs' with
  | nil blank =>
    cases mean
    cases parts' with
    | nil blank' =>
      cases mean'
      exact ⟨rfl, (eq_of_space_append blank blank' noSpace noSpace same).2⟩
    | cons isGap' parts' =>
      cases mean' with
      | cons first' _ =>
        rw [List.append_assoc] at same
        exact absurd same.symm (isGap'.ne_close blank (leads first') noSpace noComma)
  | cons isGap parts ih =>
    cases mean with
    | cons first others =>
      rw [List.append_assoc] at same
      cases parts' with
      | nil blank' => exact absurd same (isGap.ne_close blank' (leads first) noSpace noComma)
      | cons isGap' parts' =>
        cases mean' with
        | cons first' others' =>
          have behind := isGap.unique isGap' (leads first) (leads first')
            (same.trans (List.append_assoc _ _ _))
          obtain ⟨rfl, more⟩ := unique first first' (parts.delimited (stop rest))
            (parts'.delimited (stop rest')) behind
          obtain ⟨rfl, rfl⟩ := ih parts' others others' more
          exact ⟨rfl, rfl⟩

theorem ListText.unique {items items' : List (List Char)} (h : ListText text items)
    (h' : ListText text' items') (areValues : ∀ item ∈ items, ValueText item)
    (areValues' : ∀ item ∈ items', ValueText item) (same : text ++ rest = text' ++ rest') :
    items = items' := by
  have themselves {items : List (List Char)} (areValues : ∀ item ∈ items, ValueText item) :
      List.Forall₂ (fun text item => text = item ∧ ValueText item) items items :=
    List.forall₂_same.2 fun item there => ⟨rfl, areValues item there⟩
  obtain ⟨body, parts, rfl⟩ := h
  obtain ⟨body', parts', rfl⟩ := h'
  have inside : body ++ ']' :: rest = body' ++ ']' :: rest' := by simpa using same
  refine (Parts.unique ?_ ?_ (Or.inl rfl) parts parts' (themselves areValues)
    (themselves areValues') inside).1
  · intro text item means
    obtain ⟨rfl, isValue⟩ := means
    obtain ⟨c, more, spelled, noSpace, -, noClose, -⟩ := isValue.head
    exact ⟨c, more, spelled, noSpace, noClose⟩
  · intro text text' item item' rest rest' means means' stop stop' same
    obtain ⟨rfl, isValue⟩ := means
    obtain ⟨rfl, isValue'⟩ := means'
    exact isValue.unique isValue' stop stop' same

def FieldText (text : List Char) (field : String × List Char) : Prop :=
  MemberText StringText text field ∧ ValueText field.2

variable {field field' : String × List Char}

theorem FieldText.leads (h : FieldText text field) : Leads '}' text := by
  obtain ⟨⟨_, space, space', ⟨body, -, rfl⟩, -, -, rfl⟩, -⟩ := h
  exact ⟨'"', _, rfl, by decide⟩

theorem FieldText.unique (h : FieldText text field) (h' : FieldText text' field')
    (stop : Delimited rest) (stop' : Delimited rest') (same : text ++ rest = text' ++ rest') :
    field = field' ∧ rest = rest' := by
  obtain ⟨⟨key, space, after, isKey, blank, blankAfter, rfl⟩, isValue⟩ := h
  obtain ⟨⟨key', space', after', isKey', blank', blankAfter', rfl⟩, isValue'⟩ := h'
  simp only [List.append_assoc, List.cons_append] at same
  obtain ⟨sameKey, colons⟩ := isKey.unique isKey' same
  have values := (eq_of_space_append blank blank' (by rfl) (by rfl) colons).2
  obtain ⟨sameValue, behind⟩ := isValue.unique_behind_space blankAfter blankAfter' isValue' stop
    stop' (by simpa using values)
  exact ⟨Prod.ext sameKey sameValue, behind⟩

theorem ObjectText.unique {fields fields' : List (String × List Char)}
    (h : ObjectText StringText text fields) (h' : ObjectText StringText text' fields')
    (areValues : ∀ field ∈ fields, ValueText field.2)
    (areValues' : ∀ field ∈ fields', ValueText field.2) (same : text ++ rest = text' ++ rest') :
    fields = fields' := by
  obtain ⟨body, texts, parts, members, rfl⟩ := h
  obtain ⟨body', texts', parts', members', rfl⟩ := h'
  have inside : body ++ '}' :: rest = body' ++ '}' :: rest' := by simpa using same
  have both {texts : List (List Char)} {fields : List (String × List Char)}
      (members : List.Forall₂ (MemberText StringText) texts fields)
      (areValues : ∀ field ∈ fields, ValueText field.2) : List.Forall₂ FieldText texts fields := by
    induction members with
    | nil => exact .nil
    | cons isMember _ ih =>
      obtain ⟨first, others⟩ := List.forall_mem_cons.1 areValues
      exact .cons ⟨isMember, first⟩ (ih others)
  exact (Parts.unique FieldText.leads FieldText.unique (Or.inr rfl) parts parts'
    (both members areValues) (both members' areValues') inside).1

theorem StandsAlone.same_front {first second : List Char → Prop} {whole : String}
    (h : StandsAlone first whole) (h' : StandsAlone second whole)
    (leads : ∀ {text}, first text → ∃ c more, text = c :: more ∧ isSpace c = false)
    (leads' : ∀ {text}, second text → ∃ c more, text = c :: more ∧ isSpace c = false) :
    ∃ text text' rest rest', first text ∧ second text' ∧ text ++ rest = text' ++ rest' := by
  obtain ⟨space, text, rest, blank, -, isFirst, shape⟩ := h
  obtain ⟨space', text', rest', blank', -, isSecond, shape'⟩ := h'
  obtain ⟨c, more, rfl, noSpace⟩ := leads isFirst
  obtain ⟨c', more', rfl, noSpace'⟩ := leads' isSecond
  refine ⟨_, _, rest, rest', isFirst, isSecond, ?_⟩
  have same := shape.symm.trans shape'
  simp only [List.append_assoc, List.cons_append] at same ⊢
  obtain ⟨front, behind⟩ := eq_of_space_append blank blank' noSpace noSpace' same
  rw [front, behind]

theorem ListText.leads {items : List (List Char)} (h : ListText text items) :
    ∃ c more, text = c :: more ∧ isSpace c = false := by
  obtain ⟨body, -, rfl⟩ := h
  exact ⟨'[', _, rfl, rfl⟩

theorem ObjectText.leads {fields : List (String × List Char)}
    (h : ObjectText StringText text fields) : ∃ c more, text = c :: more ∧ isSpace c = false := by
  obtain ⟨body, texts, -, -, rfl⟩ := h
  exact ⟨'{', _, rfl, rfl⟩

theorem items_unique {items items' : List (List Char)} {whole : String}
    (h : StandsAlone (fun text => ListText text items) whole)
    (h' : StandsAlone (fun text => ListText text items') whole)
    (areValues : ∀ item ∈ items, ValueText item)
    (areValues' : ∀ item ∈ items', ValueText item) : items = items' := by
  obtain ⟨text, text', rest, rest', isList, isList', same⟩ :=
    h.same_front h' ListText.leads ListText.leads
  exact isList.unique isList' areValues areValues' same

theorem fields_unique {fields fields' : List (String × List Char)} {whole : String}
    (h : StandsAlone (fun text => ObjectText StringText text fields) whole)
    (h' : StandsAlone (fun text => ObjectText StringText text fields') whole)
    (areValues : ∀ field ∈ fields, ValueText field.2)
    (areValues' : ∀ field ∈ fields', ValueText field.2) : fields = fields' := by
  obtain ⟨text, text', rest, rest', isObject, isObject', same⟩ :=
    h.same_front h' ObjectText.leads ObjectText.leads
  exact isObject.unique isObject' areValues areValues' same

end LedgerWallet.Json
