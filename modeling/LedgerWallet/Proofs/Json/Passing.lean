import LedgerWallet.Proofs.Json.Numbers

namespace LedgerWallet.Json

variable {chars rest text : List Char} {c : Char}

theorem readIdent_eq_ok_iff {word : List Char} :
    readIdent word chars = .ok rest ↔ chars = word ++ rest := by
  induction word generalizing chars with
  | nil =>
    rw [readIdent, Except.ok.injEq]
    exact Iff.rfl
  | cons c word ih =>
    cases chars with
    | nil => simp [readIdent, failAt]
    | cons d chars =>
      rw [readIdent]
      split
      · rename_i same
        rw [ih, same]
        simp
      · rename_i other
        rw [List.cons_append, List.cons.injEq]
        exact ⟨fun h => (by cases h), fun h => absurd h.1.symm other⟩

theorem eq_of_skipSpace (chars : List Char) :
    ∃ space, Blank space ∧ chars = space ++ skipSpace chars :=
  ⟨chars.takeWhile isSpace, fun _ member => List.mem_takeWhile_imp member,
    List.takeWhile_append_dropWhile.symm⟩

theorem Blank.append {space space' : List Char} (h : Blank space) (h' : Blank space') :
    Blank (space ++ space') := by
  intro c member
  exact (List.mem_append.1 member).elim (h c) (h' c)

namespace Enclosing

def opens : Enclosing → Char
  | list => '['
  | object => '{'

def closes : Enclosing → Char
  | list => ']'
  | object => '}'

def PartText : Enclosing → List Char → Prop
  | list, text => ValueText text
  | object, text =>
    ∃ value, MemberText (fun key (_ : Unit) => QuotedText key) text ((), value) ∧ ValueText value

def Contents (frame : Enclosing) (isFirst : Bool) (body : List Char) : Prop :=
  ∃ texts, Parts isFirst body texts ∧ ∀ text ∈ texts, frame.PartText text

end Enclosing

open Enclosing

theorem exists_of_forall₂ {α β : Type} {R : α → β → Prop} {as : List α} {bs : List β}
    (h : List.Forall₂ R as bs) : ∀ a ∈ as, ∃ b ∈ bs, R a b := by
  induction h with
  | nil => simp
  | cons related _ ih =>
    intro a member
    rcases List.mem_cons.1 member with rfl | later
    · exact ⟨_, List.mem_cons_self, related⟩
    · obtain ⟨b, there, related⟩ := ih a later
      exact ⟨b, List.mem_cons_of_mem _ there, related⟩

theorem exists_forall₂ {α β : Type} {R : α → β → Prop} {as : List α}
    (h : ∀ a ∈ as, ∃ b, R a b) : ∃ bs, List.Forall₂ R as bs := by
  induction as with
  | nil => exact ⟨[], .nil⟩
  | cons a as ih =>
    obtain ⟨⟨b, related⟩, others⟩ := List.forall_mem_cons.1 h
    obtain ⟨bs, more⟩ := ih others
    exact ⟨b :: bs, .cons related more⟩

theorem valueText_of_contents {frame : Enclosing} {body : List Char}
    (h : frame.Contents true body) : ValueText (frame.opens :: (body ++ [frame.closes])) := by
  obtain ⟨texts, parts, isParts⟩ := h
  cases frame with
  | list => exact .list ⟨body, parts, rfl⟩ isParts
  | object =>
    obtain ⟨members, both⟩ : ∃ members : List (Unit × List Char), List.Forall₂ (fun text member =>
        MemberText (fun key _ => QuotedText key) text member ∧ ValueText member.2)
          texts members := by
      refine exists_forall₂ fun text there => ?_
      obtain ⟨value, isMember, isValue⟩ := isParts text there
      exact ⟨((), value), isMember, isValue⟩
    refine .object ⟨body, texts, parts, both.imp fun _ _ member => member.1, rfl⟩ ?_
    intro member there
    obtain ⟨text, -, isMember⟩ := exists_of_forall₂ both.flip member there
    exact isMember.2

theorem openValue_of_digit {space : List Char} (blank : Blank space) (digit : c.isDigit = true)
    (rest : List Char) :
    openValue (space ++ c :: rest) = (skipUnsigned (c :: rest)).map Opening.whole := by
  have first : isDigit c = true := by rw [isDigit_eq, digit]
  unfold openValue
  rw [skipSpace_mark blank (mark_ne_digit digit).1]
  split
  case h_1 =>
    rename_i same
    cases same
  case h_9 =>
    rename_i same
    cases same
    rw [if_pos first]
    cases skipUnsigned (c :: rest) <;> rfl
  all_goals
    rename_i same
    cases same
    exact absurd first (by decide)

theorem openValue_number {space : List Char} (blank : Blank space) (h : NumberText text)
    (stop : Delimited rest) : openValue (space ++ text ++ rest) = .ok (.whole rest) := by
  obtain ⟨sign, whole, fraction, exponent, isSign, isInteger, isFraction, isExponent, rfl⟩ := h
  have passed := skipUnsigned_complete isInteger isFraction isExponent stop
  rcases isSign with rfl | rfl
  · obtain ⟨c, digits, rfl, digit⟩ := isInteger.head
    have opened := openValue_of_digit blank digit (digits ++ (fraction ++ (exponent ++ rest)))
    rw [← List.cons_append, passed] at opened
    rw [List.nil_append, List.append_assoc, List.append_assoc, List.append_assoc]
    exact opened
  · unfold openValue
    rw [List.append_assoc, List.append_assoc, List.singleton_append,
      skipSpace_mark blank (by rfl)]
    simp only [List.append_assoc, passed, bind, Except.bind]
    rfl

theorem ValueText.scalar_or_contents (h : ValueText text) :
    (∀ space rest, Blank space → Delimited rest →
        openValue (space ++ text ++ rest) = .ok (.whole rest)) ∨
      ∃ frame body, Enclosing.Contents frame true body ∧
        text = frame.opens :: (body ++ [frame.closes]) := by
  cases h with
  | null | isTrue | isFalse =>
    left
    intro space rest blank _
    unfold openValue
    rw [List.append_assoc, List.cons_append, skipSpace_mark blank (by rfl)]
    rfl
  | number isNumber =>
    exact Or.inl fun space rest blank stop => openValue_number blank isNumber stop
  | string isString =>
    left
    intro space rest blank _
    obtain ⟨body, units, rfl⟩ := isString
    have passed : skipString (body ++ '"' :: rest) = .ok rest :=
      skipString_eq_ok_iff.2 ⟨body, units, rfl⟩
    unfold openValue
    rw [List.append_assoc, List.cons_append, skipSpace_mark blank (by rfl), List.append_assoc,
      List.singleton_append]
    simp only [passed]
    rfl
  | list isList isItems =>
    obtain ⟨body, parts, rfl⟩ := isList
    exact Or.inr ⟨.list, body, ⟨_, parts, isItems⟩, rfl⟩
  | object isObject isValues =>
    obtain ⟨body, texts, parts, members, rfl⟩ := isObject
    refine Or.inr ⟨.object, body, ⟨texts, parts, fun text there => ?_⟩, rfl⟩
    obtain ⟨⟨⟨⟩, value⟩, member, isMember⟩ := exists_of_forall₂ members text there
    exact ⟨value, isMember, isValues _ member⟩

theorem whole_of_passed {passed : Except Failure (List Char)} {opening : Opening}
    (h : (passed >>= fun left => pure (.whole left)) = .ok opening)
    (isValue : ∀ left, passed = .ok left → ∃ text, ValueText text ∧ chars = text ++ left) :
    ∃ text rest, opening = .whole rest ∧ ValueText text ∧ chars = text ++ rest := by
  obtain ⟨left, read, h⟩ := bind_ok h
  cases h
  obtain ⟨text, isValue, spelled⟩ := isValue left read
  exact ⟨text, left, rfl, isValue, spelled⟩

theorem valueText_of_skipUnsigned {sign : List Char} (isSign : sign = [] ∨ sign = ['-'])
    (read : skipUnsigned chars = .ok rest) :
    ∃ text, ValueText text ∧ sign ++ chars = text ++ rest := by
  obtain ⟨whole, fraction, exponent, isInteger, isFraction, isExponent, rfl⟩ :=
    skipUnsigned_sound read
  exact ⟨_, .number ⟨sign, whole, fraction, exponent, isSign, isInteger, isFraction, isExponent,
    rfl⟩, by simp⟩

theorem openValue_cases {opening : Opening} (h : openValue chars = .ok opening) :
    ∃ space, Blank space ∧
      ((∃ text rest, opening = .whole rest ∧ ValueText text ∧ chars = space ++ text ++ rest) ∨
        ∃ frame rest, opening = .inside frame rest ∧ chars = space ++ frame.opens :: rest) := by
  obtain ⟨space, blank, front⟩ := eq_of_skipSpace chars
  have start : (∃ text rest, opening = .whole rest ∧ ValueText text ∧
      skipSpace chars = text ++ rest) ∨
      ∃ frame rest, opening = .inside frame rest ∧ skipSpace chars = frame.opens :: rest := by
    unfold openValue at h
    split at h
    all_goals rename_i same
    · cases h
    · exact Or.inl (whole_of_passed h fun left read =>
        ⟨_, .null, by rw [same, readIdent_eq_ok_iff.1 read]; rfl⟩)
    · exact Or.inl (whole_of_passed h fun left read =>
        ⟨_, .isTrue, by rw [same, readIdent_eq_ok_iff.1 read]; rfl⟩)
    · exact Or.inl (whole_of_passed h fun left read =>
        ⟨_, .isFalse, by rw [same, readIdent_eq_ok_iff.1 read]; rfl⟩)
    · exact Or.inl (whole_of_passed h fun left read =>
        same ▸ valueText_of_skipUnsigned (Or.inr rfl) read)
    · refine Or.inl (whole_of_passed h fun left read => ?_)
      obtain ⟨body, units, rfl⟩ := skipString_eq_ok_iff.1 read
      exact ⟨_, .string ⟨body, units, rfl⟩, by simp [same]⟩
    · cases h
      exact Or.inr ⟨.list, _, rfl, same⟩
    · cases h
      exact Or.inr ⟨.object, _, rfl, same⟩
    · split at h
      · exact Or.inl (whole_of_passed h fun left read =>
          same ▸ valueText_of_skipUnsigned (Or.inl rfl) read)
      · cases h
  refine ⟨space, blank, start.imp ?_ ?_⟩
  · rintro ⟨text, rest, whole, isValue, spelled⟩
    exact ⟨text, rest, whole, isValue, by rw [front, spelled, List.append_assoc]⟩
  · rintro ⟨frame, rest, inside, spelled⟩
    exact ⟨frame, rest, inside, by rw [front, spelled]⟩

theorem passColon_eq_ok_iff :
    passColon chars = .ok rest ↔ ∃ space, Blank space ∧ chars = space ++ ':' :: rest := by
  constructor
  · intro h
    obtain ⟨space, blank, front⟩ := eq_of_skipSpace chars
    unfold passColon at h
    split at h
    · cases h
    · rename_i behind same
      cases h
      exact ⟨space, blank, same ▸ front⟩
    · cases h
  · rintro ⟨space, blank, rfl⟩
    unfold passColon
    rw [skipSpace_mark blank (by rfl)]
    rfl

theorem skipKey_eq_ok_iff :
    skipKey chars = .ok rest ↔ ∃ space key space', Blank space ∧ QuotedText key ∧ Blank space' ∧
      chars = space ++ (key ++ space' ++ ':' :: rest) := by
  constructor
  · intro h
    obtain ⟨space, blank, front⟩ := eq_of_skipSpace chars
    unfold skipKey at h
    split at h
    · cases h
    · rename_i behind same
      obtain ⟨left, read, colon⟩ := bind_ok h
      obtain ⟨body, units, rfl⟩ := skipString_eq_ok_iff.1 read
      obtain ⟨space', blank', rfl⟩ := passColon_eq_ok_iff.1 colon
      refine ⟨space, '"' :: (body ++ ['"']), space', blank, ⟨body, units, rfl⟩, blank', ?_⟩
      rw [front, same]
      simp
    · cases h
  · rintro ⟨space, key, space', blank, ⟨body, units, rfl⟩, blank', rfl⟩
    have read : skipString (body ++ '"' :: (space' ++ ':' :: rest)) =
        .ok (space' ++ ':' :: rest) := skipString_eq_ok_iff.2 ⟨body, units, rfl⟩
    have colon : passColon (space' ++ ':' :: rest) = .ok rest :=
      passColon_eq_ok_iff.2 ⟨space', blank', rfl⟩
    have shape : space ++ ('"' :: (body ++ ['"']) ++ space' ++ ':' :: rest) =
        space ++ '"' :: (body ++ '"' :: (space' ++ ':' :: rest)) := by simp
    unfold skipKey
    rw [shape, skipSpace_mark blank (by rfl)]
    simp only [read]
    exact colon

/-- The text that is asked for behind a value, or behind an opening mark, until nothing encloses. -/
def Pending : Bool → List Enclosing → List Char → Prop
  | _, [], tail => tail = []
  | isBehindValue, frame :: frames, tail =>
    ∃ body tail', frame.Contents (!isBehindValue) body ∧ Pending true frames tail' ∧
      tail = body ++ frame.closes :: tail'

def Resumes : List Enclosing → List Char → List Char → Prop
  | [], chars, rest => chars = rest
  | frame :: frames, chars, rest =>
    ∃ space text tail, Blank space ∧ frame.PartText text ∧ Pending true (frame :: frames) tail ∧
      chars = space ++ text ++ (tail ++ rest)

theorem Enclosing.Contents.cons {frame : Enclosing} {isFirst : Bool} {gap text body : List Char}
    (isGap : Gap isFirst gap) (isPart : frame.PartText text) (h : frame.Contents false body) :
    frame.Contents isFirst (gap ++ text ++ body) := by
  obtain ⟨texts, parts, areParts⟩ := h
  exact ⟨text :: texts, .cons isGap parts, List.forall_mem_cons.2 ⟨isPart, areParts⟩⟩

theorem closeValues_sound {isBehindValue : Bool} {frames frames' : List Enclosing}
    {chars' : List Char}
    (h : closeValues isBehindValue frames chars = .ok (frames', chars'))
    (resumes : Resumes frames' chars' rest) :
    ∃ tail, Pending isBehindValue frames tail ∧ chars = tail ++ rest := by
  induction frames generalizing isBehindValue chars with
  | nil =>
    cases h
    exact ⟨[], rfl, resumes⟩
  | cons frame frames ih =>
    obtain ⟨space, blank, front⟩ := eq_of_skipSpace chars
    rw [closeValues] at h
    split at h
    · cases h
    · rename_i c left same
      rw [same] at front
      split at h
      · rename_i comma
        obtain ⟨rfl, rfl⟩ := comma
        cases h
        obtain ⟨space', text, tail, blank', isPart, ⟨body, tail', contents, pending, rfl⟩, rfl⟩ :=
          resumes
        have isGap : Gap false (space ++ ',' :: space') := ⟨space, space', blank, blank', rfl⟩
        refine ⟨(space ++ ',' :: space') ++ text ++ body ++ frame.closes :: tail',
          ⟨_, tail', contents.cons isGap isPart, pending, rfl⟩, ?_⟩
        rw [front]
        simp
      · split at h
        · rename_i closing
          have mark : c = frame.closes := by
            rcases closing with ⟨rfl, rfl⟩ | ⟨rfl, rfl⟩ <;> rfl
          obtain ⟨tail, pending, rfl⟩ := ih h
          refine ⟨space ++ frame.closes :: tail,
            ⟨space, tail, ⟨[], .nil blank, by simp⟩, pending, rfl⟩,
            ?_⟩
          rw [front, mark]
          simp
        · split at h
          · cases h
          · rename_i isStart
            cases h
            obtain ⟨space', text, tail, blank', isPart, ⟨body, tail', contents, pending, rfl⟩,
              there⟩ := resumes
            have isGap : Gap true (space ++ space') := blank.append blank'
            have first : isBehindValue = false := by simpa using isStart
            refine ⟨(space ++ space') ++ text ++ body ++ frame.closes :: tail',
              ⟨_, tail', ?_, pending, rfl⟩, ?_⟩
            · rw [first]
              exact contents.cons isGap isPart
            · rw [front, there]
              simp

def resumeValues (fuel : Nat) (frames : List Enclosing) (chars : List Char) :
    Except Failure (List Char) :=
  match frames with
  | [] => .ok chars
  | .list :: _ => skipValues fuel frames chars
  | .object :: _ => skipKey chars >>= skipValues fuel frames

def closeOpening (frames : List Enclosing) : Opening →
    Except Failure (List Enclosing × List Char)
  | .whole rest => closeValues true frames rest
  | .inside frame rest => closeValues false (frame :: frames) rest

theorem skipValues_succ (fuel : Nat) (frames : List Enclosing) (chars : List Char) :
    skipValues (fuel + 1) frames chars = (do
      let opening ← openValue chars
      let reached ← closeOpening frames opening
      resumeValues fuel reached.1 reached.2) := by
  rw [skipValues]
  cases openValue chars with
  | error failure => rfl
  | ok opening => cases opening <;> rfl

theorem valueText_of_closeOpening {frames frames' : List Enclosing} {opening : Opening}
    {chars' : List Char} (opened : openValue chars = .ok opening)
    (closed : closeOpening frames opening = .ok (frames', chars'))
    (resumes : Resumes frames' chars' rest) :
    ∃ space text tail, Blank space ∧ ValueText text ∧ Pending true frames tail ∧
      chars = space ++ text ++ (tail ++ rest) := by
  obtain ⟨space, blank, ⟨text, left, rfl, isValue, rfl⟩ | ⟨frame, left, rfl, rfl⟩⟩ :=
    openValue_cases opened
  · obtain ⟨tail, pending, rfl⟩ := closeValues_sound closed resumes
    exact ⟨space, text, tail, blank, isValue, pending, rfl⟩
  · obtain ⟨_, ⟨body, tail, contents, pending, rfl⟩, rfl⟩ := closeValues_sound closed resumes
    refine ⟨space, frame.opens :: (body ++ [frame.closes]), tail, blank,
      valueText_of_contents contents, pending, ?_⟩
    simp

theorem skipValues_sound {fuel : Nat} {frames : List Enclosing}
    (h : skipValues fuel frames chars = .ok rest) :
    ∃ space text tail, Blank space ∧ ValueText text ∧ Pending true frames tail ∧
      chars = space ++ text ++ (tail ++ rest) := by
  induction fuel generalizing frames chars with
  | zero => cases h
  | succ fuel ih =>
    rw [skipValues_succ] at h
    obtain ⟨opening, opened, h⟩ := bind_ok h
    obtain ⟨⟨frames', chars'⟩, closed, resumed⟩ := bind_ok h
    refine valueText_of_closeOpening opened closed ?_
    dsimp only at resumed
    match frames', resumed with
    | [], resumed => exact Except.ok.inj resumed
    | .list :: frames', resumed =>
      obtain ⟨space, text, tail, blank, isValue, pending, rfl⟩ := ih resumed
      exact ⟨space, text, tail, blank, isValue, pending, rfl⟩
    | .object :: frames', resumed =>
      obtain ⟨left, passed, more⟩ := bind_ok resumed
      obtain ⟨space, key, space', blank, isKey, blank', rfl⟩ := skipKey_eq_ok_iff.1 passed
      obtain ⟨space'', text, tail, blank'', isValue, pending, rfl⟩ := ih more
      refine ⟨space, key ++ space' ++ ':' :: (space'' ++ text), tail, blank,
        ⟨text, ⟨key, space', space'', isKey, blank', blank'', rfl⟩, isValue⟩, pending, ?_⟩
      simp

theorem delimited_mark (isMark : c = ',' ∨ c = ']' ∨ c = '}') (rest : List Char) :
    Delimited (c :: rest) := by
  intro d head
  cases head
  exact Or.inr isMark

theorem delimited_blank {space : List Char} (blank : Blank space) (stop : Delimited rest) :
    Delimited (space ++ rest) := by
  cases space with
  | nil => exact stop
  | cons d space =>
    intro c head
    cases head
    exact Or.inl (blank _ List.mem_cons_self)

theorem Enclosing.delimited_closes (frame : Enclosing) (rest : List Char) :
    Delimited (frame.closes :: rest) := by
  cases frame with
  | list => exact delimited_mark (Or.inr (Or.inl rfl)) rest
  | object => exact delimited_mark (Or.inr (Or.inr rfl)) rest

theorem Parts.delimited {body : List Char} {texts : List (List Char)} (h : Parts false body texts)
    (stop : Delimited rest) : Delimited (body ++ rest) := by
  cases h with
  | nil blank => exact delimited_blank blank stop
  | cons isGap parts =>
    obtain ⟨space, space', blank, -, rfl⟩ := isGap
    simp only [List.append_assoc, List.cons_append]
    exact delimited_blank blank (delimited_mark (Or.inl rfl) _)

theorem Pending.delimited {frames : List Enclosing} {tail : List Char}
    (h : Pending true frames tail) (stop : Delimited rest) : Delimited (tail ++ rest) := by
  cases frames with
  | nil =>
    obtain rfl : tail = [] := h
    exact stop
  | cons frame frames =>
    obtain ⟨body, tail', ⟨texts, parts, -⟩, -, rfl⟩ := h
    rw [List.append_assoc]
    exact parts.delimited (frame.delimited_closes _)

theorem ValueText.head (h : ValueText text) :
    ∃ c more, text = c :: more ∧ isSpace c = false ∧ c ≠ ',' ∧ c ≠ ']' ∧ c ≠ '}' := by
  cases h with
  | null | isTrue | isFalse => exact ⟨_, _, rfl, by decide⟩
  | string isString =>
    obtain ⟨body, -, rfl⟩ := isString
    exact ⟨_, _, rfl, by decide⟩
  | list isList _ =>
    obtain ⟨body, -, rfl⟩ := isList
    exact ⟨_, _, rfl, by decide⟩
  | object isObject _ =>
    obtain ⟨body, -, -, -, rfl⟩ := isObject
    exact ⟨_, _, rfl, by decide⟩
  | number isNumber =>
    obtain ⟨sign, whole, fraction, exponent, isSign, isInteger, -, -, rfl⟩ := isNumber
    rcases isSign with rfl | rfl
    · obtain ⟨c, digits, rfl, digit⟩ := isInteger.head
      exact ⟨c, _, rfl, mark_ne_digit digit⟩
    · exact ⟨_, _, rfl, by decide⟩

theorem Enclosing.PartText.head {frame : Enclosing} (h : frame.PartText text) :
    ∃ c more, text = c :: more ∧ isSpace c = false ∧ c ≠ ',' ∧ c ≠ ']' ∧ c ≠ '}' := by
  cases frame with
  | list => exact ValueText.head h
  | object =>
    obtain ⟨value, ⟨key, space, space', ⟨body, -, rfl⟩, -, -, rfl⟩, -⟩ := h
    exact ⟨_, _, rfl, by decide⟩

theorem closeValues_complete {isBehindValue : Bool} {frames : List Enclosing} {tail : List Char}
    (h : Pending isBehindValue frames tail) (rest : List Char) :
    ∃ frames' chars', closeValues isBehindValue frames (tail ++ rest) = .ok (frames', chars') ∧
      Resumes frames' chars' rest ∧ chars'.length ≤ (tail ++ rest).length := by
  induction frames generalizing isBehindValue tail with
  | nil =>
    obtain rfl : tail = [] := h
    exact ⟨[], rest, rfl, rfl, Nat.le_refl _⟩
  | cons frame frames ih =>
    obtain ⟨body, tail', ⟨texts, parts, areParts⟩, pending, rfl⟩ := h
    cases parts with
    | nil blank =>
      obtain ⟨frames', chars', closed, resumes, shorter⟩ := ih pending
      have noSpace : isSpace frame.closes = false := by cases frame <;> rfl
      have mark :
          (frame.closes = ']' ∧ frame = .list) ∨ (frame.closes = '}' ∧ frame = .object) := by
        cases frame with
        | list => exact Or.inl ⟨rfl, rfl⟩
        | object => exact Or.inr ⟨rfl, rfl⟩
      have noComma : ¬ (frame.closes = ',' ∧ isBehindValue = true) := by
        rintro ⟨comma, -⟩
        cases frame <;> cases comma
      refine ⟨frames', chars', ?_, resumes, ?_⟩
      · rw [List.append_assoc, List.cons_append, closeValues, skipSpace_mark blank noSpace]
        dsimp only
        rw [if_neg noComma, if_pos mark, closed]
      · simp only [List.length_append, List.length_cons] at shorter ⊢
        omega
    | @cons _ gap text more texts isGap parts =>
      obtain ⟨isPart, others⟩ := List.forall_mem_cons.1 areParts
      have resumes : ∀ {space}, Blank space → Resumes (frame :: frames)
          (space ++ text ++ (more ++ frame.closes :: tail' ++ rest)) rest :=
        fun blank => ⟨_, text, _, blank, isPart,
          ⟨more, tail', ⟨texts, parts, others⟩, pending, rfl⟩,
          rfl⟩
      cases isBehindValue with
      | true =>
        obtain ⟨space, space', blank, blank', rfl⟩ := isGap
        refine ⟨frame :: frames, _, ?_, resumes blank', ?_⟩
        · have shape : space ++ ',' :: space' ++ text ++ more ++ frame.closes :: tail' ++ rest =
              space ++ ',' :: (space' ++ text ++ (more ++ frame.closes :: tail' ++ rest)) := by simp
          rw [shape, closeValues, skipSpace_mark blank (by rfl)]
          rfl
        · simp only [List.length_append, List.length_cons]
          omega
      | false =>
        obtain ⟨c, front, rfl, noSpace, noComma, noBracket, noBrace⟩ := isPart.head
        refine ⟨frame :: frames, _, ?_, resumes blank_nil, ?_⟩
        · have shape : gap ++ c :: front ++ more ++ frame.closes :: tail' ++ rest =
              gap ++ c :: (front ++ (more ++ frame.closes :: tail' ++ rest)) := by simp
          rw [shape, closeValues, skipSpace_mark isGap noSpace]
          simp [noComma, noBracket, noBrace]
        · simp only [List.length_append, List.length_cons, List.nil_append]
          omega

theorem closeOpening_complete {frames : List Enclosing} {space tail : List Char}
    (blank : Blank space) (isValue : ValueText text) (pending : Pending true frames tail)
    (stop : Delimited rest) :
    ∃ opening frames' chars', openValue (space ++ text ++ (tail ++ rest)) = .ok opening ∧
      closeOpening frames opening = .ok (frames', chars') ∧ Resumes frames' chars' rest ∧
      chars'.length < (space ++ text ++ (tail ++ rest)).length := by
  obtain ⟨c, front, spelled, noSpace, -⟩ := isValue.head
  rcases isValue.scalar_or_contents with scalar | ⟨frame, body, contents, rfl⟩
  · obtain ⟨frames', chars', closed, resumes, shorter⟩ := closeValues_complete pending rest
    refine ⟨.whole (tail ++ rest), frames', chars',
      scalar space _ blank (pending.delimited stop), closed, resumes, ?_⟩
    rw [spelled]
    simp only [List.length_append, List.length_cons] at shorter ⊢
    omega
  · have inside : Pending false (frame :: frames) (body ++ frame.closes :: tail) :=
      ⟨body, tail, contents, pending, rfl⟩
    obtain ⟨frames', chars', closed, resumes, shorter⟩ := closeValues_complete inside rest
    refine ⟨.inside frame (body ++ frame.closes :: tail ++ rest), frames', chars', ?_, closed,
      resumes, ?_⟩
    · have shape : space ++ frame.opens :: (body ++ [frame.closes]) ++ (tail ++ rest) =
          space ++ frame.opens :: (body ++ frame.closes :: tail ++ rest) := by simp
      rw [shape]
      unfold openValue
      cases frame with
      | list =>
        rw [skipSpace_mark blank (by rfl)]
        rfl
      | object =>
        rw [skipSpace_mark blank (by rfl)]
        rfl
    · simp only [List.length_append, List.length_cons] at shorter ⊢
      omega

theorem skipValues_complete {fuel : Nat} {frames : List Enclosing} {space text tail : List Char}
    (blank : Blank space) (isValue : ValueText text) (pending : Pending true frames tail)
    (stop : Delimited rest) (enough : (space ++ text ++ (tail ++ rest)).length < fuel) :
    skipValues fuel frames (space ++ text ++ (tail ++ rest)) = .ok rest := by
  induction fuel generalizing frames space text tail with
  | zero => omega
  | succ fuel ih =>
    obtain ⟨opening, frames', chars', opened, closed, resumes, shorter⟩ :=
      closeOpening_complete blank isValue pending stop
    rw [skipValues_succ, opened]
    change (closeOpening frames opening >>= _) = _
    rw [closed]
    change resumeValues fuel frames' chars' = .ok rest
    match frames', resumes with
    | [], resumes =>
      rw [show chars' = rest from resumes]
      rfl
    | .list :: frames', ⟨space', text', tail', blank', isPart, pending', there⟩ =>
      subst there
      exact ih blank' isPart pending' (by omega)
    | .object :: frames', ⟨space', text', tail', blank', isPart, pending', there⟩ =>
      obtain ⟨value, ⟨key, space₁, space₂, isKey, blank₁, blank₂, rfl⟩, isValue'⟩ := isPart
      have passed : skipKey chars' = .ok (space₂ ++ value ++ (tail' ++ rest)) :=
        skipKey_eq_ok_iff.2 ⟨space', key, space₁, blank', isKey, blank₁, by rw [there]; simp⟩
      rw [resumeValues, passed]
      refine ih blank₂ isValue' pending' ?_
      rw [there] at shorter
      simp only [List.length_append, List.length_cons] at shorter enough ⊢
      omega

theorem valueText_of_skipValue (h : skipValue chars = .ok rest) :
    ∃ space text, Blank space ∧ ValueText text ∧ chars = space ++ text ++ rest := by
  obtain ⟨space, text, tail, blank, isValue, none, rfl⟩ := skipValues_sound h
  obtain rfl : tail = [] := none
  exact ⟨space, text, blank, isValue, rfl⟩

theorem skipValue_of_valueText {space : List Char} (blank : Blank space) (isValue : ValueText text)
    (stop : Delimited rest) : skipValue (space ++ text ++ rest) = .ok rest := by
  have nothing : Pending true [] [] := rfl
  exact skipValues_complete blank isValue nothing stop (Nat.lt_succ_self _)

end LedgerWallet.Json
