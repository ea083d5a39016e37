import LedgerWallet.Proofs.Json.Grammar
import LedgerWallet.Proofs.Json.Members

namespace LedgerWallet.Json

variable {chars rest digits text : List Char} {unit fuel : Nat} {c : Char}

theorem hexValue?_spells {a b c d : Char} {unit : Nat} :
    hexValue? [a, b, c, d] 0 = some unit ↔ SpellsUnit [a, b, c, d] unit := by
  constructor
  · intro h
    simp only [hexValue?] at h
    split at h
    · rename_i p first
      split at h
      · rename_i q second
        split at h
        · rename_i r third
          split at h
          · rename_i s fourth
            cases h
            have boundP := (Hex.digitValue?_range first).1
            have boundQ := (Hex.digitValue?_range second).1
            have boundR := (Hex.digitValue?_range third).1
            have boundS := (Hex.digitValue?_range fourth).1
            obtain ⟨highP, highQ⟩ := (Hex.nibbles_eq_iff boundP boundQ).1 rfl
            obtain ⟨lowR, lowS⟩ := (Hex.nibbles_eq_iff boundR boundS).1 rfl
            refine ⟨UInt8.ofNat (16 * p + q), UInt8.ofNat (16 * r + s), ?_, by omega⟩
            exact ⟨first.trans (congrArg some highP), second.trans (congrArg some highQ),
              third.trans (congrArg some lowR), fourth.trans (congrArg some lowS), trivial⟩
          · cases h
        · cases h
      · cases h
    · cases h
  · rintro ⟨high, low, ⟨first, second, third, fourth, -⟩, rfl⟩
    simp only [hexValue?, first, second, third, fourth, Option.some.injEq]
    omega

theorem length_of_spellsUnit (h : SpellsUnit digits unit) :
    ∃ a b c d, digits = [a, b, c, d] := by
  obtain ⟨high, low, spelled, -⟩ := h
  rcases digits with _ | ⟨a, _ | ⟨b, _ | ⟨c, _ | ⟨d, _ | ⟨e, digits⟩⟩⟩⟩⟩
  case cons.cons.cons.cons.nil => exact ⟨a, b, c, d, rfl⟩
  all_goals simp [Hex.Spells] at spelled

theorem readFourHex_eq_ok_iff :
    readFourHex chars = .ok (unit, rest) ↔
      ∃ digits, SpellsUnit digits unit ∧ chars = digits ++ rest := by
  constructor
  · intro h
    unfold readFourHex at h
    split at h
    · rename_i a b c d behind
      split at h
      · rename_i value known
        cases h
        exact ⟨[a, b, c, d], hexValue?_spells.1 known, rfl⟩
      · cases h
    · split at h <;> cases h
  · rintro ⟨digits, spelled, rfl⟩
    obtain ⟨a, b, c, d, rfl⟩ := length_of_spellsUnit spelled
    simp only [List.cons_append, List.nil_append, readFourHex, hexValue?_spells.2 spelled]

theorem toNat_ofNat {n : Nat} (valid : n.isValidChar) : (Char.ofNat n).toNat = n := by
  rw [Char.ofNat, dif_pos valid]
  rfl

theorem isLeadSurrogate_iff : isLeadSurrogate unit = true ↔ 0xD800 ≤ unit ∧ unit < 0xDC00 := by
  simp [isLeadSurrogate]

theorem isTrailSurrogate_iff : isTrailSurrogate unit = true ↔ 0xDC00 ≤ unit ∧ unit < 0xE000 := by
  simp [isTrailSurrogate]

theorem isValidChar_iff_of_unit (bound : unit < 0x10000) :
    unit.isValidChar ↔ ¬ isLeadSurrogate unit = true ∧ ¬ isTrailSurrogate unit = true := by
  rw [isLeadSurrogate_iff, isTrailSurrogate_iff, Nat.isValidChar]
  omega

theorem lt_of_spellsUnit (h : SpellsUnit digits unit) : unit < 0x10000 := by
  obtain ⟨high, low, -, value⟩ := h
  have boundHigh := high.toNat_lt
  have boundLow := low.toNat_lt
  omega

theorem readTrailSurrogate_eq_ok_iff {lead : Nat} (isLead : isLeadSurrogate lead = true) :
    readTrailSurrogate lead chars = .ok (c, rest) ↔
      ∃ digits trail, SpellsUnit digits trail ∧ isTrailSurrogate trail = true ∧
        c.toNat = 0x10000 + (lead - 0xD800) * 0x400 + (trail - 0xDC00) ∧
        chars = '\\' :: 'u' :: (digits ++ rest) := by
  constructor
  · intro h
    unfold readTrailSurrogate at h
    split at h
    · cases h
    · cases h
    · rename_i behind
      obtain ⟨⟨trail, left⟩, read, taken⟩ := bind_ok h
      obtain ⟨digits, spelled, rfl⟩ := readFourHex_eq_ok_iff.1 read
      dsimp only at taken
      split at taken
      · rename_i isTrail
        obtain ⟨same, rfl⟩ := Prod.mk.inj (Except.ok.inj taken)
        refine ⟨digits, trail, spelled, isTrail, ?_, rfl⟩
        have boundLead := isLeadSurrogate_iff.1 isLead
        have boundTrail := isTrailSurrogate_iff.1 isTrail
        rw [← same]
        exact toNat_ofNat (Or.inr (by omega))
      · cases taken
    · cases h
    · cases h
  · rintro ⟨digits, trail, spelled, isTrail, same, rfl⟩
    have read : readFourHex (digits ++ rest) = .ok (trail, rest) :=
      readFourHex_eq_ok_iff.2 ⟨digits, spelled, rfl⟩
    rw [readTrailSurrogate, read]
    simp only [bind, Except.bind, isTrail, ↓reduceIte, ← same, Char.ofNat_toNat]

theorem readCodeUnit_eq_ok_iff :
    readCodeUnit chars = .ok (c, rest) ↔
      ∃ text, CharText ('\\' :: 'u' :: text) c ∧ chars = text ++ rest := by
  constructor
  · intro h
    obtain ⟨⟨unit, left⟩, read, taken⟩ := bind_ok h
    obtain ⟨digits, spelled, rfl⟩ := readFourHex_eq_ok_iff.1 read
    dsimp only at taken
    split at taken
    · cases taken
    · rename_i notTrail
      split at taken
      · rename_i isLead
        obtain ⟨digits', trail, spelled', isTrail, same, rfl⟩ :=
          (readTrailSurrogate_eq_ok_iff isLead).1 taken
        refine ⟨digits ++ '\\' :: 'u' :: digits', .pair spelled spelled' isLead isTrail same, ?_⟩
        simp
      · rename_i notLead
        obtain ⟨same, rfl⟩ := Prod.mk.inj (Except.ok.inj taken)
        have valid := (isValidChar_iff_of_unit (lt_of_spellsUnit spelled)).2 ⟨notLead, notTrail⟩
        refine ⟨digits, .unit ?_, rfl⟩
        rw [← same, toNat_ofNat valid]
        exact spelled
  · rintro ⟨text, spelled, rfl⟩
    cases spelled with
    | short known => exact absurd known (by simp [shortEscapes])
    | unit spelled =>
      have read : readFourHex (text ++ rest) = .ok (c.toNat, rest) :=
        readFourHex_eq_ok_iff.2 ⟨text, spelled, rfl⟩
      obtain ⟨notLead, notTrail⟩ := (isValidChar_iff_of_unit (lt_of_spellsUnit spelled)).1 c.valid
      simp only [readCodeUnit, read, bind, Except.bind, if_neg notTrail, if_neg notLead,
        Char.ofNat_toNat]
    | @pair digits digits' lead trail _ spelled spelled' isLead isTrail same =>
      have read : readFourHex (digits ++ ('\\' :: 'u' :: (digits' ++ rest))) =
          .ok (lead, '\\' :: 'u' :: (digits' ++ rest)) :=
        readFourHex_eq_ok_iff.2 ⟨digits, spelled, rfl⟩
      have notTrail : ¬ isTrailSurrogate lead = true := by
        rw [isLeadSurrogate_iff] at isLead
        rw [isTrailSurrogate_iff]
        omega
      have second : readTrailSurrogate lead ('\\' :: 'u' :: (digits' ++ rest)) = .ok (c, rest) :=
        (readTrailSurrogate_eq_ok_iff isLead).2 ⟨digits', trail, spelled', isTrail, same, rfl⟩
      simp only [List.cons_append, List.append_assoc, readCodeUnit, read, bind, Except.bind,
        if_neg notTrail, if_pos isLead, second]

theorem simpleEscape?_eq_some_iff {e : Char} :
    simpleEscape? e = some c ↔ (e, c) ∈ shortEscapes := by
  constructor
  · intro h
    unfold simpleEscape? at h
    split at h
    case h_9 => cases h
    all_goals
      cases h
      decide
  · intro h
    simp only [shortEscapes, List.mem_cons, Prod.mk.injEq, List.not_mem_nil, or_false] at h
    rcases h with ⟨rfl, rfl⟩ | ⟨rfl, rfl⟩ | ⟨rfl, rfl⟩ | ⟨rfl, rfl⟩ | ⟨rfl, rfl⟩ | ⟨rfl, rfl⟩ |
      ⟨rfl, rfl⟩ | ⟨rfl, rfl⟩
    all_goals rfl

theorem shortEscape_ne_unit {e : Char} (h : (e, c) ∈ shortEscapes) : e ≠ 'u' := by
  rintro rfl
  revert h
  simp [shortEscapes]

theorem readEscape_eq_ok_iff :
    readEscape chars = .ok (c, rest) ↔
      ∃ text, CharText ('\\' :: text) c ∧ chars = text ++ rest := by
  constructor
  · intro h
    unfold readEscape at h
    split at h
    · cases h
    · rename_i e behind
      split at h
      · rename_i isUnit
        obtain ⟨text, spelled, rfl⟩ := readCodeUnit_eq_ok_iff.1 h
        exact ⟨'u' :: text, spelled, by rw [isUnit]; rfl⟩
      · split at h
        · rename_i known
          cases h
          exact ⟨[e], .short (simpleEscape?_eq_some_iff.1 known), rfl⟩
        · cases h
  · rintro ⟨text, spelled, rfl⟩
    have unit : ∀ {text}, CharText ('\\' :: 'u' :: text) c →
        readEscape ('u' :: text ++ rest) = .ok (c, rest) := by
      intro text spelled
      rw [List.cons_append, readEscape, if_pos rfl]
      exact readCodeUnit_eq_ok_iff.2 ⟨text, spelled, rfl⟩
    cases spelled with
    | plain isPlain => exact absurd rfl isPlain.2.1
    | short known =>
      simp only [List.cons_append, List.nil_append, readEscape, if_neg (shortEscape_ne_unit known),
        simpleEscape?_eq_some_iff.2 known]
    | unit spelled => exact unit (.unit spelled)
    | pair spelled spelled' isLead isTrail same =>
      exact unit (.pair spelled spelled' isLead isTrail same)

theorem charsText_of_readStringChars {decoded : List Char}
    (h : readStringChars fuel chars = .ok (decoded, rest)) :
    ∃ body, CharsText body decoded ∧ chars = body ++ '"' :: rest := by
  induction fuel generalizing chars decoded with
  | zero => cases h
  | succ fuel ih =>
    cases chars with
    | nil => cases h
    | cons c behind =>
      rw [readStringChars] at h
      split at h
      · rename_i quote
        cases h
        exact ⟨[], .nil, by rw [quote]; rfl⟩
      · rename_i notQuote
        split at h
        · rename_i backslash
          obtain ⟨⟨d, left⟩, escape, h⟩ := bind_ok h
          obtain ⟨⟨others, behind⟩, more, h⟩ := bind_ok h
          cases h
          obtain ⟨text, spelled, rfl⟩ := readEscape_eq_ok_iff.1 escape
          obtain ⟨body, spelledMore, rfl⟩ := ih more
          refine ⟨'\\' :: text ++ body, .cons spelled spelledMore, ?_⟩
          rw [backslash, List.append_assoc, List.cons_append]
        · rename_i notBackslash
          split at h
          · cases h
          · rename_i printable
            obtain ⟨⟨others, left⟩, more, h⟩ := bind_ok h
            cases h
            obtain ⟨body, spelledMore, rfl⟩ := ih more
            have isPlain : IsPlain c := ⟨notQuote, notBackslash, Nat.le_of_not_lt printable⟩
            exact ⟨[c] ++ body, .cons (.plain isPlain) spelledMore, rfl⟩

theorem length_le_of_charsText {body decoded : List Char} (h : CharsText body decoded) :
    decoded.length ≤ body.length := by
  induction h with
  | nil => exact Nat.le_refl _
  | @cons text more c chars spelled _ ih =>
    have some : 1 ≤ text.length := by
      cases spelled with
      | plain | short | unit | pair => simp
    rw [List.length_append, List.length_cons]
    omega

theorem readStringChars_of_charsText {body decoded : List Char} (h : CharsText body decoded)
    (enough : decoded.length < fuel) (rest : List Char) :
    readStringChars fuel (body ++ '"' :: rest) = .ok (decoded, rest) := by
  induction h generalizing fuel with
  | nil =>
    cases fuel with
    | zero => omega
    | succ fuel => simp [readStringChars]
  | @cons text more c chars spelled _ ih =>
    cases fuel with
    | zero => omega
    | succ fuel =>
      have fewer : chars.length < fuel := by
        rw [List.length_cons] at enough
        omega
      have others := ih fewer
      have escaped : ∀ {text}, CharText ('\\' :: text) c →
          readStringChars (fuel + 1) ('\\' :: text ++ (more ++ '"' :: rest)) =
            .ok (c :: chars, rest) := by
        intro text spelled
        have read := readEscape_eq_ok_iff.2 ⟨text, spelled, Eq.refl (text ++ (more ++ '"' :: rest))⟩
        rw [List.cons_append, readStringChars, if_neg (by decide), if_pos rfl, read]
        simp only [bind, Except.bind, others]
      rw [List.append_assoc]
      cases spelled with
      | plain isPlain =>
        obtain ⟨notQuote, notBackslash, printable⟩ := isPlain
        rw [List.singleton_append, readStringChars, if_neg notQuote, if_neg notBackslash,
          if_neg (Nat.not_lt.2 printable), others]
        rfl
      | short known => exact escaped (.short known)
      | unit spelled => exact escaped (.unit spelled)
      | pair spelled spelled' isLead isTrail same =>
        exact escaped (.pair spelled spelled' isLead isTrail same)

theorem readString_eq_ok_iff {s : String} :
    readString chars = .ok (s, rest) ↔
      ∃ body, CharsText body s.toList ∧ chars = body ++ '"' :: rest := by
  constructor
  · intro h
    obtain ⟨⟨decoded, left⟩, read, h⟩ := bind_ok h
    cases h
    obtain ⟨body, spelled, rfl⟩ := charsText_of_readStringChars read
    exact ⟨body, by rw [String.toList_ofList]; exact spelled, rfl⟩
  · rintro ⟨body, spelled, rfl⟩
    have enough : s.toList.length < (body ++ '"' :: rest).length := by
      have least := length_le_of_charsText spelled
      rw [List.length_append, List.length_cons]
      omega
    rw [readString, readStringChars_of_charsText spelled enough]
    simp only [bind, Except.bind, String.ofList_toList]

theorem charsText_of_plain {chars : List Char} (plain : ∀ c ∈ chars, IsPlain c) :
    CharsText chars chars := by
  induction chars with
  | nil => exact .nil
  | cons c chars ih =>
    obtain ⟨first, others⟩ := List.forall_mem_cons.1 plain
    exact .cons (.plain first) (ih others)

theorem unitsText_of_skipStringChars (h : skipStringChars fuel chars = .ok rest) :
    ∃ body, UnitsText body ∧ chars = body ++ '"' :: rest := by
  induction fuel generalizing chars with
  | zero => cases h
  | succ fuel ih =>
    cases chars with
    | nil => cases h
    | cons c behind =>
      rw [skipStringChars.eq_def] at h
      dsimp only at h
      split at h
      · rename_i quote
        cases h
        exact ⟨[], .nil, by rw [quote]; rfl⟩
      · rename_i notQuote
        split at h
        · rename_i backslash
          split at h
          · cases h
          · rename_i d behind
            split at h
            · rename_i isUnit
              obtain ⟨⟨unit, left⟩, read, more⟩ := bind_ok h
              obtain ⟨digits, spelled, rfl⟩ := readFourHex_eq_ok_iff.1 read
              obtain ⟨body, others, rfl⟩ := ih more
              refine ⟨'\\' :: 'u' :: (digits ++ body), .unit spelled others, ?_⟩
              rw [backslash, isUnit]
              simp
            · split at h
              · rename_i known
                obtain ⟨e, known⟩ := Option.isSome_iff_exists.1 known
                obtain ⟨body, others, rfl⟩ := ih h
                refine ⟨'\\' :: d :: body, .short (simpleEscape?_eq_some_iff.1 known) others, ?_⟩
                rw [backslash]
                rfl
              · cases h
        · rename_i notBackslash
          split at h
          · cases h
          · rename_i printable
            obtain ⟨body, others, rfl⟩ := ih h
            have isPlain : IsPlain c := ⟨notQuote, notBackslash, Nat.le_of_not_lt printable⟩
            exact ⟨c :: body, .plain isPlain others, rfl⟩

theorem skipStringChars_of_unitsText {body : List Char} (h : UnitsText body)
    (enough : body.length < fuel) (rest : List Char) :
    skipStringChars fuel (body ++ '"' :: rest) = .ok rest := by
  induction h generalizing fuel with
  | nil =>
    cases fuel with
    | zero => omega
    | succ fuel => simp [skipStringChars]
  | @plain c more isPlain _ ih =>
    cases fuel with
    | zero => omega
    | succ fuel =>
      obtain ⟨notQuote, notBackslash, printable⟩ := isPlain
      rw [List.length_cons] at enough
      rw [List.cons_append, skipStringChars.eq_def]
      dsimp only
      rw [if_neg notQuote, if_neg notBackslash, if_neg (Nat.not_lt.2 printable)]
      exact ih (by omega)
  | @short e c more known _ ih =>
    cases fuel with
    | zero => omega
    | succ fuel =>
      rw [List.length_cons, List.length_cons] at enough
      rw [List.cons_append, List.cons_append, skipStringChars.eq_def]
      dsimp only
      rw [if_neg (by decide), if_pos rfl, if_neg (shortEscape_ne_unit known),
        simpleEscape?_eq_some_iff.2 known]
      exact ih (by omega)
  | @unit digits more unit spelled _ ih =>
    cases fuel with
    | zero => omega
    | succ fuel =>
      have read := readFourHex_eq_ok_iff.2
        ⟨digits, spelled, Eq.refl (digits ++ (more ++ '"' :: rest))⟩
      simp only [List.length_cons, List.length_append] at enough
      rw [List.cons_append, List.cons_append, List.append_assoc, skipStringChars.eq_def]
      dsimp only
      rw [if_neg (by decide), if_pos rfl, if_pos rfl, read]
      exact ih (by omega)

theorem skipString_eq_ok_iff :
    skipString chars = .ok rest ↔ ∃ body, UnitsText body ∧ chars = body ++ '"' :: rest := by
  constructor
  · exact unitsText_of_skipStringChars
  · rintro ⟨body, units, rfl⟩
    refine skipStringChars_of_unitsText units ?_ rest
    rw [List.length_append, List.length_cons]
    omega

end LedgerWallet.Json
