import Mathlib.Data.List.Forall2
import LedgerWallet.Proofs.Bytes.Hex
import LedgerWallet.Proofs.Json.Written
import LedgerWallet.Proofs.Text.Numerals

namespace LedgerWallet.Json

/-- What stands in front of a part: white space, and a comma too if there is a part before it. -/
def Gap : Bool → List Char → Prop
  | true, gap => Blank gap
  | false, gap => ∃ space space', Blank space ∧ Blank space' ∧ gap = space ++ ',' :: space'

inductive Parts : Bool → List Char → List (List Char) → Prop
  | nil {isFirst : Bool} {space : List Char} : Blank space → Parts isFirst space []
  | cons {isFirst : Bool} {gap text more : List Char} {texts : List (List Char)} :
      Gap isFirst gap → Parts false more texts → Parts isFirst (gap ++ text ++ more) (text :: texts)

def ListText (chars : List Char) (items : List (List Char)) : Prop :=
  ∃ body, Parts true body items ∧ chars = '[' :: (body ++ [']'])

variable {κ : Type}

def MemberText (keyText : List Char → κ → Prop) (chars : List Char) (member : κ × List Char) :
    Prop :=
  ∃ key space space', keyText key member.1 ∧ Blank space ∧ Blank space' ∧
    chars = key ++ space ++ ':' :: (space' ++ member.2)

def ObjectText (keyText : List Char → κ → Prop) (chars : List Char)
    (members : List (κ × List Char)) : Prop :=
  ∃ body texts, Parts true body texts ∧ List.Forall₂ (MemberText keyText) texts members ∧
    chars = '{' :: (body ++ ['}'])

def SpellsUnit (digits : List Char) (unit : Nat) : Prop :=
  ∃ high low : UInt8, Hex.Spells digits [high, low] ∧ unit = 256 * high.toNat + low.toNat

def shortEscapes : List (Char × Char) :=
  [('"', '"'), ('\\', '\\'), ('/', '/'), ('b', '\x08'), ('f', '\x0c'), ('n', '\n'), ('r', '\r'),
    ('t', '\t')]

def IsPlain (c : Char) : Prop := c ≠ '"' ∧ c ≠ '\\' ∧ 0x20 ≤ c.toNat

/-- A text of one character. One beyond 16 bits may be given by two surrogates. -/
inductive CharText : List Char → Char → Prop
  | plain {c : Char} : IsPlain c → CharText [c] c
  | short {e c : Char} : (e, c) ∈ shortEscapes → CharText ['\\', e] c
  | unit {digits : List Char} {c : Char} : SpellsUnit digits c.toNat →
      CharText ('\\' :: 'u' :: digits) c
  | pair {digits digits' : List Char} {lead trail : Nat} {c : Char} :
      SpellsUnit digits lead → SpellsUnit digits' trail →
      isLeadSurrogate lead = true → isTrailSurrogate trail = true →
      c.toNat = 0x10000 + (lead - 0xD800) * 0x400 + (trail - 0xDC00) →
      CharText ('\\' :: 'u' :: (digits ++ '\\' :: 'u' :: digits')) c

inductive CharsText : List Char → List Char → Prop
  | nil : CharsText [] []
  | cons {text more : List Char} {c : Char} {chars : List Char} :
      CharText text c → CharsText more chars → CharsText (text ++ more) (c :: chars)

def StringText (chars : List Char) (s : String) : Prop :=
  ∃ body, CharsText body s.toList ∧ chars = '"' :: (body ++ ['"'])

/-- What may stand between quotation marks at all: the code units need not make characters. -/
inductive UnitsText : List Char → Prop
  | nil : UnitsText []
  | plain {c : Char} {more : List Char} : IsPlain c → UnitsText more → UnitsText (c :: more)
  | short {e c : Char} {more : List Char} : (e, c) ∈ shortEscapes → UnitsText more →
      UnitsText ('\\' :: e :: more)
  | unit {digits more : List Char} {unit : Nat} : SpellsUnit digits unit → UnitsText more →
      UnitsText ('\\' :: 'u' :: (digits ++ more))

def QuotedText (chars : List Char) : Prop :=
  ∃ body, UnitsText body ∧ chars = '"' :: (body ++ ['"'])

def IntegerText (chars : List Char) : Prop :=
  chars = ['0'] ∨ Numeral.IsDigits chars ∧ chars.head? ≠ some '0'

def FractionText (chars : List Char) : Prop :=
  chars = [] ∨ ∃ digits, Numeral.IsDigits digits ∧ chars = '.' :: digits

def ExponentText (chars : List Char) : Prop :=
  chars = [] ∨ ∃ mark sign digits, (mark = 'e' ∨ mark = 'E') ∧
    (sign = [] ∨ sign = ['+'] ∨ sign = ['-']) ∧ Numeral.IsDigits digits ∧
      chars = mark :: (sign ++ digits)

def NumberText (chars : List Char) : Prop :=
  ∃ sign whole fraction exponent, (sign = [] ∨ sign = ['-']) ∧ IntegerText whole ∧
    FractionText fraction ∧ ExponentText exponent ∧
      chars = sign ++ (whole ++ (fraction ++ exponent))

inductive ValueText : List Char → Prop
  | null : ValueText ['n', 'u', 'l', 'l']
  | isTrue : ValueText ['t', 'r', 'u', 'e']
  | isFalse : ValueText ['f', 'a', 'l', 's', 'e']
  | number {chars : List Char} : NumberText chars → ValueText chars
  | string {chars : List Char} : QuotedText chars → ValueText chars
  | list {chars : List Char} {items : List (List Char)} : ListText chars items →
      (∀ item ∈ items, ValueText item) → ValueText chars
  | object {chars : List Char} {members : List (Unit × List Char)} :
      ObjectText (fun key _ => QuotedText key) chars members →
      (∀ member ∈ members, ValueText member.2) → ValueText chars

variable {γ : Type}

/-- A record: an object with each of the wanted members once, among others of any kind, or a list
of just their values in their order. -/
inductive RecordText (valueText : List Char → γ → Prop) (told : List (String × γ)) :
    List Char → Prop
  | object {chars : List Char} {fields : List (String × List Char)} :
      ObjectText StringText chars fields →
      (∀ member ∈ told, ∃ text, valueText text member.2 ∧
        fields.filter (fun field => field.1 = member.1) = [(member.1, text)]) →
      (∀ field ∈ fields, field.1 ∉ told.map Prod.fst → ValueText field.2) →
      RecordText valueText told chars
  | list {chars : List Char} {texts : List (List Char)} : ListText chars texts →
      List.Forall₂ (fun text member => valueText text member.2) texts told →
      RecordText valueText told chars

def StandsAlone (valueText : List Char → Prop) (whole : String) : Prop :=
  ∃ space chars space', Blank space ∧ Blank space' ∧ valueText chars ∧
    whole.toList = space ++ chars ++ space'

end LedgerWallet.Json
