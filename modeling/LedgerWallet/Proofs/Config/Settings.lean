import LedgerWallet.Proofs.Config.Saving
import LedgerWallet.Proofs.Json.Fields

namespace LedgerWallet.Config

open Json

inductive Setting where
  | node (url : String)
  | dataDirectory (directory : String)
  | gasPrice (price : UInt64)
  | gasLimit (limit : UInt64)
  | timeoutSeconds (seconds : UInt64)

namespace Setting

def key : Setting → String
  | node _ => "node"
  | dataDirectory _ => "data_dir"
  | gasPrice _ => "gas_price"
  | gasLimit _ => "gas_limit"
  | timeoutSeconds _ => "request_timeout_secs"

def keys : List String := ["node", "data_dir", "gas_price", "gas_limit", "request_timeout_secs"]

theorem key_mem_keys (setting : Setting) : setting.key ∈ keys := by
  cases setting <;> simp [key, keys]

/-- The texts of its value: a string, or a number of 64 bits without a sign, a fraction or an
exponent. -/
def SpelledBy (text : List Char) : Setting → Prop
  | node url => StringText text url
  | dataDirectory directory => StringText text directory
  | gasPrice price => WordText text price
  | gasLimit limit => WordText text limit
  | timeoutSeconds seconds => WordText text seconds

def Spells (key : String) (text : List Char) (setting : Setting) : Prop :=
  setting.key = key ∧ setting.SpelledBy text

def put (setting : Setting) (draft : Draft) : Draft :=
  match setting with
  | node url => { draft with node := some url }
  | dataDirectory directory => { draft with dataDirectory := some directory }
  | gasPrice price => { draft with gasPrice := some price }
  | gasLimit limit => { draft with gasLimit := some limit }
  | timeoutSeconds seconds => { draft with timeoutSeconds := some seconds }

theorem Spells.isValue {key : String} {text : List Char} {setting : Setting}
    (h : Spells key text setting) : ValueText text := by
  obtain ⟨-, spelled⟩ := h
  cases setting with
  | node | dataDirectory => exact .string (StringText.quoted spelled)
  | gasPrice | gasLimit | timeoutSeconds => exact valueText_of_isNumeral spelled

end Setting

def settings (config : Config) : List Setting :=
  [.node config.node, .dataDirectory config.dataDirectory.text, .gasPrice config.gasPrice,
    .gasLimit config.gasLimit, .timeoutSeconds config.timeoutSeconds]

def Draft.holds (draft : Draft) (key : String) : Option Setting :=
  if key = "node" then draft.node.map .node
  else if key = "data_dir" then draft.dataDirectory.map .dataDirectory
  else if key = "gas_price" then draft.gasPrice.map .gasPrice
  else if key = "gas_limit" then draft.gasLimit.map .gasLimit
  else if key = "request_timeout_secs" then draft.timeoutSeconds.map .timeoutSeconds
  else none

theorem accepts_member {β : Type} {key : String} {shape : Shape β} {get : Draft → Option β}
    {set : β → Draft → Draft} {valueText : List Char → β → Prop} (make : β → Setting)
    (accepts : Accepts shape.read valueText)
    (puts : ∀ value draft, (make value).put draft = set value draft)
    (spells : ∀ text setting, Setting.Spells key text setting ↔
      ∃ value, valueText text value ∧ setting = make value) (draft : Draft) :
    Accepts ((Member.ofShape key shape get set).read draft) fun text next =>
      ∃ setting, Setting.Spells key text setting ∧ next = setting.put draft := by
  have same (text : List Char) (next : Draft) :
      (∃ setting, Setting.Spells key text setting ∧ next = setting.put draft) ↔
        ∃ value, valueText text value ∧ next = set value draft := by
    simp only [spells]
    constructor
    · intro ⟨_, ⟨value, isValue, rfl⟩, put⟩
      exact ⟨value, isValue, put.trans (puts value draft)⟩
    · intro ⟨value, isValue, put⟩
      exact ⟨_, ⟨value, isValue, rfl⟩, put.trans (puts value draft).symm⟩
  simp only [same]
  exact ofShape_accepts accepts draft

theorem keyed_record (fallback : Config) :
    (record fallback).Keyed Setting.Spells (fun _ => Setting.put) Draft.holds where
  reads := by
    intro m mem draft
    simp only [record, List.mem_cons, List.not_mem_nil, or_false] at mem
    rcases mem with rfl | rfl | rfl | rfl | rfl
    · refine accepts_member .node (text_recognizes _).accepts (fun _ _ => rfl) ?_ draft
      intro text setting
      cases setting <;> simp [Setting.Spells, Setting.key, Setting.SpelledBy]
    · refine accepts_member .dataDirectory (text_recognizes _).accepts (fun _ _ => rfl) ?_ draft
      intro text setting
      cases setting <;> simp [Setting.Spells, Setting.key, Setting.SpelledBy]
    · refine accepts_member .gasPrice word_accepts (fun _ _ => rfl) ?_ draft
      intro text setting
      cases setting <;> simp [Setting.Spells, Setting.key, Setting.SpelledBy]
    · refine accepts_member .gasLimit word_accepts (fun _ _ => rfl) ?_ draft
      intro text setting
      cases setting <;> simp [Setting.Spells, Setting.key, Setting.SpelledBy]
    · refine accepts_member .timeoutSeconds word_accepts (fun _ _ => rfl) ?_ draft
      intro text setting
      cases setting <;> simp [Setting.Spells, Setting.key, Setting.SpelledBy]
  blank key := by simp [record, Draft.holds]
  given := by
    intro m mem draft
    simp only [record, List.mem_cons, List.not_mem_nil, or_false] at mem
    rcases mem with rfl | rfl | rfl | rfl | rfl
    all_goals simp [Draft.holds, Member.ofShape]
  put := by
    intro m mem text setting spelled draft
    obtain ⟨isKey, -⟩ := spelled
    simp only [record, List.mem_cons, List.not_mem_nil, or_false] at mem
    rcases mem with rfl | rfl | rfl | rfl | rfl
    all_goals
      -- Only one of the settings has the key of the member.
      cases setting <;> simp [Setting.key, Member.ofShape] at isKey
      refine ⟨rfl, fun key differs => ?_⟩
      simp only [Member.ofShape, ne_eq] at differs
      simp [Draft.holds, Setting.put, differs]

variable {fallback config : Config} {draft : Draft} {setting : Setting}

theorem settings_of_complete (complete : (record fallback).complete draft = .ok config)
    (mem : setting ∈ config.settings) : draft.holds setting.key = some setting ∨
      draft.holds setting.key = none ∧ setting ∈ fallback.settings := by
  obtain ⟨node, dataDirectory, gasPrice, gasLimit, timeoutSeconds⟩ := draft
  cases complete
  simp only [settings, List.mem_cons, List.not_mem_nil, or_false] at mem
  rcases mem with rfl | rfl | rfl | rfl | rfl
  · cases node <;> simp [Draft.holds, Setting.key, settings]
  · cases dataDirectory <;> simp [Draft.holds, Setting.key, settings]
  · cases gasPrice <;> simp [Draft.holds, Setting.key, settings]
  · cases gasLimit <;> simp [Draft.holds, Setting.key, settings]
  · cases timeoutSeconds <;> simp [Draft.holds, Setting.key, settings]

theorem exists_member {key : String} (known : key ∈ Setting.keys) :
    ∃ m ∈ (record fallback).members, m.key = key := by
  rw [← List.mem_map]
  exact known

variable {home : Home} {files : FileTree} {path : Path} {text : String}
  {fields : List (String × List Char)}

theorem settings_of_fills {final : Draft}
    (fills : (record fallback).Fills Setting.Spells (fun _ => Setting.put) (record fallback).blank
      fields final) (complete : (record fallback).complete final = .ok config)
    (mem : setting ∈ config.settings) :
    (∀ chars, (setting.key, chars) ∈ fields → setting.SpelledBy chars) ∧
      (setting.key ∉ fields.map Prod.fst → setting ∈ fallback.settings) := by
  obtain ⟨m, isMember, same⟩ := exists_member setting.key_mem_keys
  obtain ⟨-, given, absent⟩ := fills.givenWell (keyed_record fallback) isMember
  rw [same] at given absent
  rcases settings_of_complete complete mem with held | ⟨empty, byDefault⟩
  · constructor
    · intro chars there
      obtain ⟨value, spelled, held'⟩ := given chars there
      rw [held] at held'
      cases held'
      exact spelled.2
    · intro notGiven
      rw [absent notGiven] at held
      cases held
  · constructor
    · intro chars there
      obtain ⟨value, -, held⟩ := given chars there
      rw [empty] at held
      cases held
    · exact fun _ => byDefault

/-- A file that holds an object is read by its fields: each setting is the one that is given under
its key, or the default if none is, while a key that is given twice or with a value of another type
fails the whole. -/
theorem settings_read_by_key (stands : files.read path = .ok (Utf8.encode text))
    (isObject : Record.IsObject text fields) :
    ((∀ key ∈ Setting.keys, Record.GivenWell Setting.Spells key fields) →
      ∃ config, load (default home) files path = .ok config ∧ ∀ setting ∈ config.settings,
        (∀ chars, (setting.key, chars) ∈ fields → setting.SpelledBy chars) ∧
        (setting.key ∉ fields.map Prod.fst → setting ∈ (default home).settings)) ∧
    ((∃ key ∈ Setting.keys, 2 ≤ (fields.map Prod.fst).count key ∨
        ∃ chars, (key, chars) ∈ fields ∧ ∀ setting, ¬ Setting.Spells key chars setting) →
      ∃ error, load (default home) files path = .error error ∧ error.kind = .config) := by
  have keyed := keyed_record (default home)
  have parses (config : Config) :=
    keyed.parse_object_iff (a := config) Setting.Spells.isValue isObject
  rw [load_of_read stands]
  constructor
  · intro given
    have known : ∀ m ∈ (record (default home)).members,
        Record.GivenWell Setting.Spells m.key fields :=
      fun m mem => given m.key (List.mem_map_of_mem mem)
    obtain ⟨final, fills⟩ := keyed.fills_of_givenWell isObject.values known
    obtain ⟨config, complete⟩ : ∃ config, (record (default home)).complete final = .ok config :=
      ⟨_, rfl⟩
    refine ⟨config, ?_, fun setting mem => settings_of_fills fills complete mem⟩
    rw [(parses config).2 ⟨final, fills, complete⟩]
    rfl
  · intro ⟨key, known, wrong⟩
    cases parsed : (record (default home)).parse text with
    | error error => exact ⟨_, rfl, rfl⟩
    | ok config =>
      obtain ⟨final, fills, -⟩ := (parses config).1 parsed
      obtain ⟨m, isMember, rfl⟩ := exists_member known
      obtain ⟨⟨once, spelled⟩, -⟩ := fills.givenWell keyed isMember
      rcases wrong with twice | ⟨chars, there, other⟩
      · omega
      · obtain ⟨setting, isSpelled⟩ := spelled chars there
        exact absurd isSpelled (other setting)

/-- A file with a setting, behind a member that is none. The user's directory is not known. -/
theorem setting_read_behind_other :
    let home : Home := ⟨none, none⟩
    let text := "\x7b\x22extra\x22:[null],\x22gas_limit\x22:7\x7d"
    let files := FileTree.empty.insert ["config.json"] (.file (Utf8.encode text))
    ∃ config, load (default home) files ⟨"config.json"⟩ = .ok config ∧
      config.gasLimit = 7 ∧ config.node = "http://localhost:9092" ∧
      config.dataDirectory.text = "./cli-wallet" := by
  have other : MemberText StringText "\x22extra\x22:[null]".toList ("extra", "[null]".toList) :=
    ⟨_, [], [], ⟨"extra".toList, charsText_of_plain (by simp [IsPlain]), rfl⟩, blank_nil,
      blank_nil, rfl⟩
  have known : MemberText StringText "\x22gas_limit\x22:7".toList ("gas_limit", ['7']) :=
    ⟨_, [], [], ⟨"gas_limit".toList, charsText_of_plain (by simp [IsPlain]), rfl⟩,
      blank_nil, blank_nil, rfl⟩
  have start : Gap true [] := blank_nil
  have comma : Gap false [','] := ⟨[], [], blank_nil, blank_nil, rfl⟩
  have nested : ValueText "[null]".toList := by
    have items : Parts true ([] ++ "null".toList ++ []) ["null".toList] :=
      .cons start (.nil blank_nil)
    exact .list ⟨_, items, rfl⟩ (List.forall_mem_singleton.2 .null)
  have seven : WordText ['7'] 7 := Numeral.isNumeral_chars 7
  have isObject : Record.IsObject "\x7b\x22extra\x22:[null],\x22gas_limit\x22:7\x7d"
      [("extra", "[null]".toList), ("gas_limit", ['7'])] := by
    constructor
    · exact ⟨[], _, [], blank_nil, blank_nil, ⟨_, _, .cons start (.cons comma (.nil blank_nil)),
        .cons other (.cons known .nil), rfl⟩, by rfl⟩
    · exact List.forall_mem_cons.2
        ⟨nested, List.forall_mem_singleton.2 (valueText_of_isNumeral seven)⟩
  have given : ∀ key ∈ Setting.keys, Record.GivenWell Setting.Spells key
      [("extra", "[null]".toList), ("gas_limit", ['7'])] := by
    intro key known
    simp only [Setting.keys, List.mem_cons, List.not_mem_nil, or_false] at known
    rcases known with rfl | rfl | rfl | rfl | rfl
    all_goals
      refine ⟨by decide, fun chars there => ?_⟩
      simp at there
    exact ⟨.gasLimit 7, rfl, there ▸ seven⟩
  intro home text files
  have stands : files.read ⟨"config.json"⟩ = .ok (Utf8.encode text) := by rfl
  obtain ⟨config, loaded, read⟩ := (settings_read_by_key stands isObject).1 given
  refine ⟨config, loaded, ?_, ?_, ?_⟩
  · have spelled := (read (.gasLimit config.gasLimit) (by simp [settings])).1 ['7']
      (by simp [Setting.key])
    exact UInt64.toNat_inj.1 (spelled.value.symm.trans seven.value)
  · have byDefault := (read (.node config.node) (by simp [settings])).2 (by simp [Setting.key])
    simpa [settings, default] using byDefault
  · have byDefault := (read (.dataDirectory config.dataDirectory.text) (by simp [settings])).2
      (by simp [Setting.key])
    have unknown : (default home).dataDirectory.text = "./cli-wallet" := by decide +kernel
    simpa [settings, unknown] using byDefault

end LedgerWallet.Config
