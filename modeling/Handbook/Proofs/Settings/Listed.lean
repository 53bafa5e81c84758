import Handbook.Proofs.Sample.AllOrNothing
import Handbook.Proofs.Toml.Table
import Handbook.Settings.File

/-!
# Settings that a file lists

A file may list any of the four settings, in any order. Reading it gives the listed settings and the
default of each of the others, if these settings together have no flaw; otherwise the first flaw is
told. Every settings can be listed, whatever characters are in them, and no settings that were read
are refused when a program is generated.
-/
namespace Handbook.Settings

open Toml Text

/-- The settings that a file may list. -/
inductive Key where
  /-- The tags of the blocks that are samples. -/
  | markers
  /-- The text that a line outside the entry point starts with. -/
  | directive
  /-- The text before each line inside the entry point. -/
  | indent
  /-- The headers that the program includes. -/
  | headers
deriving DecidableEq

/-- The key under which a setting is listed. -/
def Key.name : Key → String
  | markers => "fence_markers"
  | directive => "directive_marker"
  | indent => "indent"
  | headers => "includes"

/-- The value of a setting. -/
def value (settings : Settings) : Key → Value
  | .markers => .array (settings.markers.map .text)
  | .directive => .text settings.directive
  | .indent => .text settings.indent
  | .headers => .array (settings.headers.map .text)

/-- The entries of a file that lists some of the settings. -/
def entries (settings : Settings) (keys : List Key) : Entries :=
  keys.map fun key => (key.name, settings.value key)

/-- The listed settings, and the others as they are by default. -/
def keeping (settings : Settings) (keys : List Key) : Settings :=
  let standard : Settings := {}
  { markers := if .markers ∈ keys then settings.markers else standard.markers
    directive := if .directive ∈ keys then settings.directive else standard.directive
    indent := if .indent ∈ keys then settings.indent else standard.indent
    headers := if .headers ∈ keys then settings.headers else standard.headers }

/-- Different settings have different keys. -/
theorem Key.name_injective : Function.Injective Key.name := by
  intro key other same
  cases key <;> cases other <;> first | rfl | exact absurd same (by decide)

/-- The value of a setting is found when the setting is listed. -/
theorem lookup_entries (settings : Settings) (keys : List Key) (key : Key) :
    (settings.entries keys).lookup key.name =
      if key ∈ keys then some (settings.value key) else none := by
  induction keys with
  | nil => rfl
  | cons first rest step =>
    rw [entries] at step ⊢
    rw [List.map_cons, List.lookup_cons, step]
    by_cases same : key = first
    · simp [same]
    · have other : (key.name == first.name) = false :=
        beq_eq_false_iff_ne.2 (Key.name_injective.ne same)
      simp [same, other]

/-- The texts of an array of texts. -/
theorem texts?_map (contents : List String) :
    texts? (.array (contents.map .text)) = some contents := by
  unfold texts?
  induction contents with
  | nil => rfl
  | cons content rest step => simp_all [text?]

/-- A setting is its value if it is listed, and as it is by default otherwise. -/
theorem setting?_ite {α : Type} {read? : Value → Option α} {value : Value} {content : α}
    (read : read? value = some content) (default : α) (listed : Prop) [Decidable listed] :
    setting? read? default (if listed then some value else none) =
      some (if listed then content else default) := by
  split
  · exact read
  · rfl

/-- Each listed setting is taken from its entry, and each other one is as it is by default. -/
theorem ofEntries?_entries (settings : Settings) (keys : List Key) :
    ofEntries? [("example", .table .header (settings.entries keys))] =
      some (settings.keeping keys) := by
  have found : ofEntries? [("example", .table .header (settings.entries keys))] =
      ofValues? ((settings.entries keys).lookup Key.markers.name)
        ((settings.entries keys).lookup Key.directive.name)
        ((settings.entries keys).lookup Key.indent.name)
        ((settings.entries keys).lookup Key.headers.name) := by
    simp [ofEntries?, setting?, ofValue?, Key.name]
  have markers : texts? (settings.value .markers) = some settings.markers :=
    texts?_map settings.markers
  have headers : texts? (settings.value .headers) = some settings.headers :=
    texts?_map settings.headers
  have directive : text? (settings.value .directive) = some settings.directive := rfl
  have indent : text? (settings.value .indent) = some settings.indent := rfl
  simp only [found, lookup_entries, ofValues?, setting?_ite markers, setting?_ite directive,
    setting?_ite indent, setting?_ite headers]
  rfl

/-- A file that lists settings is read as these settings, with the defaults of the others. -/
theorem ofText_of_isSection {settings : Settings} {keys : List Key} (distinct : keys.Nodup)
    {content : String} (listed : IsSection "example" (settings.entries keys) content) :
    ofText content =
      match (settings.keeping keys).flaw? with
      | none => .ok (settings.keeping keys)
      | some flaw => .error (.flawed flaw) := by
  have different : ((settings.entries keys).map (·.1)).Nodup := by
    rw [entries, List.map_map]
    exact distinct.map Key.name_injective
  have found : (parse? content).bind ofEntries? = some (settings.keeping keys) := by
    rw [listed.read (by decide) different, Option.bind_some, ofEntries?_entries]
  cases flawed : (settings.keeping keys).flaw? <;> simp [ofText, found, flawed]

/-- The value of a setting as it is written. -/
def valueText (settings : Settings) : Key → List Char
  | .markers => arrayText settings.markers
  | .directive => basicText settings.directive
  | .indent => basicText settings.indent
  | .headers => arrayText settings.headers

/-- A file that lists some of the settings, one on each line. -/
def written (settings : Settings) (keys : List Key) : String :=
  String.ofList ('[' :: ("example".toList ++ ']' :: lines keys))
where
  /-- What stands behind the header. -/
  lines : List Key → List Char
    | [] => ['\n']
    | key :: rest =>
      '\n' :: (key.name.toList ++ ' ' :: '=' :: ' ' :: (settings.valueText key ++ lines rest))

/-- Every setting can be written. -/
theorem writes_valueText (settings : Settings) (key : Key) :
    Writes (settings.value key) (settings.valueText key) := by
  cases key with
  | markers => exact .array (isArray_arrayText settings.markers)
  | directive => exact .text (isBasicText_basicText settings.directive)
  | indent => exact .text (isBasicText_basicText settings.indent)
  | headers => exact .array (isArray_arrayText settings.headers)

/-- A file that lists settings has a table of their entries. -/
theorem isSection_written (settings : Settings) (keys : List Key) :
    IsSection "example" (settings.entries keys) (settings.written keys) := by
  have feed : Filler ['\n'] := .line .none (.inl rfl) .none
  have space : IsGaps [' '] := by simp [IsGaps]
  have table : IsTable (settings.entries keys) (written.lines settings keys) := by
    induction keys with
    | nil => exact .stop feed .none
    | cons key rest step =>
      have bare : IsBareKey key.name := by cases key <;> decide
      exact .entry feed List.mem_cons_self bare space space (settings.writes_valueText key) step
  have close : IsGaps [] := by simp [IsGaps]
  exact ⟨[], [], [], written.lines settings keys, .none, close, close, table, String.toList_ofList⟩

/-- Settings that were read have no flaw. -/
theorem flaw?_of_ofText {content : String} {settings : Settings}
    (read : ofText content = .ok settings) : settings.flaw? = none := by
  unfold ofText at read
  split at read
  · simp at read
  · split at read
    · rename_i sound
      rwa [← Except.ok.inj read]
    · simp at read

/-- A file expresses all settings without a flaw and no others. Each choice of settings can be
listed, whatever their texts are; a file that lists them, however it is laid out, is read as them
with the defaults of the others, or refused in the words for the first flaw that these settings
have together; and settings that were read from any file are never refused later on. -/
theorem ofText_listed (settings : Settings) {keys : List Key} (distinct : keys.Nodup) :
    IsSection "example" (settings.entries keys) (settings.written keys) ∧
      (∀ content, IsSection "example" (settings.entries keys) content →
        ((settings.keeping keys).flaw? = none → ofText content = .ok (settings.keeping keys)) ∧
          ∀ flaw, (settings.keeping keys).flaw? = some flaw → ∃ error,
            ofText content = .error error ∧
              error.message = "Invalid configuration for section 'example': " ++ flaw.message) ∧
      ∀ content read, ofText content = .ok read → ∀ (before : Workspace) input output flaw,
        ((Work.generate input output read).outcome before).1 ≠ .error (.flawed flaw) := by
  refine ⟨settings.isSection_written keys, fun content listed => ?_, ?_⟩
  · have found := ofText_of_isSection distinct listed
    constructor
    · intro sound
      rw [found, sound]
    · intro flaw flawed
      rw [flawed] at found
      exact ⟨_, found, rfl⟩
  · intro content read found before input output flaw refused
    have sound := flaw?_of_ofText found
    obtain ⟨-, refuses⟩ := (Work.outcome_generate_eq_error_iff before _ input output read _).1
      (Prod.ext refused rfl)
    cases refuses with
    | flawed flawed => simp [sound] at flawed

/-- A header with an escaped character in an array over two lines, and below it a marker in a last
line without an end. -/
theorem ofText_listed_laidOut :
    [Key.headers, Key.markers].Nodup ∧
      ofText "# a\n[ example ]\r\nincludes = [\"a\\u002Fb\", # b\n]\n\tfence_markers=[\"c\"]" =
        .ok { markers := ["c"], headers := ["a/b"] } := by
  let settings : Settings := { markers := ["c"], headers := ["a/b"], indent := "\n" }
  have distinct : [Key.headers, Key.markers].Nodup := by decide
  have space : IsGaps [' '] := by simp [IsGaps]
  have close : IsGaps [] := by simp [IsGaps]
  have digits : List.Forall₂ IsHexDigit ['0', '0', '2', 'F'] [0, 0, 2, 15] := by
    simp only [IsHexDigit, List.forall₂_cons, List.forall₂_nil_left_iff]
    decide
  have slash : IsHexNumber ['0', '0', '2', 'F'] '/'.toNat := ⟨_, digits, by decide⟩
  have header : IsBasicText "a/b" "\"a\\u002Fb\"".toList :=
    ⟨[['a'], ['\\', 'u', '0', '0', '2', 'F'], ['b']], .cons (spells_spelling 'a')
      (.cons (.escaped (.short rfl slash)) (.cons (spells_spelling 'b') .nil)), by decide +kernel⟩
  have above : Remark ['#', ' ', 'a'] := .comment (by simp [IsControl])
  have inside : Remark ['#', ' ', 'b'] := .comment (by simp [IsControl])
  have headers : Writes (settings.value .headers) _ := .array ⟨_, .item .none header .none
    (.close (.gap (.inl rfl) (.line inside (.inl rfl) .none))), rfl⟩
  have markers : Writes (settings.value .markers) _ := .array (isArray_arrayText ["c"])
  have table : IsTable (settings.entries [.headers, .markers]) _ :=
    .entry (.line .none (.inr rfl) .none) (by simp) (by decide) space space headers
      (.entry (.line .none (.inl rfl) (.gap (.inr rfl) .none)) (by simp) (by decide) close close
        markers (.stop .none .none))
  have listed : IsSection "example" (settings.entries [.headers, .markers])
      "# a\n[ example ]\r\nincludes = [\"a\\u002Fb\", # b\n]\n\tfence_markers=[\"c\"]" :=
    ⟨_, _, _, _, .line above (.inl rfl) .none, space, space, table, by decide +kernel⟩
  exact ⟨distinct, ((ofText_listed settings distinct).2.1 _ listed).1 (by decide +kernel)⟩

end Handbook.Settings
