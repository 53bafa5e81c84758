import Mathlib.Data.List.DropRight
import Handbook.Proofs.Toml.Layout

/-!
# Documents of one table

A document may have one header and below it an entry on each of some lines, of which the keys are
different. It is read as one table with these entries in their order, whatever layout stands around
them. Each line is read by itself: `Draft.finish?_of_content` takes one step, and `IsTable.read`
takes the steps of all lines.
-/
namespace Handbook.Toml

open Text

/-- A key that stands without quotes. -/
def IsBareKey (key : String) : Prop :=
  key ≠ "" ∧ key.toList.all isKeyChar = true

instance : DecidablePred IsBareKey := fun key =>
  inferInstanceAs (Decidable (key ≠ "" ∧ key.toList.all isKeyChar = true))

/-- The values that are texts or arrays of texts, as they may be written. -/
inductive Writes : Value → List Char → Prop
  /-- A text stands between double quotes. -/
  | text {content : String} {text : List Char} : IsBasicText content text →
    Writes (.text content) text
  /-- The texts of an array stand between double quotes. -/
  | array {contents : List String} {text : List Char} : IsArray contents text →
    Writes (.array (contents.map .text)) text

/-- The lines of a table from behind its header on: entries, each on a line of its own, and layout
between them. The last line may go without its end. -/
inductive IsTable : Entries → List Char → Prop
  /-- No entry follows. -/
  | stop {filler remark : List Char} : Filler filler → Remark remark → IsTable [] (filler ++ remark)
  /-- An entry stands on a line below. -/
  | entry {between before after text rest : List Char} {key : String} {value : Value}
    {entries : Entries} : Filler between → '\n' ∈ between → IsBareKey key → IsGaps before →
    IsGaps after → Writes value text → IsTable entries rest →
    IsTable ((key, value) :: entries)
      (between ++ (key.toList ++ (before ++ '=' :: (after ++ (text ++ rest)))))

/-- A document of one table. -/
def IsSection (name : String) (entries : Entries) (content : String) : Prop :=
  ∃ filler before after rest, Filler filler ∧ IsGaps before ∧ IsGaps after ∧
    IsTable entries rest ∧
    content.toList = filler ++ '[' :: (before ++ (name.toList ++ (after ++ ']' :: rest)))

/-- A bare key has a first character, which is part of a key. -/
theorem IsBareKey.exists_first {key : String} (bare : IsBareKey key) :
    ∃ first more, key.toList = first :: more ∧ isKeyChar first = true := by
  obtain ⟨first, more, spelled⟩ := List.exists_cons_of_ne_nil
    (mt String.toList_eq_nil_iff.1 bare.1)
  exact ⟨first, more, spelled, List.all_eq_true.1 bare.2 first (by simp [spelled])⟩

/-- A text that begins with a bare key has a character of a key first. -/
theorem IsBareKey.first {key : String} (bare : IsBareKey key) {first : Char}
    {rest after : List Char} (begins : key.toList ++ after = first :: rest) :
    isKeyChar first = true := by
  obtain ⟨character, more, spelled, part⟩ := bare.exists_first
  rw [spelled, List.cons_append] at begins
  rwa [← (List.cons.inj begins).1]

/-- A run of other characters does not go on with a bare key. -/
theorem IsBareKey.stops {key : String} (bare : IsBareKey key) {kind : Char → Bool}
    (other : ∀ character, isKeyChar character = true → kind character = false)
    (after : List Char) : Stops kind (key.toList ++ after) := by
  intro first begins
  obtain ⟨rest, split⟩ := List.head?_eq_some_iff.1 begins
  exact other first (bare.first split)

/-- A bare key is no layout. -/
theorem IsBareKey.solid {key : String} (bare : IsBareKey key) (after : List Char) :
    Solid (key.toList ++ after) := by
  obtain ⟨first, more, spelled, part⟩ := bare.exists_first
  refine ⟨first, more ++ after, by rw [spelled, List.cons_append], fun layout => ?_⟩
  simp only [List.mem_cons, List.not_mem_nil, or_false] at layout
  rcases layout with rfl | rfl | rfl | rfl | rfl <;> exact absurd part (by decide)

/-- A bare key is read up to a character that is no part of a key. -/
theorem IsBareKey.read {key : String} (bare : IsBareKey key) {after : List Char}
    (stops : Stops isKeyChar after) : key? (key.toList ++ after) = some (key, after) := by
  obtain ⟨taken, left⟩ := takeWhile_append_of_stops (List.all_eq_true.1 bare.2) stops
  unfold key?
  split
  · rename_i begins
    exact absurd (bare.first begins) (by decide)
  · rename_i begins
    exact absurd (bare.first begins) (by decide)
  · rw [taken, left, if_neg (mt String.toList_eq_nil_iff.1 bare.1), String.ofList_toList]

/-- A key without a dot behind it is the only one of its chain. -/
theorem keyChain?_of_key {text rest after : List Char} {key : String} {mark : Char}
    (read : key? (text.dropWhile isGap) = some (key, rest))
    (ends : rest.dropWhile isGap = mark :: after) (undotted : mark ≠ '.') :
    keyChain? text = some ([key], mark :: after) := by
  rw [keyChain?]
  split
  · rename_i unread
    simp [read] at unread
  · rename_i other more again
    rw [read] at again
    obtain ⟨rfl, rfl⟩ := Prod.mk.inj (Option.some.inj again)
    rw [ends]
    split
    · rename_i dotted
      exact absurd (List.cons.inj dotted).1 undotted
    · rfl

/-- A bare key is read with the gaps around it, up to a mark. -/
theorem IsBareKey.read_chain {key : String} (bare : IsBareKey key) {before after : List Char}
    (blank : IsGaps before) (again : IsGaps after) (mark : Char) (marked : mark = '=' ∨ mark = ']')
    (rest : List Char) :
    dottedKey? (before ++ (key.toList ++ (after ++ mark :: rest))) =
      some ([key], mark :: rest) := by
  have ungapped : Stops isGap (key.toList ++ (after ++ mark :: rest)) :=
    (bare.solid _).kept.1
  have ends : Stops isKeyChar (after ++ mark :: rest) := by
    cases after with
    | nil => rcases marked with rfl | rfl <;> exact stops_cons (by decide) rest
    | cons first more =>
      rcases again first List.mem_cons_self with rfl | rfl <;> exact stops_cons (by decide) _
  have stops : Stops isGap (mark :: rest) := by
    rcases marked with rfl | rfl <;> exact stops_cons rfl rest
  have undotted : mark ≠ '.' := by
    rcases marked with rfl | rfl <;> decide
  have read : key? ((before ++ (key.toList ++ (after ++ mark :: rest))).dropWhile isGap) =
      some (key, after ++ mark :: rest) := by
    rw [blank.dropWhile_append ungapped, bare.read ends]
  rw [dottedKey?, keyChain?_of_key read (again.dropWhile_append stops) undotted]
  rfl

/-- No value starts with a gap. -/
theorem Writes.stops {value : Value} {text : List Char} (writes : Writes value text)
    (after : List Char) : Stops isGap (text ++ after) := by
  cases writes with
  | text spelled =>
    obtain ⟨spellings, -, rfl⟩ := spelled
    exact stops_cons rfl _
  | array listed =>
    obtain ⟨items, -, rfl⟩ := listed
    exact stops_cons rfl _

/-- Texts and arrays of texts are read as they are written, unless a quote stands behind them. -/
theorem Writes.read {value : Value} {text after : List Char} (writes : Writes value text)
    (stops : Stops (· == '"') after) :
    (valueReader depthLimit).read? (text ++ after) = some (value, after) := by
  cases writes with
  | text spelled => exact readsTexts_valueReader depthLimit _ _ _ spelled stops
  | array listed => exact listed.read (depthLimit - 1) after

namespace Draft

/-- One step of reading a document: a line without content is passed over, and of a line with
content the content and the end are read. -/
theorem finish?_eq (draft : Draft) (text : List Char) :
    draft.finish? text =
      if text.dropWhile isGap = [] then some draft.root
      else
        match afterLineEnd? (text.dropWhile isGap) with
        | some below => draft.finish? below
        | none =>
          (draft.content? (text.dropWhile isGap)).bind fun (made, rest) =>
            (afterLineEnd? rest).bind made.finish? := by
  rw [finish?]
  split
  · rename_i empty
    rw [if_pos empty]
  · rename_i first rest begun
    rw [begun, if_neg (List.cons_ne_nil first rest)]
    split
    · rename_i blank
      rw [blank]
    · rename_i filled
      rw [filled]
      split
      · rename_i unread
        rw [unread]
        rfl
      · rename_i read
        rw [read]
        simp only [Option.bind_some]
        split <;> simp [*]

/-- A line without content is passed over. -/
theorem finish?_of_blank (draft : Draft) {text below : List Char}
    (blank : afterLineEnd? text = some below) : draft.finish? text = draft.finish? below := by
  rw [finish?_eq]
  by_cases empty : text.dropWhile isGap = []
  · have last : below = [] := by
      simpa [afterLineEnd?, empty, afterComment, eq_comm] using blank
    rw [if_pos empty, last, finish?_eq]
    rfl
  · have same : afterLineEnd? (text.dropWhile isGap) = some below := by
      rw [← blank, afterLineEnd?, List.dropWhile_idempotent, afterLineEnd?]
    rw [if_neg empty, same]

/-- A line with content is read, and then the lines below. -/
theorem finish?_of_content {draft made : Draft} {text rest below : List Char} (solid : Solid text)
    (read : draft.content? text = some (made, rest)) (ended : afterLineEnd? rest = some below) :
    draft.finish? text = made.finish? below := by
  have unended := solid.afterLineEnd?_eq
  have kept := dropWhile_of_stops solid.kept.1
  obtain ⟨first, more, rfl, -⟩ := solid
  rw [finish?_eq, kept, if_neg (List.cons_ne_nil first more), unended]
  simp [read, ended]

end Draft

/-- Layout without an end of a line is a gap. -/
theorem afterLineEnd?_of_gap {character : Char} (blank : character = ' ' ∨ character = '\t')
    (rest : List Char) : afterLineEnd? (character :: rest) = afterLineEnd? rest := by
  rw [afterLineEnd?, List.dropWhile_cons_of_pos ((isGap_iff character).2 blank), afterLineEnd?]

/-- The end of a line is read with the remark in front of it. -/
theorem afterLineEnd?_of_ended {text below : List Char} (stops : Stops isGap text)
    (ended : afterNewline? (afterComment text) = some below) : afterLineEnd? text = some below := by
  rw [afterLineEnd?, dropWhile_of_stops stops]
  split
  · rename_i empty
    simp [empty, afterNewline?] at ended
  · exact ended

namespace Filler

variable {filler : List Char}

/-- Lines without content are passed over. -/
theorem finish?_append (fills : Filler filler) (draft : Draft) (rest : List Char) :
    draft.finish? (filler ++ rest) = draft.finish? rest := by
  induction fills with
  | none => rfl
  | gap blank _ step =>
    rw [← step, List.cons_append, Draft.finish?, Draft.finish?,
      List.dropWhile_cons_of_pos ((isGap_iff _).2 blank)]
  | @line remark ending more remarked ends _ step =>
    obtain ⟨stops, ended⟩ := remarked.ended ends (more ++ rest)
    rw [List.append_assoc, List.append_assoc,
      draft.finish?_of_blank (afterLineEnd?_of_ended stops ended), step]

/-- Layout over more than one line ends the line on which it starts. -/
theorem afterLineEnd?_append (fills : Filler filler) (broken : '\n' ∈ filler) :
    ∃ later, Filler later ∧ ∀ rest, afterLineEnd? (filler ++ rest) = some (later ++ rest) := by
  induction fills with
  | none => simp at broken
  | @gap character more blank _ step =>
    have inside : '\n' ∈ more := by
      rcases blank with rfl | rfl <;> simpa using broken
    obtain ⟨later, fills, read⟩ := step inside
    exact ⟨later, fills, fun rest => by rw [List.cons_append, afterLineEnd?_of_gap blank, read]⟩
  | @line remark ending more remarked ends fills _ =>
    refine ⟨more, fills, fun rest => ?_⟩
    obtain ⟨stops, ended⟩ := remarked.ended ends (more ++ rest)
    rw [List.append_assoc, List.append_assoc, afterLineEnd?_of_ended stops ended]

/-- A document may end with layout and a remark. -/
theorem exists_finish? (fills : Filler filler) {remark : List Char} (remarked : Remark remark)
    (draft : Draft) :
    ∃ below, afterLineEnd? (filler ++ remark) = some below ∧
      draft.finish? below = some draft.root := by
  have last : draft.finish? remark = some draft.root := by
    rw [draft.finish?_of_blank remarked.afterLineEnd?_eq]
    rw [Draft.finish?]
    rfl
  induction fills with
  | none =>
    refine ⟨[], remarked.afterLineEnd?_eq, ?_⟩
    rw [← last, draft.finish?_of_blank remarked.afterLineEnd?_eq]
  | gap blank _ step =>
    obtain ⟨below, read, done⟩ := step
    exact ⟨below, by rw [List.cons_append, afterLineEnd?_of_gap blank, read], done⟩
  | @line first ending more marked ends fills _ =>
    obtain ⟨stops, ended⟩ := marked.ended ends (more ++ remark)
    refine ⟨more ++ remark, ?_, by rw [fills.finish?_append, last]⟩
    rw [List.append_assoc, List.append_assoc, afterLineEnd?_of_ended stops ended]

end Filler

/-- An entry is added behind the others when its key is new. -/
theorem define_of_new {key : String} {entries : Entries} (new : key ∉ entries.map (·.1))
    (value : Value) : define key value entries = some (entries ++ [(key, value)]) := by
  induction entries with
  | nil => rfl
  | cons entry rest step =>
    obtain ⟨other, old⟩ := entry
    simp only [List.map_cons, List.mem_cons, not_or] at new
    have later := step new.2
    rw [define] at later ⊢
    rw [alter, if_neg (Ne.symm new.1), later]
    rfl

namespace Draft

/-- A document of which the header and some entries are read. -/
def inTable (name : String) (entries : Entries) : Draft where
  root := [(name, .table .header entries)]
  header := [name]

/-- A header opens a table. -/
theorem content?_header {name : String} (bare : IsBareKey name) {before after : List Char}
    (blank : IsGaps before) (again : IsGaps after) (rest : List Char) :
    content? {} ('[' :: (before ++ (name.toList ++ (after ++ ']' :: rest)))) =
      some (inTable name [], rest) := by
  have named := bare.read_chain blank again ']' (.inr rfl) rest
  rw [content?, header?]
  · rw [named]
    rfl
  · intro more begins
    cases before with
    | nil => exact absurd (bare.first begins) (by decide)
    | cons first =>
      rcases blank first List.mem_cons_self with rfl | rfl <;> simp at begins

/-- An entry with a new key is added to the table of the header. -/
theorem content?_entry (name : String) {key : String} {entries : Entries} (bare : IsBareKey key)
    (new : key ∉ entries.map (·.1)) {before after text rest : List Char} {value : Value}
    (blank : IsGaps before) (again : IsGaps after) (writes : Writes value text)
    (stops : Stops (· == '"') rest) :
    (inTable name entries).content?
        (key.toList ++ (before ++ '=' :: (after ++ (text ++ rest)))) =
      some (inTable name (entries ++ [(key, value)]), rest) := by
  have close : IsGaps [] := by simp [IsGaps]
  have named := bare.read_chain close blank '=' (.inl rfl) (after ++ (text ++ rest))
  have added : changeAt (assign [key] value) [name] [(name, .table .header entries)] =
      some [(name, .table .header (entries ++ [(key, value)]))] := by
    simp [changeAt, alter, enter, extensible, assign, define_of_new new]
  rw [List.nil_append] at named
  rw [content?, entry?, named]
  · simp only [again.dropWhile_append (writes.stops rest), writes.read stops, inTable, added,
      Option.map_some]
  · intro more begins
    exact absurd (bare.first begins) (by decide)

end Draft

/-- No quote stands directly behind a value. -/
theorem IsTable.stops_quote {entries : Entries} {text : List Char} (table : IsTable entries text) :
    Stops (· == '"') text := by
  cases table with
  | stop fills remarked =>
    refine fills.stops (by simp) ?_
    cases remarked with
    | none => exact stops_nil _
    | comment => exact stops_cons rfl _
  | entry fills _ bare =>
    refine fills.stops (by simp) (bare.stops (fun character part => ?_) _)
    by_contra quote
    obtain rfl : character = '"' := by simpa using quote
    exact absurd part (by decide)

/-- The lines of a table are read one by one, from behind what stands above them. -/
theorem IsTable.read {entries : Entries} {text : List Char} (table : IsTable entries text)
    (name : String) (above : Entries) (distinct : ((above ++ entries).map (·.1)).Nodup) :
    ∃ below, afterLineEnd? text = some below ∧
      (Draft.inTable name above).finish? below =
        some [(name, .table .header (above ++ entries))] := by
  induction table generalizing above with
  | stop fills remarked =>
    rw [List.append_nil]
    exact fills.exists_finish? remarked (Draft.inTable name above)
  | @entry between before after text rest key value entries fills broken bare blank again writes
      table step =>
    have new : key ∉ above.map (·.1) := by
      rw [List.map_append, List.nodup_append] at distinct
      exact fun member => distinct.2.2 key member key List.mem_cons_self rfl
    obtain ⟨below, ended, done⟩ := step (above ++ [(key, value)]) (by simpa using distinct)
    obtain ⟨later, layout, read⟩ := fills.afterLineEnd?_append broken
    have taken := Draft.content?_entry name bare new blank again writes table.stops_quote
    refine ⟨_, read _, ?_⟩
    rw [layout.finish?_append, Draft.finish?_of_content (bare.solid _) taken ended, done,
      List.append_assoc]
    rfl

/-- A document without a byte order mark is read from its first character on. -/
theorem parse?_eq_finish? {content : String}
    (unmarked : Stops (· == byteOrderMark) content.toList) :
    parse? content = Draft.finish? {} content.toList := by
  unfold parse?
  split
  · rename_i empty
    rw [empty, Draft.finish?]
    rfl
  · rename_i first rest begins
    have other : first ≠ byteOrderMark := by simpa using unmarked first (by rw [begins]; rfl)
    rw [if_neg other, begins]

/-- A document of one table is read as the table. -/
theorem IsSection.read {name : String} {entries : Entries} {content : String}
    (written : IsSection name entries content) (bare : IsBareKey name)
    (distinct : (entries.map (·.1)).Nodup) :
    parse? content = some [(name, .table .header entries)] := by
  obtain ⟨filler, before, after, rest, fills, blank, again, table, whole⟩ := written
  obtain ⟨below, ended, done⟩ := table.read name [] distinct
  have solid : Solid ('[' :: (before ++ (name.toList ++ (after ++ ']' :: rest)))) :=
    ⟨'[', _, rfl, by decide⟩
  have unmarked : Stops (· == byteOrderMark) content.toList := by
    rw [whole]
    exact fills.stops (by simp [byteOrderMark]) (stops_cons (by decide) _)
  rw [parse?_eq_finish? unmarked, whole, fills.finish?_append,
    Draft.finish?_of_content solid (Draft.content?_header bare blank again rest) ended, done]
  rfl

end Handbook.Toml
