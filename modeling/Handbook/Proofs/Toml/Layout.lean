import Handbook.Proofs.Toml.Quoting
import Handbook.Toml.Document

/-!
# Layout that means nothing

Gaps, line ends and comments may stand between the items of an array and between the lines of a
document. Readers pass over them, so an array of texts is read however it is laid out, and a line of
a document is read whatever follows on it and whichever lines without content stand below it.
-/
namespace Handbook.Toml

open Text

/-- Gaps and nothing else. -/
def IsGaps (text : List Char) : Prop := ∀ character ∈ text, character = ' ' ∨ character = '\t'

/-- A line feed, or a carriage return and a line feed. -/
def IsLineEnd (ending : List Char) : Prop := ending = ['\n'] ∨ ending = ['\r', '\n']

/-- What may stand last on a line. -/
inductive Remark : List Char → Prop
  /-- Nothing need stand there. -/
  | none : Remark []
  /-- A comment has no control characters. -/
  | comment {words : List Char} : (∀ character ∈ words, ¬IsControl character) →
    Remark ('#' :: words)

/-- What may stand between two parts of a document: gaps and ends of lines. -/
inductive Filler : List Char → Prop
  /-- Nothing need stand there. -/
  | none : Filler []
  /-- A space or a tab. -/
  | gap {character : Char} {rest : List Char} : character = ' ' ∨ character = '\t' →
    Filler rest → Filler (character :: rest)
  /-- The end of a line. -/
  | line {remark ending rest : List Char} : Remark remark → IsLineEnd ending → Filler rest →
    Filler (remark ++ (ending ++ rest))

/-- The items of an array of texts, from behind its opening bracket to its closing one. A comma may
stand behind the last item too. -/
inductive Items : List String → List Char → Prop
  /-- No item follows. -/
  | close {filler : List Char} : Filler filler → Items [] (filler ++ [']'])
  /-- The last item has no comma. -/
  | last {before after text : List Char} {content : String} : Filler before →
    IsBasicText content text → Filler after → Items [content] (before ++ text ++ after ++ [']'])
  /-- An item has a comma. -/
  | item {before after text rest : List Char} {content : String} {contents : List String} :
    Filler before → IsBasicText content text → Filler after → Items contents rest →
    Items (content :: contents) (before ++ text ++ after ++ ',' :: rest)

/-- An array of texts between double quotes. -/
def IsArray (contents : List String) (text : List Char) : Prop :=
  ∃ items, Items contents items ∧ text = '[' :: items

/-- Whether a text starts with something else than layout: no gap, no line end, no comment. -/
def Solid (text : List Char) : Prop :=
  ∃ first rest, text = first :: rest ∧ first ∉ [' ', '\t', '\n', '\r', '#']

/-- The gaps are the spaces and the tabs. -/
theorem isGap_iff (character : Char) :
    isGap character = true ↔ character = ' ' ∨ character = '\t' := by
  simp [isGap]

/-- Gaps are passed over. -/
theorem IsGaps.dropWhile_append {gaps rest : List Char} (blank : IsGaps gaps)
    (stops : Stops isGap rest) : (gaps ++ rest).dropWhile isGap = rest :=
  (takeWhile_append_of_stops (fun character member =>
    (isGap_iff character).2 (blank character member)) stops).2

/-- The characters of a comment are no control characters. -/
theorem isVisible_iff (character : Char) : isVisible character = true ↔ ¬IsControl character := by
  simp only [isVisible, IsControl, Bool.or_eq_true, Bool.and_eq_true, beq_iff_eq, bne_iff_ne,
    decide_eq_true_eq]
  grind

/-- A remark goes no further than its line. -/
theorem Remark.afterComment_append {remark rest : List Char} (remarked : Remark remark)
    (stops : Stops isVisible rest) : afterComment (remark ++ rest) = rest := by
  cases remarked with
  | none =>
    unfold afterComment
    split
    · rename_i begun
      simpa [isVisible] using stops '#' (congrArg List.head? begun)
    · rfl
  | comment clean =>
    exact (takeWhile_append_of_stops (fun character member =>
      (isVisible_iff character).2 (clean character member)) stops).2

/-- A line ends behind the remark on it. -/
theorem Remark.ended {remark ending : List Char} (remarked : Remark remark)
    (ends : IsLineEnd ending) (rest : List Char) :
    Stops isGap (remark ++ (ending ++ rest)) ∧
      afterNewline? (afterComment (remark ++ (ending ++ rest))) = some rest := by
  have stops : Stops isVisible (ending ++ rest) := by
    rcases ends with rfl | rfl <;> exact stops_cons rfl _
  rw [remarked.afterComment_append stops]
  refine ⟨?_, by rcases ends with rfl | rfl <;> rfl⟩
  cases remarked with
  | none => rcases ends with rfl | rfl <;> exact stops_cons rfl _
  | comment => exact stops_cons rfl _

/-- A remark at the end of a document ends its line. -/
theorem Remark.afterLineEnd?_eq {remark : List Char} (remarked : Remark remark) :
    afterLineEnd? remark = some [] := by
  have dropped := remarked.afterComment_append (stops_nil isVisible)
  rw [List.append_nil] at dropped
  cases remarked with
  | none => rfl
  | comment => rw [afterLineEnd?, List.dropWhile_cons_of_neg (by decide), dropped]

/-- Solid text starts with no gap, no comment and no line end. -/
theorem Solid.kept {text : List Char} (solid : Solid text) :
    Stops isGap text ∧ afterComment text = text ∧ afterNewline? text = none := by
  obtain ⟨first, rest, rfl, other⟩ := solid
  simp only [List.mem_cons, List.not_mem_nil, or_false, not_or] at other
  obtain ⟨space, tab, feed, carriage, mark⟩ := other
  refine ⟨stops_cons (by simp [isGap, space, tab]) rest, ?_, ?_⟩
  · unfold afterComment
    split
    · rename_i begun
      exact absurd (List.cons.inj begun).1 mark
    · rfl
  · unfold afterNewline?
    split
    · rename_i begun
      exact absurd (List.cons.inj begun).1 feed
    · rename_i begun
      exact absurd (List.cons.inj begun).1 carriage
    · rfl

/-- Solid text does not end its line. -/
theorem Solid.afterLineEnd?_eq {text : List Char} (solid : Solid text) :
    afterLineEnd? text = none := by
  obtain ⟨stops, uncommented, unended⟩ := solid.kept
  rw [afterLineEnd?, dropWhile_of_stops stops, uncommented]
  obtain ⟨first, rest, rfl, -⟩ := solid
  exact unended

/-- The end of a line is passed over. -/
theorem dropFiller_of_ended {text more : List Char} (stops : Stops isGap text)
    (ended : afterNewline? (afterComment text) = some more) :
    dropFiller text = dropFiller more := by
  cases text with
  | nil => simp [afterComment, afterNewline?] at ended
  | cons first rest =>
    rw [dropFiller, if_neg (by simp [stops first rfl])]
    split
    · rename_i again
      rw [ended] at again
      rw [Option.some.inj again]
    · rename_i none
      simp [ended] at none

/-- Filler is passed over. -/
theorem Filler.dropFiller_append {filler : List Char} (fills : Filler filler) (rest : List Char) :
    dropFiller (filler ++ rest) = dropFiller rest := by
  induction fills with
  | none => rfl
  | gap blank _ step =>
    rw [List.cons_append, dropFiller, if_pos ((isGap_iff _).2 blank), step]
  | @line remark ending more remarked ends _ step =>
    obtain ⟨stops, ended⟩ := remarked.ended ends (more ++ rest)
    rw [List.append_assoc, List.append_assoc, dropFiller_of_ended stops ended, step]

/-- Filler in front of solid text is passed over up to the text. -/
theorem Filler.dropFiller_eq {filler rest : List Char} (fills : Filler filler)
    (solid : Solid rest) : dropFiller (filler ++ rest) = rest := by
  rw [fills.dropFiller_append]
  obtain ⟨stops, uncommented, unended⟩ := solid.kept
  obtain ⟨first, more, rfl, -⟩ := solid
  rw [dropFiller, if_neg (by simp [stops first rfl])]
  split
  · rename_i ended
    rw [uncommented, unended] at ended
    simp at ended
  · rfl

/-- A run of other characters does not go on with filler. -/
theorem Filler.stops {filler rest : List Char} {kind : Char → Bool} (fills : Filler filler)
    (other : ∀ character ∈ [' ', '\t', '\n', '\r', '#'], kind character = false)
    (stops : Stops kind rest) : Stops kind (filler ++ rest) := by
  cases fills with
  | none => exact stops
  | gap blank => rcases blank with rfl | rfl <;> exact stops_cons (other _ (by simp)) _
  | line remarked ends =>
    cases remarked with
    | none => rcases ends with rfl | rfl <;> exact stops_cons (other _ (by simp)) _
    | comment => exact stops_cons (other _ (by simp)) _

/-- A text between double quotes is solid. -/
theorem IsBasicText.solid {content : String} {text : List Char} (spelled : IsBasicText content text)
    (after : List Char) : Solid (text ++ after) := by
  obtain ⟨spellings, -, rfl⟩ := spelled
  exact ⟨'"', _, rfl, by decide⟩

/-- A reader of values that reads each text between double quotes, unless one more quote stands
behind it. -/
def ValueReader.ReadsTexts (reader : ValueReader) : Prop :=
  ∀ content text after, IsBasicText content text → Stops (· == '"') after →
    reader.read? (text ++ after) = some (.text content, after)

/-- At every depth texts between double quotes are values. -/
theorem readsTexts_valueReader (depth : Nat) : (valueReader depth).ReadsTexts := by
  intro content text after spelled stops
  have read : ∀ inner, valueWith? inner (text ++ after) = some (.text content, after) := by
    intro inner
    have found := spelled.read stops
    obtain ⟨spellings, -, rfl⟩ := spelled
    unfold valueWith?
    split
    · simp_all
    · simp_all
    · rw [found]
      simp
  cases depth with
  | zero => exact read none
  | succ depth => exact read (some (valueReader depth))

section Items

variable {reader : ValueReader} {text rest : List Char} {value : Value}

/-- An array ends with its bracket. -/
theorem items?_of_close (begun : dropFiller text = ']' :: rest) :
    items? reader text = some ([], rest) := by
  rw [items?]
  split
  · rename_i again
    rw [begun] at again
    rw [(List.cons.inj again).2]
  · rename_i other
    exact absurd begun (other rest)

/-- Behind an item a comma and the other items follow, or the bracket. -/
theorem items?_of_value (other : Stops (· == ']') (dropFiller text))
    (read : reader.read? (dropFiller text) = some (value, rest)) :
    items? reader text =
      match dropFiller rest with
      | ',' :: more => (items? reader more).map fun (values, after) => (value :: values, after)
      | ']' :: after => some ([value], after)
      | _ => none := by
  rw [items?]
  split
  · rename_i begun
    simpa using other ']' (congrArg List.head? begun)
  · split
    · rename_i unread
      simp [read] at unread
    · rename_i again
      rw [read] at again
      obtain ⟨rfl, rfl⟩ := Prod.mk.inj (Option.some.inj again)
      split <;> simp [*]

end Items

/-- Filler ends where a mark stands, and a quote is no mark. -/
theorem Filler.ended {filler : List Char} (fills : Filler filler) (mark : Char)
    (marked : mark = ',' ∨ mark = ']') (rest : List Char) :
    dropFiller (filler ++ mark :: rest) = mark :: rest ∧
      Stops (· == '"') (filler ++ mark :: rest) := by
  rcases marked with rfl | rfl <;>
    exact ⟨fills.dropFiller_eq ⟨_, rest, rfl, by decide⟩,
      fills.stops (by simp) (stops_cons rfl rest)⟩

/-- Filler ends where a text begins, and a text is no bracket. -/
theorem Filler.begun {filler text : List Char} {content : String} (fills : Filler filler)
    (spelled : IsBasicText content text) (rest : List Char) :
    dropFiller (filler ++ (text ++ rest)) = text ++ rest ∧ Stops (· == ']') (text ++ rest) := by
  refine ⟨fills.dropFiller_eq (spelled.solid rest), ?_⟩
  obtain ⟨spellings, -, rfl⟩ := spelled
  exact stops_cons rfl _

/-- An array of texts is read item by item. -/
theorem Items.read {reader : ValueReader} {contents : List String} {items : List Char}
    (listed : Items contents items) (reads : reader.ReadsTexts) (after : List Char) :
    items? reader (items ++ after) = some (contents.map .text, after) := by
  induction listed with
  | close fills =>
    rw [List.append_assoc, List.singleton_append]
    exact items?_of_close (fills.ended ']' (.inr rfl) after).1
  | @last before behind text content fills spelled ends =>
    obtain ⟨ended, stops⟩ := ends.ended ']' (.inr rfl) after
    obtain ⟨begun, other⟩ := fills.begun spelled (behind ++ ']' :: after)
    have split : before ++ text ++ behind ++ [']'] ++ after =
        before ++ (text ++ (behind ++ ']' :: after)) := by simp
    have read := reads content text _ spelled stops
    rw [split, items?_of_value (by rwa [begun]) (by rwa [begun]), ended]
    rfl
  | @item before behind text rest content contents fills spelled ends _ step =>
    obtain ⟨ended, stops⟩ := ends.ended ',' (.inl rfl) (rest ++ after)
    obtain ⟨begun, other⟩ := fills.begun spelled (behind ++ ',' :: (rest ++ after))
    have split : before ++ text ++ behind ++ ',' :: rest ++ after =
        before ++ (text ++ (behind ++ ',' :: (rest ++ after))) := by simp
    have read := reads content text _ spelled stops
    rw [split, items?_of_value (by rwa [begun]) (by rwa [begun]), ended]
    simp [step]

/-- An array of texts is read as its texts. -/
theorem IsArray.read {contents : List String} {text : List Char} (listed : IsArray contents text)
    (depth : Nat) (after : List Char) :
    (valueReader (depth + 1)).read? (text ++ after) =
      some (.array (contents.map .text), after) := by
  obtain ⟨items, all, rfl⟩ := listed
  have read := all.read (readsTexts_valueReader depth) after
  show valueWith? (some (valueReader depth)) ('[' :: items ++ after) = _
  rw [List.cons_append, valueWith?, read, Option.map_some]

/-- An array of texts, with a comma between neighbours and no layout. -/
def arrayText (contents : List String) : List Char := '[' :: itemsText contents
where
  /-- The items and the closing bracket. -/
  itemsText : List String → List Char
    | [] => [']']
    | [content] => basicText content ++ [']']
    | content :: contents => basicText content ++ ',' :: itemsText contents

/-- Every list of texts can be an array. -/
theorem isArray_arrayText (contents : List String) : IsArray contents (arrayText contents) := by
  refine ⟨arrayText.itemsText contents, ?_, rfl⟩
  fun_induction arrayText.itemsText contents with
  | case1 => exact .close .none
  | case2 content => simpa using Items.last .none (isBasicText_basicText content) .none
  | case3 content contents _ step =>
    simpa using Items.item .none (isBasicText_basicText content) .none step

end Handbook.Toml
