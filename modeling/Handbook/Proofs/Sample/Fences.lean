import Mathlib.Data.List.DropRight
import Mathlib.Data.List.TakeWhile
import Handbook.Proofs.Text.Splitting
import Handbook.Sample.Block

/-!
# Blocks line by line

The blocks of a text can be read off its lines. `Opens` and `Closes` say what a fence line looks
like, and `Block.Scanned` which blocks a list of lines has: from an opening line that some later
line closes, the lines up to the first such line are a block, and every other line is passed over.
This determines the blocks, and reading the text character by character finds them.
-/
namespace Handbook

open Text

namespace Block

/-- What may follow a fence in its line: spaces and tabs, and then at most one carriage return. -/
def IsFenceEnd (ending : List Char) : Prop :=
  ∃ gaps carriage : List Char, (∀ character ∈ gaps, character = ' ' ∨ character = '\t') ∧
    (carriage = [] ∨ carriage = ['\r']) ∧ ending = gaps ++ carriage

/-- A line that opens a block with a tag: three backticks, the tag without white space and
backticks, and the end of the fence. -/
def Opens (line tag : List Char) : Prop :=
  tag ≠ [] ∧ (∀ character ∈ tag, isBlank character = false ∧ character ≠ backtick) ∧
    ∃ ending, IsFenceEnd ending ∧ line = fence ++ tag ++ ending

/-- A line that closes a block: three backticks and the end of the fence. -/
def Closes (line : List Char) : Prop := ∃ ending, IsFenceEnd ending ∧ line = fence ++ ending

/-- The blocks of a list of lines. -/
inductive Scanned : List (List Char) → List Block → Prop
  /-- Without lines there are no blocks. -/
  | done : Scanned [] []
  /-- An opening line makes a block with the lines up to the first closing line after it, without
  the carriage returns at their ends; the search goes on below the closing line. -/
  | block {opening tag closing : List Char} {body below : List (List Char)} {blocks : List Block} :
    Opens opening tag → (∀ line ∈ body, ¬Closes line) → Closes closing → Scanned below blocks →
      Scanned (opening :: (body ++ closing :: below))
        (⟨String.ofList tag, body.map fun line => String.ofList (line.rdropWhile (· == '\r'))⟩ ::
          blocks)
  /-- Any other line is passed over, also an opening line that no later line closes. -/
  | line {line : List Char} {below : List (List Char)} {blocks : List Block} :
    ((∃ tag, Opens line tag) → ∀ later ∈ below, ¬Closes later) → Scanned below blocks →
      Scanned (line :: below) blocks

/-- What follows a fence has no line feed. -/
theorem IsFenceEnd.clean {ending : List Char} (ends : IsFenceEnd ending) : '\n' ∉ ending := by
  obtain ⟨gaps, carriage, all, final, rfl⟩ := ends
  intro member
  rcases List.mem_append.1 member with inGaps | last
  · simpa using all _ inGaps
  · rcases final with rfl | rfl <;> simp at last

/-- The gaps in the end of a fence are passed over up to the carriage return or what follows. -/
theorem IsFenceEnd.dropWhile_eq {ending rest : List Char} (ends : IsFenceEnd ending)
    (stop : Stops isGap rest) :
    (ending ++ rest).dropWhile isGap = rest ∨ (ending ++ rest).dropWhile isGap = '\r' :: rest := by
  obtain ⟨gaps, carriage, all, final, rfl⟩ := ends
  have gap : ∀ character ∈ gaps, isGap character = true := by simpa [isGap] using all
  rw [List.append_assoc]
  rcases final with rfl | rfl
  · exact .inl (takeWhile_append_of_stops gap stop).2
  · exact .inr (takeWhile_append_of_stops gap (stops_cons rfl rest)).2

/-- No tag goes on in the end of its fence. -/
theorem IsFenceEnd.stops_tag {ending rest : List Char} (ends : IsFenceEnd ending)
    (stop : Stops isTagChar rest) : Stops isTagChar (ending ++ rest) := by
  obtain ⟨gaps, carriage, all, final, rfl⟩ := ends
  cases gaps with
  | nil =>
    rcases final with rfl | rfl
    · exact stop
    · exact stops_cons (by decide) rest
  | cons first more =>
    apply stops_cons
    rcases all first List.mem_cons_self with rfl | rfl <;> decide

/-- Gaps and at most one carriage return that a text starts with are the end of a fence. -/
theorem exists_isFenceEnd {text carriage rest : List Char}
    (final : carriage = [] ∨ carriage = ['\r']) (passed : text.dropWhile isGap = carriage ++ rest) :
    ∃ ending, IsFenceEnd ending ∧ text = ending ++ rest := by
  refine ⟨text.takeWhile isGap ++ carriage,
    ⟨text.takeWhile isGap, carriage, fun character member => ?_, final, rfl⟩, ?_⟩
  · simpa [isGap] using List.mem_takeWhile_imp member
  · rw [List.append_assoc, ← passed, List.takeWhile_append_dropWhile]

/-- The characters of a tag are those that a tag may have. -/
theorem isTagChar_iff (character : Char) :
    isTagChar character = true ↔ isBlank character = false ∧ character ≠ backtick := by
  simp [isTagChar]

/-- An opening line has no line feed. -/
theorem Opens.clean {line tag : List Char} (opens : Opens line tag) : '\n' ∉ line := by
  obtain ⟨-, all, ending, ends, rfl⟩ := opens
  have inTag : '\n' ∉ tag := fun member => absurd (all _ member).1 (by decide)
  simp [inTag, ends.clean, fence, backtick]

/-- A closing line has no line feed. -/
theorem Closes.clean {line : List Char} (closes : Closes line) : '\n' ∉ line := by
  obtain ⟨ending, ends, rfl⟩ := closes
  simp [ends.clean, fence, backtick]

/-- A text starts with a fence exactly when it is the fence and the text after it. -/
theorem afterFence?_eq_some_iff (text rest : List Char) :
    afterFence? text = some rest ↔ text = fence ++ rest := by
  constructor
  · intro found
    unfold afterFence? at found
    split at found
    · split at found
      · rename_i same
        obtain rfl := Option.some.inj found
        rw [← same]
        rfl
      · simp at found
    · simp at found
  · rintro rfl
    rfl

/-- The fence and the end of a fence that a text starts with are its line up to what follows. -/
theorem eq_fence_append {text rest marked carriage after : List Char}
    (start : afterFence? text = some (marked ++ rest))
    (final : carriage = [] ∨ carriage = ['\r'])
    (passed : rest.dropWhile isGap = carriage ++ after) :
    ∃ ending, IsFenceEnd ending ∧ text = fence ++ marked ++ ending ++ after := by
  obtain ⟨ending, ends, split⟩ := exists_isFenceEnd final passed
  refine ⟨ending, ends, ?_⟩
  rw [(afterFence?_eq_some_iff text _).1 start, split]
  simp only [List.append_assoc]

/-- A text that is read as an opening fence starts with an opening line. -/
theorem exists_opens_of_opening? {text tag inside : List Char}
    (found : opening? text = some (tag, inside)) :
    ∃ line, Opens line tag ∧ text = line ++ '\n' :: inside := by
  unfold opening? at found
  cases start : afterFence? text with
  | none => simp [start] at found
  | some rest =>
    have legal : ∀ character ∈ rest.takeWhile isTagChar,
        isBlank character = false ∧ character ≠ backtick := fun character member =>
      (isTagChar_iff character).1 (List.mem_takeWhile_imp member)
    simp only [start, Option.bind_eq_bind, Option.bind_some] at found
    rw [← List.takeWhile_append_dropWhile (p := isTagChar) (l := rest)] at start
    split at found
    · simp at found
    · rename_i nonempty
      -- The line feed stands after the gaps, or after one carriage return that follows them.
      split at found
      · rename_i passed
        obtain ⟨rfl, rfl⟩ := Prod.mk.inj (Option.some.inj found)
        obtain ⟨ending, ends, whole⟩ := eq_fence_append start (.inl rfl) passed
        exact ⟨_, ⟨nonempty, legal, ending, ends, rfl⟩, whole⟩
      · rename_i passed
        obtain ⟨rfl, rfl⟩ := Prod.mk.inj (Option.some.inj found)
        obtain ⟨ending, ends, whole⟩ := eq_fence_append start (.inr rfl) passed
        exact ⟨_, ⟨nonempty, legal, ending, ends, rfl⟩, whole⟩
      · simp at found

/-- An opening line that is not the last is read as an opening fence. -/
theorem opening?_append {line tag : List Char} (opens : Opens line tag) (inside : List Char) :
    opening? (line ++ '\n' :: inside) = some (tag, inside) := by
  obtain ⟨nonempty, legal, ending, ends, rfl⟩ := opens
  have start : afterFence? (fence ++ tag ++ ending ++ '\n' :: inside) =
      some (tag ++ (ending ++ '\n' :: inside)) := by
    rw [afterFence?_eq_some_iff]
    simp only [List.append_assoc]
  have all : ∀ character ∈ tag, isTagChar character = true := fun character member =>
    (isTagChar_iff character).2 (legal character member)
  have stops : Stops isTagChar (ending ++ '\n' :: inside) :=
    ends.stops_tag (stops_cons (by decide) inside)
  obtain ⟨tagged, passed⟩ := takeWhile_append_of_stops all stops
  unfold opening?
  simp only [start, Option.bind_eq_bind, Option.bind_some, tagged, passed, if_neg nonempty]
  have stop : Stops isGap ('\n' :: inside) := stops_cons rfl inside
  rcases ends.dropWhile_eq stop with gapped | gapped
  · rw [gapped]
    rfl
  · rw [gapped]
    rfl

/-- A text that is read as a closing fence starts with a closing line, which may be its last. -/
theorem exists_closes_of_closing? {text below : List Char} (found : closing? text = some below) :
    ∃ line, Closes line ∧ (text = line ++ '\n' :: below ∨ text = line ∧ below = []) := by
  unfold closing? at found
  cases start : afterFence? text with
  | none => simp [start] at found
  | some rest =>
    have untagged : afterFence? text = some ([] ++ rest) := start
    simp only [start, Option.bind_eq_bind, Option.bind_some] at found
    have first : ∀ carriage after, carriage = [] ∨ carriage = ['\r'] →
        rest.dropWhile isGap = carriage ++ after → ∃ line, Closes line ∧ text = line ++ after := by
      intro carriage after final passed
      obtain ⟨ending, ends, whole⟩ := eq_fence_append untagged final passed
      exact ⟨_, ⟨ending, ends, rfl⟩, by simpa using whole⟩
    split at found
    · rename_i passed
      obtain rfl := Option.some.inj found
      obtain ⟨line, closes, whole⟩ := first [] [] (.inl rfl) passed
      exact ⟨line, closes, .inr ⟨by simpa using whole, rfl⟩⟩
    · rename_i passed
      obtain rfl := Option.some.inj found
      obtain ⟨line, closes, whole⟩ := first ['\r'] [] (.inr rfl) passed
      exact ⟨line, closes, .inr ⟨by simpa using whole, rfl⟩⟩
    · rename_i passed
      obtain rfl := Option.some.inj found
      obtain ⟨line, closes, whole⟩ := first [] _ (.inl rfl) passed
      exact ⟨line, closes, .inl whole⟩
    · rename_i passed
      obtain rfl := Option.some.inj found
      obtain ⟨line, closes, whole⟩ := first ['\r'] _ (.inr rfl) passed
      exact ⟨line, closes, .inl whole⟩
    · simp at found

/-- A closing line is read as a closing fence. -/
theorem closing?_append {line : List Char} (closes : Closes line) (below : List Char) :
    closing? (line ++ '\n' :: below) = some below := by
  obtain ⟨ending, ends, rfl⟩ := closes
  have start : afterFence? (fence ++ ending ++ '\n' :: below) =
      some (ending ++ '\n' :: below) := by
    rw [afterFence?_eq_some_iff, List.append_assoc]
  unfold closing?
  simp only [start, Option.bind_eq_bind, Option.bind_some]
  have stop : Stops isGap ('\n' :: below) := stops_cons rfl below
  rcases ends.dropWhile_eq stop with gapped | gapped
  · rw [gapped]
    rfl
  · rw [gapped]
    rfl

/-- A closing line at the end of a text is read as a closing fence too. -/
theorem closing?_of_closes {line : List Char} (closes : Closes line) :
    closing? line = some [] := by
  obtain ⟨ending, ends, rfl⟩ := closes
  have start : afterFence? (fence ++ ending) = some ending :=
    (afterFence?_eq_some_iff _ _).2 rfl
  have passed := ends.dropWhile_eq (stops_nil isGap)
  rw [List.append_nil] at passed
  unfold closing?
  simp only [start, Option.bind_eq_bind, Option.bind_some]
  rcases passed with gapped | gapped
  · rw [gapped]
  · rw [gapped]
    rfl

/-- A text that starts with a closing fence has a closing line first, and the text below that fence
has the other lines. -/
theorem lines_of_closing? {text below : List Char} (found : closing? text = some below) :
    ∃ line rest, Closes line ∧ lines text = line :: rest ∧
      (rest = lines below ∨ rest = [] ∧ below = []) := by
  obtain ⟨line, closes, rfl | ⟨rfl, rfl⟩⟩ := exists_closes_of_closing? found
  · exact ⟨line, lines below, closes, lines_append closes.clean below, .inl rfl⟩
  · exact ⟨text, [], closes, lines_of_clean closes.clean, .inr ⟨rfl, rfl⟩⟩

/-- A text that does not start with a closing fence has a first line that closes nothing. -/
theorem not_closes_of_closing?_eq_none {text line : List Char} {rest : List (List Char)}
    (unclosed : closing? text = none) (first : lines text = line :: rest) : ¬Closes line := by
  intro closes
  have read : ∃ below, closing? text = some below := by
    cases next : nextLine? text with
    | none =>
      have only := lines_of_clean ((nextLine?_eq_none_iff text).1 next)
      rw [first] at only
      obtain ⟨rfl, -⟩ := List.cons.inj only
      exact ⟨[], closing?_of_closes closes⟩
    | some pair =>
      have cut := lines_of_nextLine? next
      rw [first] at cut
      obtain ⟨same, -⟩ := List.cons.inj cut
      rw [same] at closes
      rw [(nextLine?_eq_some next).1]
      exact ⟨pair.2, closing?_append closes pair.2⟩
  obtain ⟨below, closed⟩ := read
  rw [unclosed] at closed
  exact absurd closed (by simp)

/-- The lines of a block are the lines of the text up to the first that closes the block. -/
theorem lines_of_body? {text below : List Char} {body : List (List Char)}
    (found : body? text = some (body, below)) :
    ∃ closing rest, lines text = body ++ closing :: rest ∧ (∀ line ∈ body, ¬Closes line) ∧
      Closes closing ∧ (rest = lines below ∨ rest = [] ∧ below = []) := by
  fun_induction body? text generalizing body with
  | case1 text after closed =>
    obtain ⟨rfl, rfl⟩ := Prod.mk.inj (Option.some.inj found)
    obtain ⟨closing, rest, closes, cut, same⟩ := lines_of_closing? closed
    exact ⟨closing, rest, cut, by simp, closes, same⟩
  | case2 => simp at found
  | case3 text unclosed line after next step =>
    obtain ⟨⟨more, last⟩, later, same⟩ := Option.map_eq_some_iff.1 found
    obtain ⟨rfl, rfl⟩ := Prod.mk.inj same
    obtain ⟨closing, rest, cut, before, closes, kept⟩ := step later
    have first : lines text = line :: lines after := lines_of_nextLine? next
    refine ⟨closing, rest, by rw [first, cut, List.cons_append], ?_, closes, kept⟩
    intro inside member
    rcases List.mem_cons.1 member with rfl | member
    · exact not_closes_of_closing?_eq_none unclosed first
    · exact before inside member

/-- A block that has no end has no closing line after it. -/
theorem not_closes_of_body?_eq_none {text : List Char} (unclosed : body? text = none) :
    ∀ line ∈ lines text, ¬Closes line := by
  fun_induction body? text with
  | case1 => simp at unclosed
  | case2 text first next =>
    have only : lines text = [text] := lines_of_clean ((nextLine?_eq_none_iff text).1 next)
    intro line member
    rw [only, List.mem_singleton] at member
    rw [member]
    exact not_closes_of_closing?_eq_none first only
  | case3 text first line after next step =>
    have cut : lines text = line :: lines after := lines_of_nextLine? next
    intro other member
    rw [cut] at member
    rcases List.mem_cons.1 member with rfl | member
    · exact not_closes_of_closing?_eq_none first cut
    · exact step (Option.map_eq_none_iff.1 unclosed) other member

/-- Lines of which none closes anything have no blocks. -/
theorem scanned_of_not_closes {below : List (List Char)}
    (unclosed : ∀ line ∈ below, ¬Closes line) : Scanned below [] := by
  induction below with
  | nil => exact .done
  | cons line later step =>
    have rest : ∀ other ∈ later, ¬Closes other := fun other member =>
      unclosed other (List.mem_cons_of_mem line member)
    exact .line (fun _ => rest) (step rest)

/-- Reading a text finds the blocks of its lines. -/
theorem scanned_scan (text : List Char) : Scanned (lines text) (scan text) := by
  fun_induction scan text with
  | case1 =>
    refine .line ?_ .done
    simp
  | case2 character rest tag inside opened body below closed _ step =>
    obtain ⟨line, opens, whole⟩ := exists_opens_of_opening? opened
    obtain ⟨closing, after, cut, unclosed, closes, same⟩ := lines_of_body? closed
    have first : lines (character :: rest) = line :: (body ++ closing :: after) := by
      rw [whole, lines_append opens.clean, cut]
    rw [first]
    refine .block opens unclosed closes ?_
    rcases same with rfl | ⟨rfl, rfl⟩
    · exact step
    · rw [scan]
      exact .done
  | case3 character rest tag inside opened unclosed =>
    obtain ⟨line, opens, whole⟩ := exists_opens_of_opening? opened
    have later := not_closes_of_body?_eq_none unclosed
    rw [whole, lines_append opens.clean]
    exact .line (fun _ => later) (scanned_of_not_closes later)
  | case4 character rest unopened _ step =>
    cases next : nextLine? (character :: rest) with
    | none =>
      have last : afterLine (character :: rest) = [] := by simp [afterLine, next]
      rw [lines_of_clean ((nextLine?_eq_none_iff _).1 next), last, scan]
      exact .line (by simp) .done
    | some pair =>
      have after : afterLine (character :: rest) = pair.2 := by simp [afterLine, next]
      rw [after] at step ⊢
      rw [lines_of_nextLine? next]
      refine .line ?_ step
      rintro ⟨tag, opens⟩
      rw [(nextLine?_eq_some next).1, opening?_append opens] at unopened
      exact absurd unopened (by simp)

/-- A line opens a block with one tag only. -/
theorem Opens.tag_unique {line tag other : List Char} (opens : Opens line tag)
    (again : Opens line other) : tag = other := by
  have read : ∀ {tag}, Opens line tag → (line.drop 3).takeWhile isTagChar = tag := by
    rintro tag ⟨-, legal, ending, ends, rfl⟩
    have all : ∀ character ∈ tag, isTagChar character = true := fun character member =>
      (isTagChar_iff character).2 (legal character member)
    have stops := ends.stops_tag (stops_nil isTagChar)
    rw [List.append_nil] at stops
    exact (takeWhile_append_of_stops all stops).1
  rw [← read opens, ← read again]

/-- From an opening line with a first closing line below it there is one way to go on. -/
theorem Scanned.of_block {opening tag closing : List Char} {body below : List (List Char)}
    {blocks : List Block} (opens : Opens opening tag) (unclosed : ∀ line ∈ body, ¬Closes line)
    (closes : Closes closing) (scanned : Scanned (opening :: (body ++ closing :: below)) blocks) :
    ∃ more, Scanned below more ∧ blocks =
      ⟨String.ofList tag, body.map fun line => String.ofList (line.rdropWhile (· == '\r'))⟩ ::
        more := by
  generalize whole : opening :: (body ++ closing :: below) = found at scanned
  cases scanned with
  | done => simp at whole
  | block openingAgain bodyAgain closingAgain rest =>
    obtain ⟨rfl, same⟩ := List.cons.inj whole
    obtain ⟨rfl, -, rfl⟩ := eq_of_first Closes unclosed closes bodyAgain closingAgain same
    obtain rfl := opens.tag_unique openingAgain
    exact ⟨_, rest, rfl⟩
  | line passed rest =>
    obtain ⟨rfl, rfl⟩ := List.cons.inj whole
    exact absurd closes (passed ⟨tag, opens⟩ closing (by simp))

/-- A line that is passed over leaves the blocks to the lines below it. -/
theorem Scanned.of_line {line : List Char} {below : List (List Char)} {blocks : List Block}
    (passed : (∃ tag, Opens line tag) → ∀ later ∈ below, ¬Closes later)
    (scanned : Scanned (line :: below) blocks) : Scanned below blocks := by
  cases scanned with
  | block opens _ closes => exact absurd closes (passed ⟨_, opens⟩ _ (by simp))
  | line _ rest => exact rest

/-- The lines determine the blocks. -/
theorem Scanned.unique {below : List (List Char)} {blocks others : List Block}
    (scanned : Scanned below blocks) (again : Scanned below others) : blocks = others := by
  induction scanned generalizing others with
  | done =>
    cases again
    rfl
  | block opens unclosed closes _ step =>
    obtain ⟨more, rest, rfl⟩ := again.of_block opens unclosed closes
    rw [step rest]
  | line passed _ step => exact step (again.of_line passed)

/-- The blocks found in a document are those of its lines, and the lines have no others. -/
theorem ofText_eq_iff_scanned (content : String) (blocks : List Block) :
    ofText content = blocks ↔ Scanned (content.toList.splitOn '\n') blocks := by
  constructor
  · rintro rfl
    exact scanned_scan content.toList
  · intro scanned
    exact (scanned_scan content.toList).unique scanned

-- A block without lines is another one than a block of one empty line.
example : ofText "```a\n```\n```a\n\n```\r\n```a\n" = [⟨"a", []⟩, ⟨"a", [""]⟩] := by
  decide +kernel

end Block

end Handbook
