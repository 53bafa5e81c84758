import Mathlib.Data.List.Forall2
import Mathlib.Data.Nat.Digits.Lemmas
import Handbook.Proofs.Text.Splitting
import Handbook.Toml.Strings

/-!
# Texts between double quotes

How the characters of a text may be spelled between double quotes: as they are, unless they are a
quote, a backslash or a control character, or by an escape, of which a character may have several.
However a text is spelled, reading it gives the text back, and every text can be spelled.
-/
namespace Handbook.Toml

open Text

/-- A digit of base sixteen, in either case, and its value. -/
def IsHexDigit (digit : Char) (value : Nat) : Prop :=
  value < 16 ∧ (digit = value.digitChar ∨ digit = value.digitChar.toUpper)

/-- Digits of base sixteen, the most significant first, and the number that they write. -/
def IsHexNumber (digits : List Char) (number : Nat) : Prop :=
  ∃ values, List.Forall₂ IsHexDigit digits values ∧ number = Nat.ofDigits 16 values.reverse

/-- The letters of the escapes that have one, and the characters for which they stand. -/
def lettered : List (Char × Char) :=
  [('b', '\x08'), ('t', '\t'), ('n', '\n'), ('f', '\x0c'), ('r', '\r'), ('"', '"'), ('\\', '\\')]

/-- The escapes of a character, without the backslash. -/
inductive Escapes (character : Char) : List Char → Prop
  /-- A letter stands for the character. -/
  | letter {letter : Char} : (letter, character) ∈ lettered → Escapes character [letter]
  /-- Four digits write its code point. -/
  | short {digits : List Char} : digits.length = 4 → IsHexNumber digits character.toNat →
    Escapes character ('u' :: digits)
  /-- Eight digits write its code point. -/
  | long {digits : List Char} : digits.length = 8 → IsHexNumber digits character.toNat →
    Escapes character ('U' :: digits)

/-- The control characters, which cannot stand for themselves. The tab is none of them. -/
def IsControl (character : Char) : Prop :=
  character ≠ '\t' ∧ (character.toNat < 32 ∨ character.toNat = 127)

instance : DecidablePred IsControl := fun character =>
  inferInstanceAs (Decidable (character ≠ '\t' ∧ (character.toNat < 32 ∨ character.toNat = 127)))

/-- The spellings of a character between double quotes. -/
inductive Spells (character : Char) : List Char → Prop
  /-- A character that means nothing else stands for itself. -/
  | plain : ¬IsControl character → character ≠ '"' → character ≠ '\\' →
    Spells character [character]
  /-- An escape stands behind a backslash. -/
  | escaped {escape : List Char} : Escapes character escape → Spells character ('\\' :: escape)

/-- A text as it may stand between double quotes on one line. -/
def IsBasicText (content : String) (text : List Char) : Prop :=
  ∃ spellings, List.Forall₂ Spells content.toList spellings ∧
    text = '"' :: (spellings.flatten ++ ['"'])

/-- The value of a digit in either case. -/
theorem hexDigit?_digitChar : ∀ value < 16, hexDigit? value.digitChar = some value ∧
    hexDigit? value.digitChar.toUpper = some value := by
  decide +kernel

/-- The value of a digit is read. -/
theorem IsHexDigit.read {digit : Char} {value : Nat} (digital : IsHexDigit digit value) :
    hexDigit? digit = some value := by
  obtain ⟨small, rfl | rfl⟩ := digital
  · exact (hexDigit?_digitChar value small).1
  · exact (hexDigit?_digitChar value small).2

/-- Reading digits puts them behind the number that is there already. -/
theorem hexNumber?_eq_some {digits : List Char} {values : List Nat}
    (digital : List.Forall₂ IsHexDigit digits values) (start : Nat) :
    hexNumber? start digits =
      some (start * 16 ^ values.length + Nat.ofDigits 16 values.reverse) := by
  induction digital generalizing start with
  | nil => simp [hexNumber?]
  | @cons digit value digits values first _ step =>
    have joined : Nat.ofDigits 16 (value :: values).reverse =
        Nat.ofDigits 16 values.reverse + 16 ^ values.length * value := by
      rw [List.reverse_cons, Nat.ofDigits_append, Nat.ofDigits_singleton, List.length_reverse]
    rw [hexNumber?, first.read, Option.bind_eq_bind, Option.bind_some, step, joined,
      List.length_cons]
    congr 1
    ring

/-- The character of a code point is read off its digits. -/
theorem codePoint?_append {digits : List Char} {character : Char}
    (digital : IsHexNumber digits character.toNat) (rest : List Char) :
    codePoint? digits.length (digits ++ rest) = some (character, rest) := by
  obtain ⟨values, all, same⟩ := digital
  have read : hexNumber? 0 digits = some character.toNat := by
    rw [hexNumber?_eq_some all, same, Nat.zero_mul, Nat.zero_add]
  have valid : character.toNat.isValidChar := character.valid
  simp [codePoint?, read, valid]

/-- A character is read off each of its escapes. -/
theorem Escapes.read {character : Char} {escape : List Char} (escapes : Escapes character escape)
    (rest : List Char) : escape? (escape ++ rest) = some (character, rest) := by
  cases escapes with
  | letter member =>
    simp only [lettered, List.mem_cons, Prod.mk.injEq, List.not_mem_nil, or_false] at member
    rcases member with ⟨rfl, rfl⟩ | ⟨rfl, rfl⟩ | ⟨rfl, rfl⟩ | ⟨rfl, rfl⟩ | ⟨rfl, rfl⟩ |
      ⟨rfl, rfl⟩ | ⟨rfl, rfl⟩ <;> rfl
  | short four digital =>
    have found := codePoint?_append digital rest
    rwa [four] at found
  | long eight digital =>
    have found := codePoint?_append digital rest
    rwa [eight] at found

/-- A character that stands for itself is no control character, no quote and no backslash. -/
theorem isBasicChar_iff (character : Char) :
    isBasicChar character = true ↔ ¬IsControl character ∧ character ≠ '"' ∧ character ≠ '\\' := by
  simp only [isBasicChar, isVisible, IsControl, Bool.and_eq_true, Bool.or_eq_true, beq_iff_eq,
    bne_iff_ne, decide_eq_true_eq, and_assoc]
  grind

/-- A character is read off each of its spellings. -/
theorem Spells.read {character : Char} {spelling : List Char} (spells : Spells character spelling)
    (rest : List Char) : basic? (spelling ++ rest) =
      (basic? rest).map fun (content, after) => (character :: content, after) := by
  cases spells with
  | plain visible unquoted unescaped =>
    have plain := (isBasicChar_iff character).2 ⟨visible, unquoted, unescaped⟩
    rw [List.singleton_append, basic?]
    · rw [if_pos plain]
    · exact unquoted
    · exact unescaped
  | escaped escapes =>
    have found := escapes.read rest
    rw [List.cons_append, basic?]
    split
    · rename_i other more again
      rw [found] at again
      obtain ⟨rfl, rfl⟩ := Prod.mk.inj (Option.some.inj again)
      rfl
    · rename_i none
      simp [found] at none

/-- A text is read off the spellings of its characters, up to the closing quote. -/
theorem basic?_flatten {content : List Char} {spellings : List (List Char)}
    (spelled : List.Forall₂ Spells content spellings) (after : List Char) :
    basic? (spellings.flatten ++ '"' :: after) = some (content, after) := by
  induction spelled with
  | nil => simp [basic?]
  | cons first _ step =>
    rw [List.flatten_cons, List.append_assoc, first.read, step, Option.map_some]

/-- No spelling of a character starts with a quote. -/
theorem Spells.stops {character : Char} {spelling : List Char} (spells : Spells character spelling)
    (rest : List Char) : Stops (· == '"') (spelling ++ rest) := by
  cases spells with
  | plain _ unquoted => simpa [Stops] using unquoted
  | escaped => exact stops_cons rfl _

/-- A text between double quotes is read, unless one more quote stands behind it. -/
theorem IsBasicText.read {content : String} {text after : List Char}
    (spelled : IsBasicText content text) (stops : Stops (· == '"') after) :
    string? (text ++ after) = some (content.toList, after) := by
  obtain ⟨spellings, all, rfl⟩ := spelled
  have read := basic?_flatten all after
  -- Two quotes and one more would open a text over several lines.
  have single : ∀ rest, spellings.flatten ++ '"' :: after ≠ '"' :: '"' :: rest := by
    intro rest three
    generalize content.toList = characters at all
    cases all with
    | nil => simpa using stops '"' (by simp [(List.cons.inj three).2])
    | cons first =>
      rw [List.flatten_cons, List.append_assoc] at three
      simpa using first.stops _ '"' (congrArg List.head? three)
  rw [List.cons_append, List.append_assoc, List.singleton_append, string?]
  · exact read
  · exact single

/-- A spelling of a character: an escape if it needs one. -/
def spelling (character : Char) : List Char :=
  if character = '"' ∨ character = '\\' then ['\\', character]
  else if IsControl character then
    ['\\', 'u', '0', '0', (character.toNat / 16).digitChar, (character.toNat % 16).digitChar]
  else [character]

/-- A text as a basic string, each character in its plainest spelling. -/
def basicText (content : String) : List Char :=
  '"' :: ((content.toList.map spelling).flatten ++ ['"'])

/-- The code point of a control character has two digits. -/
theorem isHexNumber_of_isControl {character : Char} (control : IsControl character) :
    IsHexNumber ['0', '0', (character.toNat / 16).digitChar, (character.toNat % 16).digitChar]
      character.toNat := by
  have digital : ∀ value < 16, IsHexDigit value.digitChar value := fun value small =>
    ⟨small, .inl rfl⟩
  have zero : IsHexDigit '0' 0 := digital 0 (by omega)
  have small : character.toNat < 256 := by
    have := control.2
    omega
  refine ⟨[0, 0, character.toNat / 16, character.toNat % 16], ?_, ?_⟩
  · exact .cons zero (.cons zero (.cons (digital _ (by omega)) (.cons (digital _ (by omega)) .nil)))
  · simp [Nat.ofDigits_cons]
    omega

/-- Every character is spelled. -/
theorem spells_spelling (character : Char) : Spells character (spelling character) := by
  unfold spelling
  split
  · rename_i special
    refine .escaped (.letter ?_)
    rcases special with rfl | rfl <;> decide
  · rename_i plain
    split
    · rename_i control
      exact .escaped (.short rfl (isHexNumber_of_isControl control))
    · rename_i visible
      exact .plain visible (fun same => plain (.inl same)) fun same => plain (.inr same)

/-- Every text can stand between double quotes. -/
theorem isBasicText_basicText (content : String) : IsBasicText content (basicText content) :=
  ⟨_, List.forall₂_map_right_iff.2 (List.forall₂_same.2 fun character _ =>
    spells_spelling character), rfl⟩

-- Quotes, backslashes and control characters are escaped, the tab is not.
example : basicText "\"a\\\t\n\x7f\"" = "\"\\\"a\\\\\t\\u000a\\u007f\\\"\"".toList := by
  decide +kernel

end Handbook.Toml
