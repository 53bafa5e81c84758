import Mathlib.Data.List.Forall2
import Mathlib.Data.List.Infix
import Mathlib.Data.List.TakeWhile
import Handbook.Document.Index
import Handbook.Proofs.Text.Splitting

/-!
# Where a document has links

`Link.Begins` says how a link is spelled, and `Link.PointsTo` what it refers to. A document has one
reference for each position at which a link begins that names something. Reading goes on behind a
link that was found, which loses none: no square bracket opens inside a link after its first
character.
-/
namespace Handbook

open Text

namespace Link

/-- The label of a link: a nonempty text without square brackets. -/
def IsLabel (label : List Char) : Prop :=
  label ≠ [] ∧ ∀ character ∈ label, character ≠ '[' ∧ character ≠ ']'

/-- The path of a link: a nonempty text of dots, separators, hyphens and word characters. -/
def IsPath (path : String) : Prop :=
  path ≠ "" ∧ ∀ character ∈ path.toList,
    character = '.' ∨ character = '/' ∨ character = '-' ∨ isWord character = true

/-- The fragment of a link: a nonempty text of hyphens and word characters. -/
def IsFragment (fragment : String) : Prop :=
  fragment ≠ "" ∧ ∀ character ∈ fragment.toList, character = '-' ∨ isWord character = true

/-- The text between the round brackets of a link. -/
def spelling (link : Link) : List Char :=
  link.path.elim [] String.toList ++ link.fragment.elim [] fun fragment => '#' :: fragment.toList

/-- Whether the parts that a link has may stand in one. -/
def Legal (link : Link) : Prop :=
  (∀ path ∈ link.path, IsPath path) ∧ ∀ fragment ∈ link.fragment, IsFragment fragment

/-- A text begins with a link and goes on with another text behind it. -/
def Begins (text : List Char) (link : Link) (rest : List Char) : Prop :=
  ∃ label, IsLabel label ∧ link.Legal ∧
    text = '[' :: (label ++ ']' :: '(' :: (link.spelling ++ ')' :: rest))

/-- What a link in a document refers to. A link without path and fragment refers to nothing. -/
inductive PointsTo (document : Path) : Link → Reference → Prop
  /-- An absolute path stays as it is. -/
  | absolute {path : String} {fragment : Option String} : path.toList.head? = some '/' →
    PointsTo document ⟨some path, fragment⟩ ⟨⟨path⟩, fragment⟩
  /-- Any other path is seen from the folder of the document. -/
  | relative {path : String} {fragment : Option String} : path.toList.head? ≠ some '/' →
    PointsTo document ⟨some path, fragment⟩ ⟨document.folder.join ⟨path⟩, fragment⟩
  /-- A fragment alone is one of the document itself. -/
  | own {fragment : String} : PointsTo document ⟨none, some fragment⟩ ⟨document, some fragment⟩

/-- The characters of a path are those that a path may have. -/
theorem isPathChar_iff (character : Char) : isPathChar character = true ↔
    character = '.' ∨ character = '/' ∨ character = '-' ∨ isWord character = true := by
  simp [isPathChar, isAnchorChar, or_assoc]

/-- The characters of a fragment are those that an anchor may have. -/
theorem isAnchorChar_iff (character : Char) :
    isAnchorChar character = true ↔ character = '-' ∨ isWord character = true := by
  simp [isAnchorChar]

/-- The characters of a label are those that a label may have. -/
theorem isLabelChar_iff (character : Char) :
    isLabelChar character = true ↔ character ≠ '[' ∧ character ≠ ']' := by
  simp [isLabelChar]

/-- A part of a link is what is written at its place. -/
theorem written_eq_some_iff (text : List Char) (part : String) :
    written text = some part ↔ part ≠ "" ∧ text = part.toList := by
  unfold written
  split
  · rename_i empty
    constructor
    · intro same
      simp at same
    · rintro ⟨filled, spelled⟩
      rw [empty] at spelled
      exact absurd (String.toList_eq_nil_iff.1 spelled.symm) filled
  · rename_i filled
    constructor
    · intro same
      obtain rfl := Option.some.inj same
      exact ⟨by simpa using filled, by simp⟩
    · rintro ⟨-, rfl⟩
      simp

/-- A part of a link is left out when nothing is written at its place. -/
theorem written_eq_none_iff (text : List Char) : written text = none ↔ text = [] := by
  unfold written
  split <;> simp [*]

/-- A part that is written at its place spells the text there. -/
theorem elim_written (text : List Char) : (written text).elim [] String.toList = text := by
  cases part : written text with
  | none => exact ((written_eq_none_iff text).1 part).symm
  | some part' => exact ((written_eq_some_iff text part').1 part).2.symm

/-- Writing a part that is not empty and reading it again gives the part. -/
theorem written_elim {part : Option String} (filled : ∀ text ∈ part, text ≠ "") :
    written (part.elim [] String.toList) = part := by
  cases part with
  | none => rfl
  | some text => exact (written_eq_some_iff _ _).2 ⟨filled text rfl, rfl⟩

/-- The path at the start of a text is a path. -/
theorem isPath_of_written {text : List Char} :
    ∀ path ∈ written (text.takeWhile isPathChar), IsPath path := by
  intro path member
  obtain ⟨filled, spelled⟩ := (written_eq_some_iff _ _).1 member
  refine ⟨filled, fun character inside => (isPathChar_iff character).1 ?_⟩
  rw [← spelled] at inside
  exact List.mem_takeWhile_imp inside

/-- The fragment at the start of a text is a fragment. -/
theorem isFragment_of_written {text : List Char} {fragment : String}
    (found : written (text.takeWhile isAnchorChar) = some fragment) : IsFragment fragment := by
  obtain ⟨filled, spelled⟩ := (written_eq_some_iff _ _).1 found
  refine ⟨filled, fun character inside => (isAnchorChar_iff character).1 ?_⟩
  rw [← spelled] at inside
  exact List.mem_takeWhile_imp inside

/-- The path of a link is read off up to the number sign or the closing bracket. -/
theorem path_read {path : Option String} (legal : ∀ text ∈ path, IsPath text) {rest : List Char}
    (stop : Stops isPathChar rest) :
    written ((path.elim [] String.toList ++ rest).takeWhile isPathChar) = path ∧
      (path.elim [] String.toList ++ rest).dropWhile isPathChar = rest := by
  have all : ∀ character ∈ path.elim [] String.toList, isPathChar character = true := by
    cases path with
    | none => simp
    | some text => exact fun character member =>
        (isPathChar_iff character).2 ((legal text rfl).2 character member)
  obtain ⟨taken, left⟩ := takeWhile_append_of_stops all stop
  rw [taken]
  exact ⟨written_elim fun text member => (legal text member).1, left⟩

/-- A target that is read is legal, and the text starts with its spelling and a closing bracket. -/
theorem legal_of_target? {text rest : List Char} {link : Link}
    (found : target? text = some (link, rest)) :
    link.Legal ∧ text = link.spelling ++ ')' :: rest := by
  have whole := List.takeWhile_append_dropWhile (p := isPathChar) (l := text)
  rw [← elim_written (text.takeWhile isPathChar)] at whole
  unfold target? at found
  simp only at found
  split at found
  · rename_i after left
    obtain ⟨rfl, rfl⟩ := Prod.mk.inj (Option.some.inj found)
    rw [left] at whole
    exact ⟨⟨isPath_of_written, by simp⟩, by simpa [spelling] using whole.symm⟩
  · rename_i more left
    split at found
    · rename_i fragment after read ending
      obtain ⟨rfl, rfl⟩ := Prod.mk.inj (Option.some.inj found)
      have later := List.takeWhile_append_dropWhile (p := isAnchorChar) (l := more)
      rw [((written_eq_some_iff _ _).1 read).2, ending] at later
      rw [left, ← later] at whole
      refine ⟨⟨isPath_of_written, ?_⟩, by simpa [spelling] using whole.symm⟩
      intro part member
      rw [← Option.some.inj member]
      exact isFragment_of_written read
    · simp at found
  · simp at found

/-- A legal target is read off its spelling up to the closing bracket. -/
theorem target?_spelling {link : Link} (legal : link.Legal) (rest : List Char) :
    target? (link.spelling ++ ')' :: rest) = some (link, rest) := by
  obtain ⟨path, fragment⟩ := link
  cases fragment with
  | none =>
    have stop : Stops isPathChar (')' :: rest) := stops_cons (by decide +kernel) rest
    obtain ⟨read, left⟩ := path_read legal.1 stop
    simp only [spelling, Option.elim_none, List.append_nil]
    unfold target?
    simp only [read, left]
  | some fragment =>
    obtain ⟨filled, all⟩ := legal.2 fragment rfl
    have mark : Stops isPathChar ('#' :: (fragment.toList ++ ')' :: rest)) :=
      stops_cons (by decide +kernel) _
    have stop : Stops isAnchorChar (')' :: rest) := stops_cons (by decide +kernel) rest
    have anchor : ∀ character ∈ fragment.toList, isAnchorChar character = true :=
      fun character member => (isAnchorChar_iff character).2 (all character member)
    have named : written fragment.toList = some fragment :=
      (written_eq_some_iff _ _).2 ⟨filled, rfl⟩
    obtain ⟨read, left⟩ := path_read legal.1 mark
    obtain ⟨taken, ending⟩ := takeWhile_append_of_stops anchor stop
    simp only [spelling, Option.elim_some, List.append_assoc, List.cons_append]
    unfold target?
    simp only [read, left, taken, ending, named]

/-- A text that a link is read from begins with the link. -/
theorem begins_of_atStart? {text rest : List Char} {link : Link}
    (found : atStart? text = some (link, rest)) : Begins text link rest := by
  unfold atStart? at found
  split at found
  · rename_i inner
    have whole := List.takeWhile_append_dropWhile (p := isLabelChar) (l := inner)
    split at found
    · rename_i first more after label ending
      obtain ⟨legal, spelled⟩ := legal_of_target? found
      refine ⟨inner.takeWhile isLabelChar, ⟨by simp [label], ?_⟩, legal, ?_⟩
      · intro character member
        exact (isLabelChar_iff character).1 (List.mem_takeWhile_imp member)
      · rw [← spelled, ← ending, whole]
    · simp at found
  · simp at found

/-- The link at the start of a text is the one that the text begins with. -/
theorem atStart?_eq_some_iff (text : List Char) (link : Link) (rest : List Char) :
    atStart? text = some (link, rest) ↔ Begins text link rest := by
  refine ⟨begins_of_atStart?, ?_⟩
  rintro ⟨label, ⟨filled, all⟩, legal, rfl⟩
  have inLabel : ∀ character ∈ label, isLabelChar character = true := fun character member =>
    (isLabelChar_iff character).2 (all character member)
  have stop : Stops isLabelChar (']' :: '(' :: (link.spelling ++ ')' :: rest)) :=
    stops_cons (by decide) _
  obtain ⟨taken, ending⟩ := takeWhile_append_of_stops inLabel stop
  obtain ⟨first, more, rfl⟩ := List.exists_cons_of_ne_nil filled
  unfold atStart?
  simp only [taken, ending]
  exact target?_spelling legal rest

/-- Between the round brackets of a link stand characters of paths and number signs. -/
theorem Legal.mem_spelling {link : Link} (legal : link.Legal) {character : Char}
    (member : character ∈ link.spelling) : character = '#' ∨ isPathChar character = true := by
  obtain ⟨path, fragment⟩ := link
  rcases List.mem_append.1 member with inPath | inFragment
  · cases path with
    | none => simp at inPath
    | some path => exact .inr ((isPathChar_iff character).2 ((legal.1 path rfl).2 character inPath))
  · cases fragment with
    | none => simp at inFragment
    | some fragment =>
      rcases List.mem_cons.1 inFragment with mark | inside
      · exact .inl mark
      · have anchor := (legal.2 fragment rfl).2 character inside
        exact .inr ((isPathChar_iff character).2 (.inr (.inr anchor)))

/-- A square bracket opens nothing inside the round brackets of a link. -/
theorem Legal.clean {link : Link} (legal : link.Legal) : '[' ∉ link.spelling := fun member =>
  absurd (legal.mem_spelling member) (by decide +kernel)

/-- A link starts with a bracket, opens no further one and ends with a closing one; it is the same
link whatever stands behind it. -/
theorem Begins.closed {text rest : List Char} {link : Link} (begins : Begins text link rest) :
    ∃ inside, '[' ∉ inside ∧ text = '[' :: (inside ++ ')' :: rest) ∧
      ∀ other, Begins ('[' :: (inside ++ ')' :: other)) link other := by
  obtain ⟨label, proper, legal, rfl⟩ := begins
  have inLabel : '[' ∉ label := fun member => (proper.2 '[' member).1 rfl
  refine ⟨label ++ ']' :: '(' :: link.spelling, ?_, by simp, ?_⟩
  · simp [inLabel, legal.clean]
  · intro other
    exact ⟨label, proper, legal, by simp⟩

/-- A link is a bracket and a text in which no further one opens, and the text behind it. -/
theorem Begins.eq_append {text rest : List Char} {link : Link} (begins : Begins text link rest) :
    ∃ inside, '[' ∉ inside ∧ text = '[' :: (inside ++ rest) := by
  obtain ⟨inside, clean, spelled, -⟩ := begins.closed
  exact ⟨inside ++ [')'], by simpa using clean, by simpa using spelled⟩

/-- The link at the start of a text. -/
def first? (text : List Char) : Option Link := (atStart? text).map (·.1)

/-- Where another character than an opening bracket stands, no link begins. -/
theorem first?_cons_of_ne {character : Char} (other : character ≠ '[') (rest : List Char) :
    first? (character :: rest) = none := by
  unfold first? atStart?
  split
  · rename_i same
    exact absurd (List.cons.inj same).1 other
  · rfl

/-- Where no bracket opens, no link begins. -/
theorem filterMap_first?_append {inside : List Char} (clean : '[' ∉ inside) (rest : List Char) :
    (inside ++ rest).tails.filterMap first? = rest.tails.filterMap first? := by
  induction inside with
  | nil => rfl
  | cons character more step =>
    simp only [List.mem_cons, not_or] at clean
    rw [List.cons_append, List.tails_cons,
      List.filterMap_cons_none (first?_cons_of_ne (Ne.symm clean.1) _), step clean.2]

/-- Scanning a text finds the links that begin at its positions, in their order. -/
theorem scan_eq_filterMap_tails (text : List Char) : scan text = text.tails.filterMap first? := by
  fun_induction scan text with
  | case1 text link rest found _ step =>
    have read : first? text = some link := by simp [first?, found]
    obtain ⟨inside, clean, rfl⟩ := ((atStart?_eq_some_iff text link rest).1 found).eq_append
    rw [List.tails_cons, List.filterMap_cons_some read, filterMap_first?_append clean, step]
  | case2 => simp [first?, atStart?]
  | case3 character rest unread step =>
    have none : first? (character :: rest) = none := by simp [first?, unread]
    rw [List.tails_cons, List.filterMap_cons_none none, step]

/-- What a link refers to is the target that it resolves to. -/
theorem resolve?_eq_some_iff (document : Path) (link : Link) (reference : Reference) :
    resolve? document link = some reference ↔ PointsTo document link reference := by
  obtain ⟨path, fragment⟩ := link
  constructor
  · intro found
    cases path with
    | some path =>
      obtain rfl := Option.some.inj found
      by_cases absolute : path.toList.head? = some '/'
      · have kept : document.folder.join ⟨path⟩ = ⟨path⟩ := by
          simp [Path.join, Path.isAbsolute, absolute]
        rw [kept]
        exact .absolute absolute
      · exact .relative absolute
    | none =>
      cases fragment with
      | none => simp [resolve?] at found
      | some fragment =>
        obtain rfl := Option.some.inj found
        exact .own
  · intro points
    cases points with
    | absolute absolute => simp [resolve?, Path.join, Path.isAbsolute, absolute]
    | relative => rfl
    | own => rfl

/-- A link refers to something exactly when it has a path or a fragment. -/
theorem exists_pointsTo_iff (document : Path) (link : Link) :
    (∃ reference, PointsTo document link reference) ↔ link.path ≠ none ∨ link.fragment ≠ none := by
  obtain ⟨path, fragment⟩ := link
  simp only [← resolve?_eq_some_iff]
  cases path <;> cases fragment <;> simp [resolve?]

end Link

namespace Index

/-- The reference of the link that a text begins with. -/
def referenceAt? (document : Path) (text : List Char) : Option Reference :=
  (Link.first? text).bind (Link.resolve? document)

/-- The reference at the start of a text is the one of the link that the text begins with. -/
theorem referenceAt?_eq_some_iff (document : Path) (text : List Char) (reference : Reference) :
    referenceAt? document text = some reference ↔
      ∃ link rest, Link.Begins text link rest ∧ Link.PointsTo document link reference := by
  simp only [referenceAt?, Link.first?, Option.bind_eq_some_iff, Option.map_eq_some_iff,
    Prod.exists, exists_and_right, exists_eq_right, Link.resolve?_eq_some_iff,
    Link.atStart?_eq_some_iff]

/-- The references of a document are those at its positions, in their order. -/
theorem references_eq_filterMap_range (document : Path) (content : String) :
    (ofText document content).references =
      (List.range (content.toList.length + 1)).filterMap fun position =>
        referenceAt? document (content.toList.drop position) := by
  have positions : content.toList.tails =
      (List.range (content.toList.length + 1)).map content.toList.drop := by
    apply List.ext_getElem
    · simp
    · intro position inTails inRange
      simp
  show (Link.scan content.toList).filterMap (Link.resolve? document) = _
  rw [Link.scan_eq_filterMap_tails, List.filterMap_filterMap, positions, List.filterMap_map]
  rfl

/-- A reference stands where a link begins that has a path or a fragment, and nowhere behind the end
of the document. -/
theorem mem_positions_iff (document : Path) (text : List Char) (position : Nat) :
    position ∈ (List.range (text.length + 1)).filter (fun position =>
        (referenceAt? document (text.drop position)).isSome) ↔
      ∃ link rest, Link.Begins (text.drop position) link rest ∧
        (link.path ≠ none ∨ link.fragment ≠ none) := by
  rw [List.mem_filter, List.mem_range, Option.isSome_iff_exists]
  simp only [referenceAt?_eq_some_iff, ← Link.exists_pointsTo_iff document]
  constructor
  · rintro ⟨-, reference, link, rest, begins, points⟩
    exact ⟨link, rest, begins, reference, points⟩
  · rintro ⟨link, rest, begins, reference, points⟩
    refine ⟨?_, reference, link, rest, begins, points⟩
    obtain ⟨inside, -, spelled⟩ := begins.eq_append
    have inText : text.drop position ≠ [] := by simp [spelled]
    have before := List.length_pos_iff.2 inText
    rw [List.length_drop] at before
    omega

/-- What a partial function finds in a list is found entry by entry where it finds anything. -/
theorem forall₂_filterMap {α β : Type} (found? : α → Option β) (entries : List α) :
    List.Forall₂ (fun entry found => found? entry = some found)
      (entries.filter fun entry => (found? entry).isSome) (entries.filterMap found?) := by
  induction entries with
  | nil => exact .nil
  | cons entry rest step =>
    cases found : found? entry with
    | none => simpa [found] using step
    | some value => simpa [found] using step

/-- The references of a document are one for each position at which a link begins that refers to
something, in the order of the positions. -/
theorem references_at_positions (document : Path) (content : String) :
    ∃ positions : List Nat, positions.Pairwise (· < ·) ∧
      (∀ position, position ∈ positions ↔ ∃ link rest,
        Link.Begins (content.toList.drop position) link rest ∧
          (link.path ≠ none ∨ link.fragment ≠ none)) ∧
      List.Forall₂ (fun position reference => ∃ link rest,
        Link.Begins (content.toList.drop position) link rest ∧
          Link.PointsTo document link reference)
        positions (ofText document content).references := by
  refine ⟨(List.range (content.toList.length + 1)).filter fun position =>
    (referenceAt? document (content.toList.drop position)).isSome, ?_, ?_, ?_⟩
  · exact List.Pairwise.filter _ List.pairwise_lt_range
  · exact mem_positions_iff document content.toList
  · rw [references_eq_filterMap_range]
    exact (forall₂_filterMap _ _).imp fun position reference found =>
      (referenceAt?_eq_some_iff document (content.toList.drop position) reference).1 found

-- Neither an open bracket nor a link to nothing hides the link behind it.
example : (ofText ⟨"docs/a.md"⟩ "[ [x]() [y](b.md#top)").references =
    [⟨⟨"docs/b.md"⟩, some "top"⟩] := by
  decide +kernel

end Index

end Handbook
