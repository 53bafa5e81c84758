import Handbook.Proofs.Check.DeadLinks
import Handbook.Proofs.Disk.Folders
import Handbook.Proofs.Path.Rewriting

/-!
# Existing paths and their normal forms

Normalizing does not look at any file tree, and still never confuses two things that exist: a path
that can be followed and its normal form lead to one place. The normal form asks for less. It goes
up only at its start, from a folder that the path starts from too, and it is spelled with pieces of
the path, so it is not longer. The documents of a batch are told apart by their normal paths, and so
an index that replaces another one is the index of the same file.
-/
namespace Handbook

namespace Path

/-- Pieces that stand for something are spelled in the components, in their order. -/
theorem map_text_sublist {pieces : List String} (clean : ∀ piece ∈ pieces, '/' ∉ piece.toList) :
    ((pieces.filterMap Component.ofPiece?).map Component.text).Sublist pieces := by
  induction pieces with
  | nil => exact .slnil
  | cons piece rest step =>
    obtain ⟨head, tail⟩ := List.forall_mem_cons.1 clean
    cases found : Component.ofPiece? piece with
    | none =>
      rw [List.filterMap_cons_none found]
      exact (step tail).cons piece
    | some component =>
      have spelled : component.text = piece := (Component.isStep_of_ofPiece? head found).2
      rw [List.filterMap_cons_some found, List.map_cons, spelled]
      exact (step tail).cons_cons piece

/-- A normal path is a dot, the root, or spelled with pieces of the path, in their order. -/
theorem pieces_normalize_sublist (path : Path) : path.normalize = ⟨"."⟩ ∨
    path.normalize = ⟨"/"⟩ ∨ path.normalize.pieces.Sublist path.pieces := by
  cases start : path.isAbsolute with
  | true =>
    obtain ⟨names, -, whole, cut⟩ := normal_of_isAbsolute start
    obtain ⟨second, rest, pieces⟩ := path.pieces_of_isAbsolute start
    by_cases none : names = []
    · have top : path.normalize = ⟨"/"⟩ := by
        rw [normalize, whole, none]
        rfl
      exact .inr (.inl top)
    · have kept := Component.sublist_of_reaches (Component.reaches_normal path.components)
      rw [whole, path.components_of_isAbsolute start, List.cons_sublist_cons] at kept
      have clean : ∀ piece ∈ path.pieces.tail, '/' ∉ piece.toList := fun piece member =>
        path.pieces_clean (List.mem_of_mem_tail member)
      have spelled := (kept.map Component.text).trans (map_text_sublist clean)
      rw [map_text_names, pieces, List.tail_cons] at spelled
      rw [cut, if_neg none, pieces]
      exact .inr (.inr (spelled.cons_cons ""))
  | false =>
    obtain ⟨steps, names, -, whole, cut⟩ := normal_of_not_isAbsolute start
    by_cases none : steps = 0 ∧ names = []
    · have dot : path.normalize = ⟨"."⟩ := by
        rw [normalize, whole, none.1, none.2]
        rfl
      exact .inl dot
    · have same : Component.normal path.components =
          Component.normal (path.pieces.filterMap Component.ofPiece?) := by
        rcases path.components_of_not_isAbsolute start with read | read
        · rw [read]
        · rw [read]
          rfl
      have kept := Component.sublist_of_reaches
        (Component.reaches_normal (path.pieces.filterMap Component.ofPiece?))
      have spelled := (kept.map Component.text).trans (map_text_sublist fun _ => path.pieces_clean)
      rw [← same, whole, List.map_append, map_text_names, List.map_replicate] at spelled
      rw [cut, if_neg none]
      exact .inr (.inr spelled)

/-- A normal path has dots, separators and characters of the path. -/
theorem mem_of_mem_normalize {path : Path} {character : Char} (noDot : character ≠ '.')
    (noSeparator : character ≠ '/') (member : character ∈ path.normalize.spelling.toList) :
    character ∈ path.spelling.toList := by
  obtain dot | top | kept := path.pieces_normalize_sublist
  · rw [dot] at member
    exact absurd (List.mem_singleton.1 member) noDot
  · rw [top] at member
    exact absurd (List.mem_singleton.1 member) noSeparator
  · rw [← exists_mem_pieces_iff noSeparator] at member ⊢
    obtain ⟨piece, listed, inside⟩ := member
    exact ⟨piece, kept.subset listed, inside⟩

/-- The normal form of a path that does not start at the root has no empty piece. -/
theorem empty_notMem_pieces_normalize {path : Path} (relative : path.isAbsolute = false) :
    "" ∉ path.normalize.pieces := by
  obtain ⟨steps, names, legal, -, cut⟩ := normal_of_not_isAbsolute relative
  rw [cut]
  split
  · simp
  · intro member
    rcases List.mem_append.1 member with up | named
    · exact absurd (List.eq_of_mem_replicate up) (by decide)
    · exact (legal "" named).1 rfl

/-- A path starts at the root exactly when its normal form does. -/
theorem isAbsolute_normalize (path : Path) : path.normalize.isAbsolute = path.isAbsolute := by
  cases start : path.isAbsolute with
  | true =>
    obtain ⟨names, -, -, cut⟩ := normal_of_isAbsolute start
    refine (isAbsolute_iff cut).2 ⟨rfl, ?_⟩
    split
    · exact List.cons_ne_nil _ _
    · assumption
  | false =>
    rw [Bool.eq_false_iff]
    intro absolute
    obtain ⟨second, rest, pieces⟩ := path.normalize.pieces_of_isAbsolute absolute
    have first : "" ∈ path.normalize.pieces := by
      rw [pieces]
      exact List.mem_cons_self
    exact empty_notMem_pieces_normalize start first

/-- A normal path is not empty. -/
theorem normalize_ne_empty (path : Path) : path.normalize.spelling ≠ "" := by
  intro empty
  have single := path.normalize.pieces_eq_singleton_iff.2 empty
  cases start : path.isAbsolute with
  | true =>
    have absolute : path.normalize.isAbsolute = true := path.isAbsolute_normalize.trans start
    obtain ⟨second, rest, pieces⟩ := path.normalize.pieces_of_isAbsolute absolute
    simp [pieces] at single
  | false =>
    have first : "" ∈ path.normalize.pieces := by
      rw [single]
      exact List.mem_singleton_self ""
    exact empty_notMem_pieces_normalize start first

/-- Glued pieces are not longer than the same pieces glued together with others. -/
theorem utf8ByteSize_glue_le {texts others : List String} (kept : texts.Sublist others)
    (nonempty : texts ≠ []) : (glue texts).utf8ByteSize ≤ (glue others).utf8ByteSize := by
  have longer : ∀ (text : String) {rest : List String}, rest ≠ [] →
      (glue (text :: rest)).utf8ByteSize = text.utf8ByteSize + 1 + (glue rest).utf8ByteSize := by
    intro text rest filled
    rw [glue_cons filled, String.utf8ByteSize_append, String.utf8ByteSize_append]
    rfl
  induction kept with
  | slnil => exact absurd rfl nonempty
  | @cons texts rest text kept step =>
    have filled : rest ≠ [] := by
      rintro rfl
      exact nonempty (List.sublist_nil.1 kept)
    have later := step nonempty
    rw [longer text filled]
    omega
  | @cons_cons texts rest text kept step =>
    by_cases none : rest = []
    · rw [none] at kept
      rw [none, List.sublist_nil.1 kept]
    · rw [longer text none]
      by_cases last : texts = []
      · have single : glue [text] = text := by simp [glue]
        rw [last, single]
        omega
      · have later := step last
        rw [longer text last]
        omega

/-- A path is its pieces, glued together. -/
theorem glue_pieces (path : Path) : glue path.pieces = path.spelling := by
  have whole : ['/'].intercalate (path.spelling.toList.splitOn '/') = path.spelling.toList :=
    List.intercalate_splitOn '/'
  apply String.toList_injective
  simp [glue, pieces, Function.comp_def, whole]

/-- A normal path is not longer than the path, unless this is empty. -/
theorem utf8ByteSize_normalize_le {path : Path} (filled : path.spelling ≠ "") :
    path.normalize.spelling.utf8ByteSize ≤ path.spelling.utf8ByteSize := by
  have positive : 0 < path.spelling.utf8ByteSize :=
    Nat.pos_of_ne_zero fun none => filled (String.utf8ByteSize_eq_zero_iff.1 none)
  obtain dot | top | kept := path.pieces_normalize_sublist
  · rw [dot]
    exact positive
  · rw [top]
    exact positive
  · have size := utf8ByteSize_glue_le kept path.normalize.pieces_ne_nil
    rwa [glue_pieces, glue_pieces] at size

end Path

namespace Disk

/-- From a folder, pieces that ask for nothing but a folder lead to a folder. -/
theorem walk_footings {disk : Disk} {location : Location} {pieces : List String}
    (footings : ∀ piece ∈ pieces, isFooting piece = true)
    (inFolder : disk.entry location = some .folder) :
    ∃ folder, disk.walk location pieces = .ok folder ∧ disk.entry folder = some .folder := by
  induction pieces generalizing location with
  | nil => exact ⟨location, rfl, inFolder⟩
  | cons piece rest step =>
    obtain ⟨kind, others⟩ := List.forall_mem_cons.1 footings
    have gone : disk.step location piece =
        .ok (Component.land location (Component.ofPiece? piece).toList) :=
      (step_eq_ok_iff _ _ _ _).2 ⟨inFolder, rfl, by simp [kind]⟩
    obtain ⟨folder, walked, still⟩ := step others (entry_of_footing_step kind gone)
    exact ⟨folder, (walk_cons_eq_ok_iff _ _ _ _ _).2 ⟨_, gone, walked⟩, still⟩

/-- A name that can be spelled asks for more than a folder. -/
theorem isFooting_of_isStep {text : String} (legal : (Component.name text).IsStep) :
    isFooting text = false := by
  obtain ⟨filled, noDot, noDots, -⟩ := legal
  simp [isFooting, Path.isIdle, filled, noDot, noDots]

end Disk

namespace Workspace

variable {workspace : Workspace} {path other : Path} {location : Location}

/-- The normal form of a path that is accepted is accepted. -/
theorem acceptSpelling_normalize (accepted : workspace.acceptSpelling path = .ok ()) :
    workspace.acceptSpelling path.normalize = .ok () := by
  rw [acceptSpelling_iff] at accepted ⊢
  obtain ⟨free, filled, bounded⟩ := accepted
  have clean : Char.ofNat 0 ∉ path.normalize.spelling.toList := fun member =>
    free (Path.mem_of_mem_normalize (by decide) (by decide) member)
  have shorter := Path.utf8ByteSize_normalize_le filled
  exact ⟨clean, path.normalize_ne_empty, fun most limit => shorter.trans (bounded most limit)⟩

/-- What is followed on a normal path is first pieces that ask for nothing but a folder, and then
names. -/
theorem exists_route_normalize (workspace : Workspace) (path : Path) :
    ∃ footings names : List String, (workspace.route path.normalize).2 = footings ++ names ∧
      (∀ piece ∈ footings, Disk.isFooting piece = true) ∧
        ∀ name ∈ names, Disk.isFooting name = false := by
  have plain : ∀ {names : List String}, (∀ text ∈ names, (Component.name text).IsStep) →
      ∀ name ∈ names, Disk.isFooting name = false :=
    fun legal name member => Disk.isFooting_of_isStep (legal name member)
  have same := path.isAbsolute_normalize
  cases start : path.isAbsolute with
  | true =>
    obtain ⟨names, legal, -, cut⟩ := Path.normal_of_isAbsolute start
    rw [route_of_isAbsolute (same.trans start), cut]
    by_cases none : names = []
    · exact ⟨[""], [], by simp [none], by decide, by simp⟩
    · exact ⟨[], names, by simp [none], by simp, plain legal⟩
  | false =>
    obtain ⟨steps, names, legal, -, cut⟩ := Path.normal_of_not_isAbsolute start
    rw [route_of_not_isAbsolute (same.trans start), cut]
    by_cases none : steps = 0 ∧ names = []
    · exact ⟨["."], [], by simp [none], by decide, by simp⟩
    · refine ⟨List.replicate steps "..", names, if_neg none, fun piece member => ?_, plain legal⟩
      rw [List.eq_of_mem_replicate member]
      rfl

/-- A located path starts from a folder. -/
theorem entry_start_of_locate (found : workspace.locate path = .ok location) :
    workspace.disk.entry (workspace.route path).1 = some .folder := by
  obtain ⟨-, walked⟩ := (workspace.locate_eq_ok_iff path location).1 found
  obtain ⟨first, rest, cut⟩ := List.exists_cons_of_ne_nil (workspace.route_ne_nil path)
  rw [cut] at walked
  obtain ⟨next, gone, -⟩ := (Disk.walk_cons_eq_ok_iff _ _ _ _ _).1 walked
  exact ((Disk.step_eq_ok_iff _ _ _ _).1 gone).1

/-- A path and its normal form are followed from one place. -/
theorem route_normalize (workspace : Workspace) (path : Path) :
    (workspace.route path.normalize).1 = (workspace.route path).1 := by
  have same := path.isAbsolute_normalize
  cases start : path.isAbsolute with
  | true => rw [route_of_isAbsolute start, route_of_isAbsolute (same.trans start)]
  | false => rw [route_of_not_isAbsolute start, route_of_not_isAbsolute (same.trans start)]

/-- The normal form of a located path stands in folders. -/
theorem standsInFolders_normalize (found : workspace.locate path = .ok location) :
    workspace.StandsInFolders path.normalize := by
  have accepted := acceptSpelling_normalize ((workspace.locate_eq_ok_iff path location).1 found).1
  refine ⟨accepted, fun before piece after cut kind => ?_⟩
  have inFolder := entry_start_of_locate found
  rw [← workspace.route_normalize path] at inFolder
  -- The piece is one of the first pieces, and so are the pieces before it.
  obtain ⟨footings, names, whole, all, plain⟩ := workspace.exists_route_normalize path
  have early : ∀ earlier ∈ before, Disk.isFooting earlier = true := by
    rw [whole] at cut
    rcases List.append_eq_append_iff.1 cut with ⟨more, rfl, ending⟩ | ⟨more, rfl, -⟩
    · have named := plain piece (by simp [ending])
      simp [kind] at named
    · exact fun earlier member => all earlier (List.mem_append_left more member)
  exact Disk.walk_footings early inFolder

/-- The normal form of a located path is located at the same place. -/
theorem locate_normalize (found : workspace.locate path = .ok location) :
    workspace.locate path.normalize = .ok location :=
  locate_of_normalize_eq found path.normalize_normalize.symm (standsInFolders_normalize found)

/-- Two located paths with one normal form are located at one place. -/
theorem locate_unique (found : workspace.locate path = .ok location)
    (present : workspace.present other = true) (same : other.normalize = path.normalize) :
    workspace.locate other = .ok location := by
  obtain ⟨place, located⟩ := (workspace.present_iff other).1 present
  have one : place = location := by
    rw [eq_land_of_locate located, eq_land_of_locate found, land_eq_of_normalize_eq workspace same]
  rw [located, one]

/-- A path that is located has a normal form that is located at the same place, and so has every
path that exists and has this normal form. So a batch that lists the path keeps the index of the
very file at that place, under whichever of its spellings it was read. -/
theorem place_of_normal_form (found : workspace.locate path = .ok location) :
    workspace.locate path.normalize = .ok location ∧
      (∀ other : Path, workspace.present other = true → other.normalize = path.normalize →
        workspace.locate other = .ok location) ∧
      ∀ (paths : List Path) (batch : Batch), Batch.ofFiles workspace.files paths = .ok batch →
        path ∈ paths → ∃ kept ∈ paths, ∃ text, workspace.locate kept = .ok location ∧
          workspace.read kept = .ok text ∧ workspace.read path = .ok text ∧
            batch.get? path = some (Index.ofText kept text) := by
  refine ⟨locate_normalize found, fun other present same => locate_unique found present same, ?_⟩
  intro paths batch indexed listed
  obtain ⟨kept, member, text, same, read, indexes⟩ := Batch.exists_kept indexed listed
  have located : workspace.locate kept = .ok location :=
    locate_unique found (present_of_read read) same
  obtain ⟨own, ownRead⟩ := (Batch.exists_ofFiles_iff workspace.files paths).1 ⟨batch, indexed⟩
    path listed
  have one : own = text := read_unique same.symm ownRead read
  exact ⟨kept, member, text, located, read, one ▸ ownRead, indexes⟩

/-- The small manual, seen from the folder `docs`. -/
def besideManual : Workspace := { smallManual with current := ["docs"] }

/-- From `docs`, a path over the root and back through `docs` leads to the document, and so does its
normal form, which has one step up too many. A batch of two such spellings keeps one index, that of
the document. -/
theorem place_of_steps_over_root :
    besideManual.locate ⟨"..//../docs/./../b.md"⟩ = .ok ["b.md"] ∧
      besideManual.locate ⟨"../../b.md"⟩ = .ok ["b.md"] ∧
      besideManual.locate ⟨"../..//b.md"⟩ = .ok ["b.md"] ∧
      ∃ batch, Batch.ofFiles besideManual.files
          [⟨"..//../docs/./../b.md"⟩, ⟨"../..//b.md"⟩] = .ok batch ∧
        ∃ kept, besideManual.read kept = .ok "## Top\n" ∧
          batch.get? ⟨"..//../docs/./../b.md"⟩ = some (Index.ofText kept "## Top\n") := by
  have found : besideManual.locate ⟨"..//../docs/./../b.md"⟩ = .ok ["b.md"] := by rfl
  have normal : Path.normalize ⟨"..//../docs/./../b.md"⟩ = ⟨"../../b.md"⟩ := by decide +kernel
  have other : Path.normalize ⟨"../..//b.md"⟩ = ⟨"../../b.md"⟩ := by decide +kernel
  have read : besideManual.read ⟨"..//../docs/./../b.md"⟩ = .ok "## Top\n" := by rfl
  have readAgain : besideManual.read ⟨"../..//b.md"⟩ = .ok "## Top\n" := by rfl
  have place := place_of_normal_form found
  rw [normal] at place
  obtain ⟨normalFound, others, keeps⟩ := place
  have readable : ∀ path ∈ [⟨"..//../docs/./../b.md"⟩, ⟨"../..//b.md"⟩],
      ∃ text, besideManual.files.read path = .ok text := by
    simpa [files] using ⟨⟨_, read⟩, _, readAgain⟩
  obtain ⟨batch, indexed⟩ := (Batch.exists_ofFiles_iff besideManual.files _).2 readable
  obtain ⟨kept, -, text, -, keptRead, same, index⟩ := keeps _ batch indexed List.mem_cons_self
  rw [read] at same
  obtain rfl := Except.ok.inj same
  have otherFound := others ⟨"../..//b.md"⟩ (present_of_read readAgain) other
  exact ⟨found, normalFound, otherFound, batch, indexed, kept, keptRead, index⟩

end Workspace

end Handbook
