import Handbook.Disk.Workspace
import Handbook.Proofs.Path.NormalForm

/-!
# Where paths lead

A path that can be followed leads to a location that its components alone determine, and the normal
form of the components determines the same one. So two paths with one normal form can only lead to
one place, and they differ in whether they can be followed: a spelling also walks through the
folders that its normal form leaves out. `StandsInFolders` says which of them it needs, and
`locate_of_normalize_eq` that it needs nothing else.
-/
namespace Handbook

namespace Component

/-- Where a component leads from a location when nothing stands in the way. -/
def follow (location : Location) : Component → Location
  | root => []
  | current => location
  | parent => location.tail
  | name text => text :: location

/-- Where components lead from a location when nothing stands in the way. -/
def land (location : Location) (components : List Component) : Location :=
  components.foldl follow location

/-- Components lead on from where the earlier ones lead. -/
theorem land_append (location : Location) (before after : List Component) :
    land location (before ++ after) = land (land location before) after :=
  List.foldl_append

/-- Normalizing one more component leads to where following it leads. -/
theorem land_push (location : Location) (stack : List Component) (component : Component) :
    land location (push stack component).reverse =
      follow (land location stack.reverse) component := by
  cases component with
  | root => simp [land, push]
  | current => rfl
  | name text => simp [land, push]
  | parent =>
    cases stack with
    | nil => rfl
    | cons last below => cases last <;> simp [land, push, follow]

/-- The normal form of components leads to where they lead. -/
theorem land_normal (location : Location) (components : List Component) :
    land location (normal components) = land location components := by
  have kept : ∀ stack, land location (components.foldl push stack).reverse =
      land (land location stack.reverse) components := by
    induction components with
    | nil => exact fun stack => rfl
    | cons component rest step =>
      intro stack
      rw [List.foldl_cons, step, land_push]
      rfl
  exact kept []

/-- Normalizing makes no component up. -/
theorem mem_of_mem_foldl_push {stack components : List Component} {component : Component}
    (member : component ∈ components.foldl push stack) :
    component ∈ stack ∨ component ∈ components := by
  induction components generalizing stack with
  | nil => exact .inl member
  | cons first rest step =>
    rcases step member with kept | later
    · have pushed : component ∈ stack ∨ component = first := by
        unfold push at kept
        grind
      rcases pushed with kept | rfl
      · exact .inl kept
      · exact .inr List.mem_cons_self
    · exact .inr (List.mem_cons_of_mem first later)

/-- Names at the end of components stay in the normal form. -/
theorem mem_normal_of_names (components : List Component) {names : List String} {text : String}
    (member : text ∈ names) : name text ∈ normal (components ++ names.map name) := by
  have stacked : ∀ stack,
      (names.map name).foldl push stack = (names.map name).reverse ++ stack := by
    clear member
    induction names with
    | nil => exact fun stack => rfl
    | cons first rest step =>
      intro stack
      simp [step, push]
  simp [normal, List.foldl_append, stacked, member]

/-- Names lead into each other. -/
theorem land_names (location : Location) (names : List String) :
    land location (names.map name) = names.reverse ++ location := by
  induction names generalizing location with
  | nil => rfl
  | cons first rest step =>
    rw [List.map_cons, List.reverse_cons, List.append_assoc]
    exact step (first :: location)

end Component

namespace Disk

/-- Whether a piece asks for nothing but a folder to stand in: a dot, nothing, or a step up. -/
def isFooting (piece : String) : Bool := Path.isIdle piece || piece == ".."

/-- A piece that asks for more than a folder is a name. -/
theorem ofPiece?_of_not_isFooting {piece : String} (named : isFooting piece = false) :
    Component.ofPiece? piece = some (.name piece) := by
  simp only [isFooting, Path.isIdle, Bool.or_eq_false_iff, beq_eq_false_iff_ne] at named
  simp [Component.ofPiece?, named]

/-- A piece that stands for a name is that name. -/
theorem eq_of_ofPiece?_eq_name {piece text : String}
    (found : Component.ofPiece? piece = some (.name text)) :
    piece = text ∧ isFooting text = false := by
  unfold Component.ofPiece? at found
  split at found
  · simp at found
  · rename_i busy
    split at found
    · simp at found
    · rename_i down
      obtain rfl : piece = text := by simpa using found
      exact ⟨rfl, by simpa [isFooting, Path.isIdle, down] using busy⟩

/-- Names stand for themselves. -/
theorem filterMap_ofPiece?_names {names : List String}
    (plain : ∀ name ∈ names, isFooting name = false) :
    names.filterMap Component.ofPiece? = names.map Component.name := by
  induction names with
  | nil => rfl
  | cons name rest step =>
    have head := ofPiece?_of_not_isFooting (plain name List.mem_cons_self)
    simp [head, step fun other member => plain other (List.mem_cons_of_mem name member)]

/-- A location that is required to be a folder is one. -/
theorem requireFolder_eq_ok_iff (disk : Disk) (location : Location) :
    disk.requireFolder location = .ok () ↔ disk.entry location = some .folder := by
  unfold requireFolder
  cases disk.entry location with
  | none => simp
  | some entry => cases entry <;> simp

/-- Going on by one piece needs a folder; by a name it needs an entry as well. -/
theorem step_eq_ok_iff (disk : Disk) (location next : Location) (piece : String) :
    disk.step location piece = .ok next ↔
      disk.entry location = some .folder ∧
        Component.land location (Component.ofPiece? piece).toList = next ∧
        (isFooting piece = false →
          piece.utf8ByteSize ≤ nameLimit ∧ disk.entry (piece :: location) ≠ none) := by
  rw [← requireFolder_eq_ok_iff]
  unfold step
  cases disk.requireFolder location with
  | error error => simp [bind, Except.bind]
  | ok done =>
    by_cases idle : Path.isIdle piece
    · have nothing : Component.ofPiece? piece = none := by
        simp only [Path.isIdle, Bool.or_eq_true, beq_iff_eq] at idle
        simp [Component.ofPiece?, idle]
      simp [bind, Except.bind, isFooting, idle, nothing, Component.land]
    · by_cases up : piece = ".."
      · subst up
        simp [bind, Except.bind, isFooting, Path.isIdle, Component.ofPiece?, Component.land,
          Component.follow]
      · have named : isFooting piece = false := by simp [isFooting, idle, up]
        simp only [bind, Except.bind, idle, up, ofPiece?_of_not_isFooting named, named,
          Option.toList_some, Component.land, List.foldl_cons, List.foldl_nil, Component.follow,
          Option.isSome_iff_ne_none, Bool.false_eq_true, if_false]
        split
        · rename_i long
          simp only [reduceCtorEq, true_and, false_iff, not_and]
          intro _ short
          exact absurd (short trivial).1 (Nat.not_le.2 long)
        · rename_i short
          split <;> simp_all

/-- Following pieces goes on from where the earlier ones lead. -/
theorem walk_append (disk : Disk) (location : Location) (before after : List String) :
    disk.walk location (before ++ after) =
      (disk.walk location before).bind fun next => disk.walk next after := by
  induction before generalizing location with
  | nil => rfl
  | cons piece rest step =>
    simp only [List.cons_append, walk, bind]
    cases disk.step location piece with
    | error error => rfl
    | ok next => exact step next

/-- Pieces can be followed when the first ones can, and the others from where these lead. -/
theorem walk_append_eq_ok_iff (disk : Disk) (location landed : Location)
    (before after : List String) :
    disk.walk location (before ++ after) = .ok landed ↔
      ∃ next, disk.walk location before = .ok next ∧ disk.walk next after = .ok landed := by
  rw [walk_append]
  cases disk.walk location before <;> simp [Except.bind]

/-- Pieces can be followed when there is a step for the first one, and a way for the others from
there. -/
theorem walk_cons_eq_ok_iff (disk : Disk) (location landed : Location) (piece : String)
    (rest : List String) :
    disk.walk location (piece :: rest) = .ok landed ↔
      ∃ next, disk.step location piece = .ok next ∧ disk.walk next rest = .ok landed := by
  simp only [walk, bind]
  cases disk.step location piece <;> simp [Except.bind]

/-- Pieces that can be followed lead to where their components do. -/
theorem eq_land_of_walk {disk : Disk} {location landed : Location} {pieces : List String}
    (walked : disk.walk location pieces = .ok landed) :
    landed = Component.land location (pieces.filterMap Component.ofPiece?) := by
  induction pieces generalizing location with
  | nil => exact (Except.ok.inj walked).symm
  | cons piece rest step =>
    obtain ⟨next, first, later⟩ := (walk_cons_eq_ok_iff _ _ _ _ _).1 walked
    obtain ⟨-, rfl, -⟩ := (step_eq_ok_iff disk location next piece).1 first
    rw [step later, ← Component.land_append]
    congr 1
    cases found : Component.ofPiece? piece <;> simp [found]

/-- The folder above a folder is a folder; the root is above itself. -/
theorem entry_tail {disk : Disk} {location : Location}
    (inFolder : disk.entry location = some .folder) : disk.entry location.tail = some .folder := by
  cases location with
  | nil => exact inFolder
  | cons name outer => exact disk.parent_folder name outer (by simp [inFolder])

/-- A piece that asks for nothing but a folder leads to a folder. -/
theorem entry_of_footing_step {disk : Disk} {location next : Location} {piece : String}
    (kind : isFooting piece = true) (gone : disk.step location piece = .ok next) :
    disk.entry next = some .folder := by
  obtain ⟨inFolder, rfl, -⟩ := (step_eq_ok_iff disk location next piece).1 gone
  have around : Component.land location (Component.ofPiece? piece).toList = location ∨
      Component.land location (Component.ofPiece? piece).toList = location.tail := by
    simp only [isFooting, Path.isIdle, Bool.or_eq_true, beq_iff_eq] at kind
    rcases kind with idle | rfl
    · exact .inl (by simp [Component.ofPiece?, idle, Component.land])
    · exact .inr rfl
  rcases around with same | up
  · rw [same]
    exact inFolder
  · rw [up]
    exact entry_tail inFolder

/-- There is an entry where a piece leads. -/
theorem entry_of_step {disk : Disk} {location next : Location} {piece : String}
    (gone : disk.step location piece = .ok next) : disk.entry next ≠ none := by
  cases kind : isFooting piece with
  | true => simp [entry_of_footing_step kind gone]
  | false =>
    obtain ⟨-, rfl, named⟩ := (step_eq_ok_iff disk location next piece).1 gone
    rw [ofPiece?_of_not_isFooting kind]
    exact (named kind).2

/-- There is an entry where pieces lead, unless there are none. -/
theorem entry_of_walk {disk : Disk} {location landed : Location} {pieces : List String}
    (nonempty : pieces ≠ []) (walked : disk.walk location pieces = .ok landed) :
    disk.entry landed ≠ none := by
  obtain ⟨before, last, rfl⟩ := (List.eq_nil_or_concat pieces).resolve_left nonempty
  rw [List.concat_eq_append] at walked
  obtain ⟨middle, -, final⟩ := (walk_append_eq_ok_iff _ _ _ _ _).1 walked
  obtain ⟨next, gone, done⟩ := (walk_cons_eq_ok_iff _ _ _ _ _).1 final
  rw [← Except.ok.inj done]
  exact entry_of_step gone

/-- Whatever has an entry below it is a folder. -/
theorem entry_of_below {disk : Disk} {location : Location} {names : List String}
    (nonempty : names ≠ []) (present : disk.entry (names ++ location) ≠ none) :
    disk.entry location = some .folder := by
  induction names with
  | nil => exact absurd rfl nonempty
  | cons name outer step =>
    have parent := disk.parent_folder name (outer ++ location) present
    by_cases last : outer = []
    · rwa [last] at parent
    · exact step last (by simp [parent])

/-- Names that are not too long can be followed to an entry that has them in its location. -/
theorem walk_names {disk : Disk} {location : Location} {names : List String}
    (named : ∀ name ∈ names, isFooting name = false ∧ name.utf8ByteSize ≤ nameLimit)
    (present : disk.entry (names.reverse ++ location) ≠ none) :
    disk.walk location names = .ok (names.reverse ++ location) := by
  induction names generalizing location with
  | nil => rfl
  | cons name rest step =>
    have inFolder : disk.entry location = some .folder := entry_of_below (by simp) present
    rw [List.reverse_cons, List.append_assoc] at present ⊢
    have there : disk.entry (name :: location) ≠ none := by
      by_cases last : rest = []
      · simpa [last] using present
      · have folder : disk.entry (name :: location) = some .folder :=
          entry_of_below (by simpa using last) present
        simp [folder]
    obtain ⟨plain, short⟩ := named name List.mem_cons_self
    have first : disk.step location name = .ok (name :: location) :=
      (step_eq_ok_iff disk location _ name).2
        ⟨inFolder, by rw [ofPiece?_of_not_isFooting plain]; rfl, fun _ => ⟨short, there⟩⟩
    refine (walk_cons_eq_ok_iff _ _ _ _ _).2 ⟨_, first, ?_⟩
    exact step (fun other member => named other (List.mem_cons_of_mem name member)) present

/-- Every list of pieces ends in names, and what stands before them ends in a piece that asks for
nothing but a folder. -/
theorem exists_names_suffix (pieces : List String) :
    ∃ names : List String, (∀ name ∈ names, isFooting name = false) ∧
      (pieces = names ∨ ∃ before footing,
        pieces = before ++ footing :: names ∧ isFooting footing = true) := by
  induction pieces with
  | nil => exact ⟨[], by simp, .inl rfl⟩
  | cons piece rest step =>
    obtain ⟨names, plain, rfl | ⟨before, footing, rfl, stands⟩⟩ := step
    · cases kind : isFooting piece with
      | true => exact ⟨rest, plain, .inr ⟨[], piece, rfl, kind⟩⟩
      | false =>
        refine ⟨piece :: rest, fun name member => ?_, .inl rfl⟩
        rcases List.mem_cons.1 member with rfl | later
        · exact kind
        · exact plain name later
    · exact ⟨names, plain, .inr ⟨piece :: before, footing, rfl, stands⟩⟩

/-- No name among pieces that can be followed is too long. -/
theorem short_of_walk {disk : Disk} {location landed : Location} {pieces : List String}
    (walked : disk.walk location pieces = .ok landed) {name : String} (member : name ∈ pieces)
    (plain : isFooting name = false) : name.utf8ByteSize ≤ nameLimit := by
  obtain ⟨before, after, rfl⟩ := List.append_of_mem member
  obtain ⟨middle, -, later⟩ := (walk_append_eq_ok_iff _ _ _ _ _).1 walked
  obtain ⟨next, first, -⟩ := (walk_cons_eq_ok_iff _ _ _ _ _).1 later
  exact (((step_eq_ok_iff disk middle next name).1 first).2.2 plain).1

end Disk

namespace Workspace

/-- A path that is accepted, and whose pieces that ask for nothing but a folder stand in one: the
way up to each dot, step up, and doubled or last separator leads to a folder. -/
def StandsInFolders (workspace : Workspace) (path : Path) : Prop :=
  workspace.acceptSpelling path = .ok () ∧
    ∀ before piece after, (workspace.route path).2 = before ++ piece :: after →
      Disk.isFooting piece = true →
      ∃ folder, workspace.disk.walk (workspace.route path).1 before = .ok folder ∧
        workspace.disk.entry folder = some .folder

/-- A path is located when its spelling is accepted and its pieces can be followed. -/
theorem locate_eq_ok_iff (workspace : Workspace) (path : Path) (location : Location) :
    workspace.locate path = .ok location ↔
      workspace.acceptSpelling path = .ok () ∧
        workspace.disk.walk (workspace.route path).1 (workspace.route path).2 = .ok location := by
  unfold locate
  cases workspace.acceptSpelling path <;> simp [bind, Except.bind]

/-- A path is present when it is located somewhere. -/
theorem present_iff (workspace : Workspace) (path : Path) :
    workspace.present path = true ↔ ∃ location, workspace.locate path = .ok location := by
  unfold present
  cases workspace.locate path <;> simp

/-- A path is read when it is located at a file with a text. -/
theorem read_eq_ok_iff (workspace : Workspace) (path : Path) (text : String) :
    workspace.read path = .ok text ↔ ∃ location bytes, workspace.locate path = .ok location ∧
      workspace.disk.entry location = some (.file bytes) ∧
        String.fromUTF8? bytes = some text := by
  unfold read
  cases workspace.locate path with
  | error error => simp [bind, Except.bind]
  | ok location =>
    simp only [bind, Except.bind, Except.ok.injEq, exists_and_left, exists_eq_left']
    cases workspace.disk.entry location with
    | none => simp
    | some entry =>
      cases entry with
      | folder => simp
      | file bytes => cases decoded : String.fromUTF8? bytes <;> simp [decoded]

/-- A file that can be read is present. -/
theorem present_of_read {workspace : Workspace} {path : Path} {text : String}
    (read : workspace.read path = .ok text) : workspace.present path = true := by
  obtain ⟨location, -, found, -⟩ := (workspace.read_eq_ok_iff path text).1 read
  exact (workspace.present_iff path).2 ⟨location, found⟩

/-- The pieces that are followed lead from their start to where the components lead from the working
folder. -/
theorem land_route (workspace : Workspace) (path : Path) :
    Component.land (workspace.route path).1
        ((workspace.route path).2.filterMap Component.ofPiece?) =
      Component.land workspace.current path.components := by
  unfold route
  cases start : path.isAbsolute with
  | true =>
    rw [path.components_of_isAbsolute start]
    rfl
  | false =>
    rcases path.components_of_not_isAbsolute start with whole | whole <;> rw [whole] <;> rfl

/-- A located path leads where its components do. -/
theorem eq_land_of_locate {workspace : Workspace} {path : Path} {location : Location}
    (found : workspace.locate path = .ok location) :
    location = Component.land workspace.current path.components := by
  obtain ⟨-, walked⟩ := (workspace.locate_eq_ok_iff path location).1 found
  rw [Disk.eq_land_of_walk walked, land_route]

/-- There are pieces to follow on every path. -/
theorem route_ne_nil (workspace : Workspace) (path : Path) : (workspace.route path).2 ≠ [] := by
  unfold route
  split
  · rename_i start
    obtain ⟨second, rest, cut⟩ := path.pieces_of_isAbsolute start
    simp [cut]
  · simp [Path.pieces]

/-- There is an entry where a path is located. -/
theorem entry_of_locate {workspace : Workspace} {path : Path} {location : Location}
    (found : workspace.locate path = .ok location) : workspace.disk.entry location ≠ none :=
  Disk.entry_of_walk (workspace.route_ne_nil path) ((workspace.locate_eq_ok_iff _ _).1 found).2

/-- The components of a path are what the pieces to follow stand for, after a root or a dot that it
may start with. -/
theorem components_eq_route (workspace : Workspace) (path : Path) : ∃ head : List Component,
    path.components = head ++ (workspace.route path).2.filterMap Component.ofPiece? ∧
      ∀ text, Component.name text ∉ head := by
  unfold route
  cases start : path.isAbsolute with
  | true => exact ⟨[.root], path.components_of_isAbsolute start, by simp⟩
  | false =>
    rcases path.components_of_not_isAbsolute start with whole | whole
    · exact ⟨[], whole, by simp⟩
    · exact ⟨[.current], whole, by simp⟩

/-- No name of a located path is too long. -/
theorem short_of_locate {workspace : Workspace} {path : Path} {location : Location}
    (found : workspace.locate path = .ok location) {text : String}
    (member : Component.name text ∈ path.components) : text.utf8ByteSize ≤ nameLimit := by
  obtain ⟨head, whole, noName⟩ := workspace.components_eq_route path
  rw [whole, List.mem_append] at member
  obtain ⟨piece, inRoute, named⟩ := List.mem_filterMap.1 (member.resolve_left (noName text))
  obtain ⟨rfl, plain⟩ := Disk.eq_of_ofPiece?_eq_name named
  exact Disk.short_of_walk ((workspace.locate_eq_ok_iff _ _).1 found).2 inRoute plain

/-- The names at the end of a path are names of every located path with the same normal form, so
none of them is too long. -/
theorem short_of_normalize_eq {workspace : Workspace} {path other : Path} {location : Location}
    (found : workspace.locate path = .ok location) (same : path.normalize = other.normalize)
    {before names : List String} (cut : (workspace.route other).2 = before ++ names)
    (plain : ∀ name ∈ names, Disk.isFooting name = false) :
    ∀ name ∈ names, Disk.isFooting name = false ∧ name.utf8ByteSize ≤ nameLimit := by
  intro name member
  have normal := (Path.normalize_eq_iff path other).1 same
  obtain ⟨head, whole, -⟩ := workspace.components_eq_route other
  rw [cut, List.filterMap_append, Disk.filterMap_ofPiece?_names plain, ← List.append_assoc]
    at whole
  have kept := Component.mem_normal_of_names (head ++ before.filterMap Component.ofPiece?) member
  rw [← whole, ← normal] at kept
  have original := Component.mem_of_mem_foldl_push (List.mem_reverse.1 kept)
  exact ⟨plain name member, short_of_locate found (original.resolve_left List.not_mem_nil)⟩

/-- Two paths with one normal form lead to one place, if they lead anywhere. -/
theorem land_eq_of_normalize_eq (workspace : Workspace) {left right : Path}
    (same : left.normalize = right.normalize) :
    Component.land workspace.current left.components =
      Component.land workspace.current right.components := by
  rw [← Component.land_normal, (Path.normalize_eq_iff left right).1 same, Component.land_normal]

/-- Lexically, a path leads to where a located path with the same normal form leads. -/
theorem eq_land_of_normalize_eq {workspace : Workspace} {path other : Path} {location : Location}
    (found : workspace.locate path = .ok location) (same : path.normalize = other.normalize) :
    location = Component.land (workspace.route other).1
      ((workspace.route other).2.filterMap Component.ofPiece?) := by
  rw [land_route, eq_land_of_locate found, land_eq_of_normalize_eq workspace same]

/-- A path that stands in folders leads to where a located path with the same normal form leads. The
names at its end are names of the located path, and the entry there answers for the folders on the
way; for everything before them the folder under its last footing does. -/
theorem locate_of_normalize_eq {workspace : Workspace} {path other : Path} {location : Location}
    (found : workspace.locate path = .ok location) (same : path.normalize = other.normalize)
    (stands : workspace.StandsInFolders other) : workspace.locate other = .ok location := by
  have landed := eq_land_of_normalize_eq found same
  have present := entry_of_locate found
  refine (workspace.locate_eq_ok_iff other location).2 ⟨stands.1, ?_⟩
  obtain ⟨names, plain, cut | ⟨before, footing, cut, kind⟩⟩ :=
    Disk.exists_names_suffix (workspace.route other).2
  · rw [cut, Disk.filterMap_ofPiece?_names plain, Component.land_names] at landed
    subst landed
    rw [cut]
    apply Disk.walk_names _ present
    exact short_of_normalize_eq found same (cut.trans (List.nil_append names).symm) plain
  · obtain ⟨folder, walked, inFolder⟩ := stands.2 before footing names cut kind
    have gone : workspace.disk.step folder footing =
        .ok (Component.land folder (Component.ofPiece? footing).toList) :=
      (Disk.step_eq_ok_iff _ _ _ _).2 ⟨inFolder, rfl, by simp [kind]⟩
    have next : location = names.reverse ++
        Component.land folder (Component.ofPiece? footing).toList := by
      rw [landed, cut, List.filterMap_append, Component.land_append, ← Disk.eq_land_of_walk walked,
        ← Component.land_names, ← Disk.filterMap_ofPiece?_names plain, ← Component.land_append]
      congr 1
      cases read : Component.ofPiece? footing <;> simp [read]
    subst next
    have ending : (workspace.route other).2 = (before ++ [footing]) ++ names := by simp [cut]
    rw [cut, Disk.walk_append_eq_ok_iff]
    refine ⟨folder, walked, (Disk.walk_cons_eq_ok_iff _ _ _ _ _).2 ⟨_, gone, ?_⟩⟩
    apply Disk.walk_names _ present
    exact short_of_normalize_eq found same ending plain

/-- A located path stands in folders. -/
theorem standsInFolders_of_locate {workspace : Workspace} {path : Path} {location : Location}
    (found : workspace.locate path = .ok location) : workspace.StandsInFolders path := by
  obtain ⟨accepted, walked⟩ := (workspace.locate_eq_ok_iff path location).1 found
  refine ⟨accepted, fun before piece after cut _ => ?_⟩
  rw [cut] at walked
  obtain ⟨folder, early, later⟩ := (Disk.walk_append_eq_ok_iff _ _ _ _ _).1 walked
  obtain ⟨next, gone, -⟩ := (Disk.walk_cons_eq_ok_iff _ _ _ _ _).1 later
  exact ⟨folder, early, ((Disk.step_eq_ok_iff _ _ _ _).1 gone).1⟩

/-- Next to a present path with the same normal form, a path is present exactly when it stands in
folders. -/
theorem present_iff_standsInFolders {workspace : Workspace} {path other : Path}
    (there : workspace.present path = true) (same : path.normalize = other.normalize) :
    workspace.present other = true ↔ workspace.StandsInFolders other := by
  obtain ⟨location, found⟩ := (workspace.present_iff path).1 there
  rw [present_iff]
  exact ⟨fun ⟨_, located⟩ => standsInFolders_of_locate located,
    fun stands => ⟨location, locate_of_normalize_eq found same stands⟩⟩

end Workspace

end Handbook
