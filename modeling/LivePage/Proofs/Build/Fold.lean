/-
A build is a left fold of its pairs.

Each pair is settled on its own, from the files that the pairs before it leave:
it is written as a whole or it leaves the files as they are. Only three things
stop a build, and a build that stops has settled the pairs before that one:

* `Unnamable` — a path that no file can have, and `readText_eq_error_iff`,
  `write_eq_error_iff`: no other fault of a file stops a build;
* `Stops` — a pair stops the build, and what it leaves;
* `settle`, `Turn` — what any other pair does;
* `course_buildFrom` — a build settles its pairs from the left, up to the first
  one that stops it;
* `build_folds` — all this of a build, and nothing stops one whose paths files
  can have and whose frame is text.

Design notes: whether a pair stops the build is a question about the files at
its turn, as pairs read what earlier pairs wrote. `Clear` therefore runs along
the same fold.
-/
import LivePage.Proofs.Build

namespace LivePage

/-! ### Faults that stop a build -/

/-- No file can have the path: a surrogate of it has no bytes, or a NUL character stands in it. -/
inductive Unnamable (t : RawText) : FileFault → Prop
  | surrogate {fault : EncodeFault} : nameFault? t = some fault → Unnamable t (.unencodable fault)
  | nul : nameFault? t = none → Point.char '\x00' ∈ t → Unnamable t .nullByte

theorem Unnamable.isSurvived {t : RawText} {fault : FileFault} (h : Unnamable t fault) :
    fault.isSurvived = false := by
  cases h <;> rfl

theorem pathFault?_eq_some_iff {t : RawText} {fault : FileFault} :
    pathFault? t = some fault ↔ Unnamable t fault := by
  rw [pathFault?]
  constructor
  · intro h
    split at h
    · obtain rfl := Option.some_inj.mp h
      exact .surrogate ‹_›
    · split at h
      · rename_i hnul
        obtain rfl := Option.some_inj.mp h
        exact .nul ‹_› (by simpa using hnul)
      · exact absurd h (by simp)
  · intro h
    cases h with
    | surrogate hfault => rw [hfault]
    | nul hname hnul =>
      rw [hname]
      exact if_pos (by simpa using hnul)

/-- A file can have the path. -/
def Path.Namable (path : Path) : Prop :=
  nameFault? path.text = none ∧ Point.char '\x00' ∉ path.text

instance (path : Path) : Decidable path.Namable :=
  inferInstanceAs (Decidable (_ ∧ _))

theorem Path.Namable.not_unnamable {path : Path} (h : path.Namable) (fault : FileFault) :
    ¬ Unnamable path.text fault := by
  intro hfault
  cases hfault with
  | surrogate hsurrogate => exact absurd (h.1.symm.trans hsurrogate) (by simp)
  | nul _ hnul => exact h.2 hnul

namespace FileTree

variable {tree : FileTree} {path : Path} {fault : FileFault}

theorem isSurvived_of_walk {shown : RawText} {here : Location} {parts : List RawText}
    (h : tree.walk shown here parts = .error fault) : fault.isSurvived = true := by
  induction parts generalizing here with
  | nil => exact absurd h (by simp [walk])
  | cons part rest ih =>
    rw [walk] at h
    split at h
    · rw [← Except.error.inj h]
      rfl
    · rw [← Except.error.inj h]
      rfl
    · split at h
      · rw [← Except.error.inj h]
        rfl
      · exact ih h

theorem locate_eq_error_iff (hended : fault.isSurvived = false) :
    tree.locate path = .error fault ↔ Unnamable path.text fault := by
  rw [← pathFault?_eq_some_iff, locate, follow]
  cases pathFault? path.text with
  | some other => simp
  | none =>
    refine iff_of_false ?_ (by simp)
    intro h
    have hsurvived : fault.isSurvived = true := by
      dsimp only at h
      split at h
      · rw [← Except.error.inj h]
        rfl
      · exact isSurvived_of_walk h
    simp [hended] at hsurvived

theorem read_eq_error_iff (hended : fault.isSurvived = false) :
    tree.read path = .error fault ↔ Unnamable path.text fault := by
  rw [read, bind_eq_error_iff, locate_eq_error_iff hended]
  refine or_iff_left ?_
  rintro ⟨place, -, h⟩
  split at h
  · simp [← Except.error.inj h, FileFault.isSurvived] at hended
  · simp [← Except.error.inj h, FileFault.isSurvived] at hended
  · exact absurd h (by simp)

theorem readText_eq_error_iff (hended : fault.isSurvived = false) :
    tree.readText path = .error fault ↔ Unnamable path.text fault := by
  rw [readText, bind_eq_error_iff, read_eq_error_iff hended]
  refine or_iff_left ?_
  rintro ⟨content, -, h⟩
  split at h
  · exact absurd h (by simp)
  · simp [← Except.error.inj h, FileFault.isSurvived] at hended

theorem write_eq_error_iff (hended : fault.isSurvived = false) {content : Bytes} :
    tree.write path content = .error fault ↔ Unnamable path.text fault := by
  rw [write, bind_eq_error_iff, locate_eq_error_iff hended]
  refine or_iff_left ?_
  rintro ⟨place, -, h⟩
  rw [writeAt] at h
  split at h
  · simp [← Except.error.inj h, FileFault.isSurvived] at hended
  · exact absurd h (by simp)

/-- Whether a file can be written does not depend on what is written. -/
theorem write_eq_error_congr {content : Bytes} (h : tree.write path content = .error fault)
    (other : Bytes) : tree.write path other = .error fault := by
  rcases bind_eq_error_iff.mp h with hplace | ⟨place, hplace, h⟩
  · exact bind_eq_error_iff.mpr (.inl hplace)
  · refine bind_eq_error_iff.mpr (.inr ⟨place, hplace, ?_⟩)
    rw [writeAt] at h ⊢
    split at h
    · exact h
    · exact absurd h (by simp)

/-- Of two trees the second has a file with the content at the place, and all else is the same. -/
structure Replaced (tree : FileTree) (place : Location) (content : Bytes) (next : FileTree) :
    Prop where
  content : next.find? place = some (.file content)
  others : ∀ other, other ≠ place → next.find? other = tree.find? other
  working : next.working = tree.working

theorem replaced_set {place : Location} (h : tree.find? place ≠ some .directory)
    (content : Bytes) : tree.Replaced place content (tree.set place (.file content)) := by
  have hplace := ne_nil_of_find? h
  refine ⟨?_, ?_, rfl⟩
  · rw [find?_set hplace, if_pos rfl]
  · intro other hother
    rw [find?_set hplace, if_neg hother.symm]

end FileTree

/-! ### The turn of a pair -/

section Pair

variable (frame : Frame) (tree : FileTree) (pair : Path × Path)

/-- The pair stops a build with a fault, and leaves the files `next`. -/
inductive Stops : FileFault → FileTree → Prop
  /-- No file can have the path of the source. -/
  | source {fault : FileFault} : Unnamable pair.1.text fault → Stops fault tree
  /-- The source is read, but no file can have the path of the destination. -/
  | destination {source : Text} {fault : FileFault} : tree.readText pair.1 = .ok source →
      Unnamable pair.2.text fault → Stops fault tree
  /-- The source is read and the destination opened, but the document has no bytes. -/
  | document {source : Text} {place : Location} {fault : EncodeFault} {next : FileTree} :
      tree.readText pair.1 = .ok source → tree.locate pair.2 = .ok place →
      tree.find? place ≠ some .directory → encodeFault? (frame.compile source) = some fault →
      tree.Replaced place [] next → Stops (.unencodable fault) next

def Passes : Prop :=
  ∀ fault next, ¬ Stops frame tree pair fault next

/-- Reads and compiles the source of a pair and writes the document to its destination. -/
def rewritten : Except FileFault FileTree := do
  let source ← tree.readText pair.1
  tree.write pair.2 (encode (frame.compile source).chars)

/-- The files and the number of pairs written so far, behind one more pair. -/
def settle (state : FileTree × Nat) : FileTree × Nat :=
  match rewritten frame state.1 pair with
  | .ok next => (next, state.2 + 1)
  | .error _ => state

/-- What one more pair does to the files and the number of pairs written. -/
inductive Turn (state : FileTree × Nat) : FileTree × Nat → Prop
  /-- The document of the source is the whole content of the destination, and it counts. -/
  | written {source : Text} {place : Location} {next : FileTree} :
      state.1.readText pair.1 = .ok source → state.1.locate pair.2 = .ok place →
      state.1.find? place ≠ some .directory → encodeFault? (frame.compile source) = none →
      state.1.Replaced place (encode (frame.compile source).chars) next →
      Turn state (next, state.2 + 1)
  /-- The source cannot be read or decoded. -/
  | unread {fault : FileFault} : state.1.readText pair.1 = .error fault → Turn state state
  /-- The destination cannot be opened. -/
  | unopened : (∀ place, state.1.locate pair.2 = .ok place →
      state.1.find? place = some .directory) → Turn state state

end Pair

section Pair

variable {frame : Frame} {tree : FileTree} {pair : Path × Path}

theorem Passes.encodeFault? (h : Passes frame tree pair) {source : Text} {place : Location}
    (hread : tree.readText pair.1 = .ok source) (hplace : tree.locate pair.2 = .ok place)
    (hdirectory : tree.find? place ≠ some .directory) :
    LivePage.encodeFault? (frame.compile source) = none := by
  rw [Option.eq_none_iff_forall_ne_some]
  intro fault hfault
  exact h _ _ (.document hread hplace hdirectory hfault (FileTree.replaced_set hdirectory []))

theorem Passes.isSurvived (h : Passes frame tree pair) {fault : FileFault}
    (hfault : rewritten frame tree pair = .error fault) : fault.isSurvived = true := by
  by_contra hnot
  have hended : fault.isSurvived = false := by simpa using hnot
  rcases bind_eq_error_iff.mp hfault with hread | ⟨source, hread, hwrite⟩
  · exact h _ _ (.source ((FileTree.readText_eq_error_iff hended).mp hread))
  · exact h _ _ (.destination hread ((FileTree.write_eq_error_iff hended).mp hwrite))

theorem turn_settle {state : FileTree × Nat} (h : Passes frame state.1 pair) :
    Turn frame pair state (settle frame pair state) := by
  rw [settle]
  cases hrewritten : rewritten frame state.1 pair with
  | ok next =>
    obtain ⟨source, hread, hwrite⟩ := bind_eq_ok_iff.mp hrewritten
    obtain ⟨place, hplace, hdirectory, rfl⟩ := FileTree.write_eq_ok_iff.mp hwrite
    exact .written hread hplace hdirectory (h.encodeFault? hread hplace hdirectory)
      (FileTree.replaced_set hdirectory _)
  | error fault =>
    rcases bind_eq_error_iff.mp hrewritten with hread | ⟨source, hread, hwrite⟩
    · exact .unread hread
    · refine .unopened ?_
      intro place hplace
      by_contra hdirectory
      rw [FileTree.write_eq_ok_iff.mpr ⟨place, hplace, hdirectory, rfl⟩] at hwrite
      exact absurd hwrite (by simp)

/-- A pair that does not stop the build is written, or its fault leaves the files as they are. -/
theorem buildPair_of_passes (h : Passes frame tree pair) :
    (buildPair frame tree pair).2 =
      match rewritten frame tree pair with
      | .ok next => (next, none)
      | .error fault => (tree, some fault) := by
  cases hread : tree.readText pair.1 with
  | error fault =>
    rw [buildPair, rewritten, hread]
    rfl
  | ok source =>
    have hrewritten : rewritten frame tree pair =
        tree.write pair.2 (encode (frame.compile source).chars) := by
      rw [rewritten, hread]
      rfl
    rw [buildPair_of_read hread, FileTree.writeText, hrewritten]
    cases hbytes : encodeFault? (frame.compile source) with
    | none =>
      simp only [Option.isSome_none, Bool.false_eq_true, if_false, Option.map_none]
      cases tree.write pair.2 (encode (frame.compile source).chars) <;> rfl
    | some fault =>
      -- the destination cannot be opened, or the document would stop the build
      cases hwrite : tree.write pair.2 (encode (frame.compile source).chars) with
      | ok next =>
        obtain ⟨place, hplace, hdirectory, -⟩ := FileTree.write_eq_ok_iff.mp hwrite
        exact absurd (h.encodeFault? hread hplace hdirectory) (by simp [hbytes])
      | error other =>
        simp only [FileTree.write_eq_error_congr hwrite]

theorem Stops.buildPair {fault : FileFault} {next : FileTree} (h : Stops frame tree pair fault next) :
    fault.isSurvived = false ∧ (buildPair frame tree pair).2.2 = some fault ∧
      Stops frame tree pair fault (LivePage.buildPair frame tree pair).2.1 := by
  cases h with
  | source hfault =>
    have hread : tree.readText pair.1 = .error fault :=
      (FileTree.readText_eq_error_iff hfault.isSurvived).mpr hfault
    rw [LivePage.buildPair, hread]
    exact ⟨hfault.isSurvived, rfl, .source hfault⟩
  | @destination source _ hread hfault =>
    have hwrite : tree.writeText pair.2 (frame.compile source) = (tree, some fault) := by
      rw [FileTree.writeText]
      simp only [(FileTree.write_eq_error_iff hfault.isSurvived).mpr hfault]
    rw [buildPair_of_read hread, hwrite]
    exact ⟨hfault.isSurvived, rfl, .destination hread hfault⟩
  | @document source place bytesFault _ hread hplace hdirectory hbytes _ =>
    have hwrite : tree.writeText pair.2 (frame.compile source) =
        (tree.set place (.file []), some (.unencodable bytesFault)) := by
      rw [FileTree.writeText, hbytes]
      simp only [Option.isSome_some, if_true,
        FileTree.write_eq_ok_iff.mpr ⟨_, hplace, hdirectory, rfl⟩, Option.map_some]
    rw [buildPair_of_read hread, hwrite]
    exact ⟨rfl, rfl, .document hread hplace hdirectory hbytes (FileTree.replaced_set hdirectory [])⟩

end Pair

/-! ### The fold -/

/-- No pair stops the build at its turn. -/
def Clear (frame : Frame) (state : FileTree × Nat) : List (Path × Path) → Prop
  | [] => True
  | pair :: rest => Passes frame state.1 pair ∧ Clear frame (settle frame pair state) rest

/-- The files and the count behind pairs that are settled one after the other, from the left. -/
def settleAll (frame : Frame) (state : FileTree × Nat) (pairs : List (Path × Path)) :
    FileTree × Nat :=
  pairs.foldl (fun state pair => settle frame pair state) state

/-- The course of a build from the files and the count `state`. -/
inductive Course (frame : Frame) (state : FileTree × Nat) (pairs : List (Path × Path)) :
    BuildState × Option FileFault → Prop
  /-- All pairs are settled. -/
  | finished {last : BuildState} : Clear frame state pairs →
      (last.tree, last.written) = settleAll frame state pairs → Course frame state pairs (last, none)
  /-- The pairs before the first one that stops the build are settled. -/
  | stopped {last : BuildState} {fault : FileFault} (before : List (Path × Path))
      (pair : Path × Path) (after : List (Path × Path)) : pairs = before ++ pair :: after →
      Clear frame state before → last.written = (settleAll frame state before).2 →
      Stops frame (settleAll frame state before).1 pair fault last.tree →
      Course frame state pairs (last, some fault)

theorem buildFrom_of_passes {frame : Frame} {state : BuildState} {pair : Path × Path}
    (h : Passes frame state.tree pair) (rest : List (Path × Path)) :
    ∃ next : BuildState,
      (next.tree, next.written) = settle frame pair (state.tree, state.written) ∧
        buildFrom frame state (pair :: rest) = buildFrom frame next rest := by
  have hbuilt := buildPair_of_passes h
  rw [buildFrom, settle]
  generalize buildPair frame state.tree pair = built at hbuilt ⊢
  obtain ⟨notices, result⟩ := built
  cases hrewritten : rewritten frame state.tree pair with
  | ok next =>
    obtain rfl : result = (next, none) := by simpa only [hrewritten] using hbuilt
    exact ⟨_, rfl, rfl⟩
  | error fault =>
    obtain rfl : result = (state.tree, some fault) := by simpa only [hrewritten] using hbuilt
    refine ⟨_, ?_, if_pos (h.isSurvived hrewritten)⟩
    rfl

theorem buildFrom_of_stops {frame : Frame} {state : BuildState} {pair : Path × Path}
    {fault : FileFault} {next : FileTree} (h : Stops frame state.tree pair fault next)
    (rest : List (Path × Path)) :
    ∃ last : BuildState, buildFrom frame state (pair :: rest) = (last, some fault) ∧
      last.written = state.written ∧ Stops frame state.tree pair fault last.tree := by
  obtain ⟨hended, hfault, hstops⟩ := h.buildPair
  rw [buildFrom]
  generalize buildPair frame state.tree pair = built at hfault hstops ⊢
  obtain ⟨notices, after, fault?⟩ := built
  obtain rfl : fault? = some fault := hfault
  refine ⟨_, if_neg (by simp [hended]), rfl, ?_⟩
  exact hstops

/-- A build settles its pairs from the left, up to the first one that stops it. -/
theorem course_buildFrom (frame : Frame) (state : BuildState) (pairs : List (Path × Path)) :
    Course frame (state.tree, state.written) pairs (buildFrom frame state pairs) := by
  induction pairs generalizing state with
  | nil => exact .finished trivial rfl
  | cons pair rest ih =>
    by_cases hpasses : Passes frame state.tree pair
    · obtain ⟨next, hnext, hbuild⟩ := buildFrom_of_passes hpasses rest
      have hcourse := ih next
      rw [hnext] at hcourse
      rw [hbuild]
      generalize buildFrom frame next rest = outcome at hcourse ⊢
      cases hcourse with
      | finished hclear hlast => exact .finished ⟨hpasses, hclear⟩ hlast
      | stopped before other after hsplit hclear hwritten hstops =>
        refine .stopped (pair :: before) other after ?_ ⟨hpasses, hclear⟩ hwritten hstops
        rw [hsplit, List.cons_append]
    · obtain ⟨fault, next, hstops⟩ : ∃ fault next, Stops frame state.tree pair fault next := by
        simpa [Passes] using hpasses
      obtain ⟨last, hbuild, hwritten, hlast⟩ := buildFrom_of_stops hstops rest
      rw [hbuild]
      exact .stopped [] pair rest rfl trivial hwritten hlast

/-- In a frame of texts a pair whose paths files can have stops no build. -/
theorem passes_of_namable (lang dir : Text) (tree : FileTree) {pair : Path × Path}
    (h : pair.1.Namable ∧ pair.2.Namable) : Passes ⟨lang.raw, dir.raw⟩ tree pair := by
  intro fault next hstops
  cases hstops with
  | source hfault => exact h.1.not_unnamable _ hfault
  | destination _ hfault => exact h.2.not_unnamable _ hfault
  | document _ _ _ hbytes _ => exact absurd hbytes (by simp [encodeFault?_compile])

/-- **A build isolates its pairs.** It settles them from the left, up to the first one that stops
it, and makes no directory. A pair that does not stop it is written as a whole or leaves the files
as they are. Nothing stops a build in a frame of texts whose paths files can have. -/
theorem build_folds (frame : Frame) (tree : FileTree) (pairs : Pairs) :
    Course frame (tree, 0) pairs (build frame tree pairs) ∧
      tree.SameDirectories (build frame tree pairs).1.tree ∧
      (∀ state pair, Passes frame state.1 pair →
        Turn frame pair state (settle frame pair state)) ∧
      ∀ lang dir : Text, frame = ⟨lang.raw, dir.raw⟩ →
        (∀ pair ∈ pairs, pair.1.Namable ∧ pair.2.Namable) → (build frame tree pairs).2 = none := by
  have hcourse := course_buildFrom frame { tree } pairs
  refine ⟨hcourse, sameDirectories_build frame tree pairs, fun _ _ => turn_settle, ?_⟩
  rintro lang dir rfl hpaths
  rw [build]
  generalize buildFrom ⟨lang.raw, dir.raw⟩ { tree } pairs = outcome at hcourse
  cases hcourse with
  | finished _ _ => rfl
  | stopped before pair after hsplit _ _ hstops =>
    have hpair : pair ∈ pairs := by
      rw [hsplit]
      simp
    exact absurd hstops (passes_of_namable lang dir _ (hpaths pair hpair) _ _)

/-- A source that is missing, and another one that is written. -/
theorem build_folds_missing :
    let tree : FileTree := ⟨[], [([raw "a"], .file [])]⟩
    let missing : Path × Path := (.ofText (raw "x"), .ofText (raw "y"))
    let found : Path × Path := (.ofText (raw "a"), .ofText (raw "b"))
    Course {} (tree, 0) [missing, found] (build {} tree [missing, found]) ∧
      Turn {} found (tree, 0) (settle {} found (tree, 0)) ∧
      (build {} tree [missing, found]).2 = none := by
  intro tree missing found
  obtain ⟨hcourse, -, hturn, hnone⟩ := build_folds {} tree [missing, found]
  have hpaths : ∀ pair ∈ [missing, found], pair.1.Namable ∧ pair.2.Namable := by decide +kernel
  have hfound := hpaths found (by decide +kernel)
  refine ⟨hcourse, hturn (tree, 0) found ?_, hnone "ar".toList "rtl".toList rfl hpaths⟩
  exact passes_of_namable "ar".toList "rtl".toList tree hfound

/-- No path holds a NUL character, but a source is named by a surrogate, and so is the language of
a document: each time the fault ends the build, the second time behind an empty file. -/
theorem surrogate_ends_build :
    let tree : FileTree := ⟨[], [([raw "a"], .file [])]⟩
    let named : Path × Path := (.ofText [.ofNumber 0xD83D], .ofText (raw "b"))
    let plain : Path × Path := (.ofText (raw "a"), .ofText (raw "b"))
    let spoken : Frame := { lang := [.ofNumber 0xD83D, .ofNumber 0xDE00] }
    (∀ pair ∈ [named, plain], pair.1.NulFree ∧ pair.2.NulFree) ∧
      (build {} tree [named, plain]).2 = some (.unencodable ⟨.ofNumber 0xD83D, 0, 1⟩) ∧
      (build {} tree [named, plain]).1.tree = tree ∧
      (build spoken tree [plain]).2 = some (.unencodable ⟨.ofNumber 0xD83D, 28, 2⟩) ∧
      (build spoken tree [plain]).1.tree.find? [raw "b"] = some (.file []) := by
  decide +kernel

end LivePage
