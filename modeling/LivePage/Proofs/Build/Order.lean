/-
Builds of independent pairs do not depend on their order.

If no destination is the file of another pair's source or destination, then no
pair notices what the others write: it finds its own files, and all directories,
as they were before the build.

* `Independent` — no destination is a file of another pair;
* `Unaffected` — of two trees a pair sees the same;
* `Unaffected.settle`, `clear_iff_of_unaffected`, `settleAll_of_unaffected` — one
  pair keeps this for the others, and so do all along the fold;
* `build_eq_none_iff` — a build runs to its end exactly if no pair stops it at
  its turn;
* `build_order` — independent pairs are built as if each stood alone, in every
  order;
* `order_decides_build` — a pair that stops a build keeps those behind it from
  being built, so then the order matters.

Design notes: trees are compared place by place. A tree lists its entries in
the order in which they were made, which does depend on the order of the pairs
and says nothing about files.
-/
import Mathlib.Algebra.Ring.Nat
import LivePage.Proofs.Build.Fold

namespace LivePage

/-! ### Files of two trees -/

namespace FileTree

/-- Relative paths start from the same directory, and the same is found at every place. -/
structure SameFiles (tree other : FileTree) : Prop where
  working : other.working = tree.working
  find? : ∀ place, other.find? place = tree.find? place

variable {tree other next : FileTree} {path : Path}

theorem Replaced.sameDirectories {place : Location} {content : Bytes}
    (h : tree.Replaced place content next) (hdirectory : tree.find? place ≠ some .directory) :
    tree.SameDirectories next := by
  refine ⟨h.working, fun here => ?_⟩
  by_cases hhere : here = place
  · rw [hhere, h.content]
    exact iff_of_false (by simp) hdirectory
  · rw [h.others here hhere]

theorem read_eq_ok_iff {content : Bytes} :
    tree.read path = .ok content ↔
      ∃ place, tree.locate path = .ok place ∧ tree.find? place = some (.file content) := by
  rw [read, bind_eq_ok_iff]
  refine exists_congr fun place => and_congr_right fun _ => ?_
  split
  · rename_i hnone
    simp [hnone]
  · rename_i hdirectory
    simp [hdirectory]
  · rename_i hfile
    simp [hfile]

/-- A file that is not changed is read as before, if all directories are where they were. -/
theorem SameDirectories.readText_eq_ok_iff (h : tree.SameDirectories other)
    (hfile : other.find? (path.resolve tree.working) = tree.find? (path.resolve tree.working))
    (source : Text) : other.readText path = .ok source ↔ tree.readText path = .ok source := by
  rw [readText, readText, bind_eq_ok_iff, bind_eq_ok_iff]
  refine exists_congr fun content => and_congr_left fun _ => ?_
  rw [read_eq_ok_iff, read_eq_ok_iff]
  refine exists_congr fun place => ?_
  rw [h.locate_eq_ok_iff]
  refine and_congr_right fun hplace => ?_
  rw [← resolve_of_locate hplace, hfile]

end FileTree

/-! ### Pairs that do not meet -/

/-- The destination of a pair is neither the source nor the destination of another one. -/
def Spares (working : Location) (pair other : Path × Path) : Prop :=
  pair.2.resolve working ≠ other.1.resolve working ∧
    pair.2.resolve working ≠ other.2.resolve working

instance (working : Location) (pair other : Path × Path) :
    Decidable (Spares working pair other) :=
  inferInstanceAs (Decidable (_ ∧ _))

/-- No destination is the source or the destination of another pair. -/
def Independent (working : Location) (pairs : List (Path × Path)) : Prop :=
  pairs.Pairwise fun pair other => Spares working pair other ∧ Spares working other pair

instance (working : Location) (pairs : List (Path × Path)) :
    Decidable (Independent working pairs) :=
  inferInstanceAs (Decidable (List.Pairwise _ _))

theorem Independent.perm {working : Location} {pairs order : List (Path × Path)}
    (h : Independent working pairs) (hperm : order.Perm pairs) : Independent working order :=
  (hperm.pairwise_iff fun hboth => hboth.symm).mpr h

/-- A pair sees the same in another tree: the directories and its own two files. -/
structure Unaffected (tree : FileTree) (pair : Path × Path) (other : FileTree) : Prop where
  directories : tree.SameDirectories other
  source : other.find? (pair.1.resolve tree.working) = tree.find? (pair.1.resolve tree.working)
  destination :
    other.find? (pair.2.resolve tree.working) = tree.find? (pair.2.resolve tree.working)

theorem Unaffected.refl (tree : FileTree) (pair : Path × Path) : Unaffected tree pair tree :=
  ⟨.refl tree, rfl, rfl⟩

/-! ### One pair -/

section Pair

variable {frame : Frame} {tree other : FileTree} {pair : Path × Path}

/-- The document of a pair can be written at a place. -/
def Opens (frame : Frame) (tree : FileTree) (pair : Path × Path) (place : Location)
    (document : RawText) : Prop :=
  ∃ source, tree.readText pair.1 = .ok source ∧ tree.locate pair.2 = .ok place ∧
    tree.find? place ≠ some .directory ∧ document = frame.compile source

theorem rewritten_eq_ok_iff {next : FileTree} :
    rewritten frame tree pair = .ok next ↔ ∃ place document, Opens frame tree pair place document ∧
      next = tree.set place (.file (encode document.chars)) := by
  rw [rewritten, bind_eq_ok_iff]
  constructor
  · rintro ⟨source, hread, hwrite⟩
    obtain ⟨place, hplace, hdirectory, hnext⟩ := FileTree.write_eq_ok_iff.mp hwrite
    exact ⟨place, _, ⟨source, hread, hplace, hdirectory, rfl⟩, hnext⟩
  · rintro ⟨place, document, ⟨source, hread, hplace, hdirectory, rfl⟩, hnext⟩
    exact ⟨source, hread, FileTree.write_eq_ok_iff.mpr ⟨place, hplace, hdirectory, hnext⟩⟩

theorem Opens.settle (state : FileTree × Nat) {place : Location} {document : RawText}
    (h : Opens frame state.1 pair place document) :
    settle frame pair state =
      (state.1.set place (.file (encode document.chars)), state.2 + 1) := by
  rw [LivePage.settle, rewritten_eq_ok_iff.mpr ⟨place, document, h, rfl⟩]

theorem settle_of_not_opens (state : FileTree × Nat)
    (h : ∀ place document, ¬ Opens frame state.1 pair place document) :
    settle frame pair state = state := by
  rw [settle]
  cases hrewritten : rewritten frame state.1 pair with
  | error fault => rfl
  | ok next =>
    obtain ⟨place, document, hopens, -⟩ := rewritten_eq_ok_iff.mp hrewritten
    exact absurd hopens (h place document)

/-- A pair leaves the files as they are, or a file takes the place of its destination. -/
theorem settle_tree (frame : Frame) (pair : Path × Path) (state : FileTree × Nat) :
    (settle frame pair state).1 = state.1 ∨
      state.1.find? (pair.2.resolve state.1.working) ≠ some .directory ∧
        ∃ content, state.1.Replaced (pair.2.resolve state.1.working) content
          (settle frame pair state).1 := by
  by_cases hopens : ∃ place document, Opens frame state.1 pair place document
  · obtain ⟨place, document, hopens⟩ := hopens
    rw [hopens.settle state]
    obtain ⟨source, -, hplace, hdirectory, -⟩ := hopens
    rw [FileTree.resolve_of_locate hplace]
    exact .inr ⟨hdirectory, _, FileTree.replaced_set hdirectory _⟩
  · left
    rw [settle_of_not_opens state fun place document h => hopens ⟨place, document, h⟩]

theorem sameDirectories_settle (frame : Frame) (pair : Path × Path) (state : FileTree × Nat) :
    state.1.SameDirectories (settle frame pair state).1 := by
  rcases settle_tree frame pair state with hsame | ⟨hdirectory, content, hreplaced⟩
  · rw [hsame]
    exact .refl _
  · exact hreplaced.sameDirectories hdirectory

theorem find?_settle_of_ne {state : FileTree × Nat} {place : Location}
    (h : pair.2.resolve state.1.working ≠ place) :
    (settle frame pair state).1.find? place = state.1.find? place := by
  rcases settle_tree frame pair state with hsame | ⟨-, content, hreplaced⟩
  · rw [hsame]
  · exact hreplaced.others place h.symm

namespace Unaffected

theorem opens_iff (h : Unaffected tree pair other) {place : Location} {document : RawText} :
    Opens frame other pair place document ↔ Opens frame tree pair place document := by
  refine exists_congr fun source => ?_
  rw [h.directories.readText_eq_ok_iff h.source, h.directories.locate_eq_ok_iff, Ne,
    h.directories.find?_iff place]

/-- What stops a build does so wherever it is met. -/
theorem passes_iff (h : Unaffected tree pair other) :
    Passes frame other pair ↔ Passes frame tree pair := by
  have hstops : ∀ {first second : FileTree},
      (∀ source, second.readText pair.1 = .ok source → first.readText pair.1 = .ok source) →
      (∀ place document, Opens frame second pair place document →
        Opens frame first pair place document) →
      Passes frame first pair → Passes frame second pair := by
    intro first second hread hopens hpasses fault next hstops
    cases hstops with
    | source hfault => exact hpasses _ _ (.source hfault)
    | destination hsource hfault => exact hpasses _ _ (.destination (hread _ hsource) hfault)
    | document hsource hplace hdirectory hbytes _ =>
      obtain ⟨source, hsource', hplace', hdirectory', hdocument⟩ :=
        hopens _ _ ⟨_, hsource, hplace, hdirectory, rfl⟩
      rw [hdocument] at hbytes
      exact hpasses _ _ (.document hsource' hplace' hdirectory' hbytes
        (FileTree.replaced_set hdirectory' []))
  have hread := h.directories.readText_eq_ok_iff h.source
  exact ⟨hstops (fun source => (hread source).mpr) fun _ _ => h.opens_iff.mpr,
    hstops (fun source => (hread source).mp) fun _ _ => h.opens_iff.mp⟩

/-- A pair that spares another one leaves it unaffected. -/
theorem settle {state : FileTree × Nat} {neighbour : Path × Path}
    (h : Unaffected tree pair state.1) (hspares : Spares tree.working neighbour pair) :
    Unaffected tree pair (LivePage.settle frame neighbour state).1 := by
  have hne : ∀ {place : Location}, neighbour.2.resolve tree.working ≠ place →
      (LivePage.settle frame neighbour state).1.find? place = state.1.find? place := by
    intro place hplace
    exact find?_settle_of_ne (h.directories.working ▸ hplace)
  exact ⟨h.directories.trans (sameDirectories_settle frame neighbour state),
    (hne hspares.1).trans h.source, (hne hspares.2).trans h.destination⟩

/-- An unaffected pair leaves at its destination, and adds to the count, what it does alone. -/
theorem settle_self {state : FileTree × Nat} (h : Unaffected tree pair state.1) (frame : Frame) :
    (LivePage.settle frame pair state).1.find? (pair.2.resolve tree.working) =
        (LivePage.settle frame pair (tree, 0)).1.find? (pair.2.resolve tree.working) ∧
      (LivePage.settle frame pair state).2 =
        state.2 + (LivePage.settle frame pair (tree, 0)).2 := by
  by_cases hopens : ∃ place document, Opens frame tree pair place document
  · obtain ⟨place, document, hopens⟩ := hopens
    have hstate : Opens frame state.1 pair place document := h.opens_iff.mpr hopens
    rw [hstate.settle state, hopens.settle (tree, 0)]
    obtain ⟨-, -, hplace, hdirectory, -⟩ := hopens
    obtain ⟨-, -, -, hdirectory', -⟩ := hstate
    rw [FileTree.resolve_of_locate hplace]
    refine ⟨?_, rfl⟩
    exact (FileTree.replaced_set hdirectory' _).content.trans
      (FileTree.replaced_set hdirectory _).content.symm
  · have halone : ∀ place document, ¬ Opens frame tree pair place document :=
      fun place document hplace => hopens ⟨place, document, hplace⟩
    rw [settle_of_not_opens state fun place document hplace => halone _ _ (h.opens_iff.mp hplace),
      settle_of_not_opens (tree, 0) halone]
    exact ⟨h.destination, rfl⟩

end Unaffected

end Pair

/-! ### One pair after the other -/

section Fold

variable {frame : Frame} {tree : FileTree} {pairs order : List (Path × Path)}

theorem clear_append_iff {state : FileTree × Nat} {before after : List (Path × Path)} :
    Clear frame state (before ++ after) ↔
      Clear frame state before ∧ Clear frame (settleAll frame state before) after := by
  induction before generalizing state with
  | nil => exact (and_iff_right trivial).symm
  | cons pair before ih =>
    rw [List.cons_append, Clear, Clear, ih, and_assoc]
    rfl

theorem find?_settleAll_of_ne {state : FileTree × Nat} {place : Location}
    (h : ∀ pair ∈ pairs, pair.2.resolve state.1.working ≠ place) :
    (settleAll frame state pairs).1.find? place = state.1.find? place := by
  induction pairs generalizing state with
  | nil => rfl
  | cons pair rest ih =>
    have hworking := (sameDirectories_settle frame pair state).working
    have hrest : ∀ other ∈ rest,
        other.2.resolve (settle frame pair state).1.working ≠ place := by
      intro other hother
      rw [hworking]
      exact h other (List.mem_cons_of_mem pair hother)
    exact (ih hrest).trans (find?_settle_of_ne (h pair List.mem_cons_self))

theorem unaffected_of_cons (frame : Frame) {state : FileTree × Nat} {pair : Path × Path}
    (hindependent : Independent tree.working (pair :: order))
    (h : ∀ other ∈ pair :: order, Unaffected tree other state.1) :
    ∀ other ∈ order, Unaffected tree other (settle frame pair state).1 := by
  intro other hother
  have hspares := (List.pairwise_cons.mp hindependent).1 other hother
  exact (h other (List.mem_cons_of_mem pair hother)).settle hspares.1

/-- Whether independent pairs stop a build is decided for each from the files before the build. -/
theorem clear_iff_of_unaffected {state : FileTree × Nat}
    (hindependent : Independent tree.working order)
    (h : ∀ pair ∈ order, Unaffected tree pair state.1) :
    Clear frame state order ↔ ∀ pair ∈ order, Passes frame tree pair := by
  induction order generalizing state with
  | nil => simp [Clear]
  | cons pair rest ih =>
    rw [Clear, (h pair List.mem_cons_self).passes_iff,
      ih hindependent.of_cons (unaffected_of_cons frame hindependent h), List.forall_mem_cons]

/-- Independent pairs leave at their destinations, and add to the count, what each does alone. -/
theorem settleAll_of_unaffected (frame : Frame) (state : FileTree × Nat)
    (hindependent : Independent tree.working order)
    (h : ∀ pair ∈ order, Unaffected tree pair state.1) :
    (∀ pair ∈ order, (settleAll frame state order).1.find? (pair.2.resolve tree.working) =
        (settle frame pair (tree, 0)).1.find? (pair.2.resolve tree.working)) ∧
      (settleAll frame state order).2 =
        state.2 + (order.map fun pair => (settle frame pair (tree, 0)).2).sum := by
  induction order generalizing state with
  | nil => simp [settleAll]
  | cons pair rest ih =>
    obtain ⟨hfiles, hcount⟩ :=
      ih _ hindependent.of_cons (unaffected_of_cons frame hindependent h)
    obtain ⟨hfile, hwritten⟩ := (h pair List.mem_cons_self).settle_self frame
    have hunfold : settleAll frame state (pair :: rest) =
        settleAll frame (settle frame pair state) rest := rfl
    rw [hunfold]
    refine ⟨List.forall_mem_cons.mpr ⟨?_, hfiles⟩, ?_⟩
    · -- the pairs behind it do not touch its destination
      rw [find?_settleAll_of_ne, hfile]
      intro other hother
      have hworking : (settle frame pair state).1.working = tree.working :=
        ((h pair List.mem_cons_self).directories.trans (sameDirectories_settle _ _ _)).working
      rw [hworking]
      exact ((List.pairwise_cons.mp hindependent).1 other hother).2.2
    · rw [hcount, hwritten, List.map_cons, List.sum_cons, Nat.add_assoc]

/-- A build runs to its end exactly if no pair stops it at its turn. -/
theorem build_eq_none_iff : (build frame tree pairs).2 = none ↔ Clear frame (tree, 0) pairs := by
  have hcourse := course_buildFrom frame { tree } pairs
  rw [build]
  generalize buildFrom frame { tree } pairs = outcome at hcourse ⊢
  cases hcourse with
  | finished hclear _ => exact iff_of_true rfl hclear
  | stopped before pair after hsplit _ _ hstops =>
    refine iff_of_false (by simp) ?_
    rw [hsplit, clear_append_iff]
    rintro ⟨-, hpasses, -⟩
    exact hpasses _ _ hstops

theorem build_of_clear (h : Clear frame (tree, 0) pairs) :
    (build frame tree pairs).1.tree = (settleAll frame (tree, 0) pairs).1 ∧
      (build frame tree pairs).1.written = (settleAll frame (tree, 0) pairs).2 := by
  have hnone := build_eq_none_iff.mpr h
  have hcourse := course_buildFrom frame { tree } pairs
  rw [build] at hnone ⊢
  generalize buildFrom frame { tree } pairs = outcome at hcourse hnone ⊢
  cases hcourse with
  | finished _ hlast => exact Prod.mk.inj hlast
  | stopped => exact absurd hnone (by simp)

theorem build_singleton_eq_none_iff {pair : Path × Path} :
    (build frame tree [pair]).2 = none ↔ Passes frame tree pair := by
  rw [build_eq_none_iff, Clear, Clear, and_true]

end Fold

/-! ### Every order -/

/-- A build of each pair alone runs to its end. -/
def EachFinishes (frame : Frame) (tree : FileTree) (pairs : List (Path × Path)) : Prop :=
  ∀ pair ∈ pairs, (build frame tree [pair]).2 = none

theorem build_eq_none_iff_eachFinishes {frame : Frame} {tree : FileTree}
    {pairs : List (Path × Path)} (h : Independent tree.working pairs) :
    (build frame tree pairs).2 = none ↔ EachFinishes frame tree pairs := by
  rw [build_eq_none_iff, clear_iff_of_unaffected h fun pair _ => .refl tree pair]
  exact forall₂_congr fun pair _ => build_singleton_eq_none_iff.symm

/-- Independent pairs are built as if each stood alone. -/
theorem build_of_independent {frame : Frame} {tree : FileTree} {pairs : List (Path × Path)}
    (h : Independent tree.working pairs) (hfinishes : EachFinishes frame tree pairs) :
    (∀ pair ∈ pairs, (build frame tree pairs).1.tree.find? (pair.2.resolve tree.working) =
        (build frame tree [pair]).1.tree.find? (pair.2.resolve tree.working)) ∧
      (build frame tree pairs).1.written =
        (pairs.map fun pair => (build frame tree [pair]).1.written).sum := by
  have halone : ∀ pair ∈ pairs,
      (build frame tree [pair]).1.tree = (settle frame pair (tree, 0)).1 ∧
        (build frame tree [pair]).1.written = (settle frame pair (tree, 0)).2 := by
    intro pair hpair
    exact build_of_clear (build_eq_none_iff.mp (hfinishes pair hpair))
  obtain ⟨htree, hwritten⟩ :=
    build_of_clear (build_eq_none_iff.mp ((build_eq_none_iff_eachFinishes h).mpr hfinishes))
  obtain ⟨hfiles, hcount⟩ := settleAll_of_unaffected frame (tree, 0) h
    fun pair _ => .refl tree pair
  refine ⟨fun pair hpair => ?_, ?_⟩
  · rw [htree, (halone pair hpair).1, hfiles pair hpair]
  · rw [hwritten, hcount, Nat.zero_add]
    exact congrArg List.sum (List.map_congr_left fun pair hpair => (halone pair hpair).2.symm)

/-- **The order of independent pairs does not matter.** If no destination is the source or the
destination of another pair, then in every order a build runs to its end exactly if each pair does
when it is built alone. If so, every order leaves the same files and counts the same number of
pairs, each destination is left as its pair alone leaves it, and the count is that of the pairs that
are written alone. Only what has no bytes keeps a pair without NUL from this: one whose paths files
can have runs to its end in a frame of texts. -/
theorem build_order {tree : FileTree} {pairs order : Pairs} (h : Independent tree.working pairs)
    (hperm : order.Perm pairs) (frame : Frame) :
    ((build frame tree order).2 = none ↔ EachFinishes frame tree pairs) ∧
      (EachFinishes frame tree pairs →
        (build frame tree pairs).1.tree.SameFiles (build frame tree order).1.tree ∧
        (build frame tree order).1.written = (build frame tree pairs).1.written ∧
        (∀ pair ∈ pairs, (build frame tree order).1.tree.find? (pair.2.resolve tree.working) =
          (build frame tree [pair]).1.tree.find? (pair.2.resolve tree.working)) ∧
        (build frame tree order).1.written =
          (pairs.map fun pair => (build frame tree [pair]).1.written).sum) ∧
      (∀ pair, pair.1.NulFree → pair.2.NulFree → ∀ fault,
        (build frame tree [pair]).2 = some fault → ∃ cause, fault = .unencodable cause) ∧
      (∀ lang dir : Text, frame = ⟨lang.raw, dir.raw⟩ →
        (∀ pair ∈ pairs, pair.1.Namable ∧ pair.2.Namable) → EachFinishes frame tree pairs) := by
  have horder := h.perm hperm
  have hsame : EachFinishes frame tree order ↔ EachFinishes frame tree pairs :=
    forall_congr' fun pair => imp_congr_left hperm.mem_iff
  refine ⟨(build_eq_none_iff_eachFinishes horder).trans hsame, fun hfinishes => ?_, ?_, ?_⟩
  · obtain ⟨hfiles, hcount⟩ := build_of_independent h hfinishes
    obtain ⟨hfiles', hcount'⟩ := build_of_independent horder (hsame.mpr hfinishes)
    have hsum : (order.map fun pair => (build frame tree [pair]).1.written).sum =
        (pairs.map fun pair => (build frame tree [pair]).1.written).sum :=
      (hperm.map _).sum_nat
    refine ⟨⟨?_, fun place => ?_⟩, ?_, ?_, hcount'.trans hsum⟩
    · rw [working_build, working_build]
    · -- a place is the destination of a pair, or no order touches it
      by_cases hplace : ∃ pair ∈ pairs, pair.2.resolve tree.working = place
      · obtain ⟨pair, hpair, rfl⟩ := hplace
        rw [hfiles pair hpair, hfiles' pair (hperm.mem_iff.mpr hpair)]
      · have hother : ∀ pair ∈ pairs, pair.2.resolve tree.working ≠ place :=
          fun pair hpair hsame => hplace ⟨pair, hpair, hsame⟩
        rw [find?_build hother, find?_build fun pair hpair => hother pair (hperm.mem_iff.mp hpair)]
    · rw [hcount', hcount, hsum]
    · exact fun pair hpair => hfiles' pair (hperm.mem_iff.mpr hpair)
  · intro pair hsource hdestination fault hfault
    refine build_fault (fun other hother => ?_) hfault
    rw [List.mem_singleton.mp hother]
    exact ⟨hsource, hdestination⟩
  · rintro lang dir rfl hpaths pair hpair
    exact build_singleton_eq_none_iff.mpr (passes_of_namable lang dir tree (hpaths pair hpair))

/-- A source that is missing behind a file that is made, one that its own document takes the place
of, and one with a destination of its own. -/
theorem build_order_three :
    let tree : FileTree := ⟨[], [([raw "a"], .file []), ([raw "b"], .file [])]⟩
    let missing : Path × Path := (.ofText (raw "c/../b"), .ofText (raw "x"))
    let same : Path × Path := (.ofText (raw "a"), .ofText (raw "./a"))
    let apart : Path × Path := (.ofText (raw "b"), .ofText (raw "c"))
    let pairs : Pairs := [missing, same, apart]
    Independent tree.working pairs ∧
      (build {} tree pairs).1.tree.SameFiles (build {} tree pairs.reverse).1.tree ∧
      (build {} tree pairs.reverse).1.written = (build {} tree pairs).1.written := by
  intro tree missing same apart pairs
  have hindependent : Independent tree.working pairs := by decide +kernel
  have hpaths : ∀ pair ∈ pairs, pair.1.Namable ∧ pair.2.Namable := by decide +kernel
  obtain ⟨-, hboth, -, hfinishes⟩ := build_order hindependent pairs.reverse_perm {}
  obtain ⟨hfiles, hcount, -⟩ := hboth (hfinishes "ar".toList "rtl".toList rfl hpaths)
  exact ⟨hindependent, hfiles, hcount⟩

/-- Two pairs without NUL are independent, but no file can have the path of one of the sources. In
one order the other pair is built as it is alone, and in the other order it is not built. -/
theorem order_decides_build :
    let tree : FileTree := ⟨[], [([raw "a"], .file [])]⟩
    let named : Path × Path := (.ofText [.ofNumber 0xD83D], .ofText (raw "c"))
    let plain : Path × Path := (.ofText (raw "a"), .ofText (raw "b"))
    (∀ pair ∈ [named, plain], pair.1.NulFree ∧ pair.2.NulFree) ∧
      Independent tree.working [named, plain] ∧
      (build {} tree [plain, named]).1.written = 1 ∧
      (build {} tree [named, plain]).1.written = 0 ∧
      (build {} tree [plain]).1.tree.find? [raw "b"] ≠ none ∧
      (build {} tree [named, plain]).1.tree.find? [raw "b"] = none := by
  intro tree named plain
  have hopens : Opens {} tree plain [raw "b"] (Frame.compile {} []) :=
    ⟨[], by decide +kernel, by decide +kernel, by decide +kernel, rfl⟩
  have hpasses : Passes {} tree plain :=
    passes_of_namable "ar".toList "rtl".toList tree (by decide +kernel)
  have hstops : ∀ next, Stops {} next named (.unencodable ⟨.ofNumber 0xD83D, 0, 1⟩) next :=
    fun next => .source (.surrogate (by decide +kernel))
  have hsettle := hopens.settle (tree, 0)
  refine ⟨by decide +kernel, by decide +kernel, ?_, by decide +kernel, ?_, by decide +kernel⟩
  · obtain ⟨next, hnext, hbuild⟩ := @buildFrom_of_passes {} { tree } plain hpasses [named]
    obtain ⟨last, hlast, hwritten, -⟩ := buildFrom_of_stops (hstops next.tree) []
    rw [hsettle] at hnext
    rw [build, hbuild, hlast, hwritten]
    exact (Prod.mk.inj hnext).2
  · have hclear : Clear {} (tree, 0) [plain] := ⟨hpasses, trivial⟩
    obtain ⟨-, -, -, hdirectory, -⟩ := hopens
    rw [(build_of_clear hclear).1]
    show (settle {} plain (tree, 0)).1.find? [raw "b"] ≠ none
    rw [hsettle, (FileTree.replaced_set hdirectory _).content]
    simp

end LivePage
