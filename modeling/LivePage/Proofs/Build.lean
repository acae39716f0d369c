/-
What a build does, pair by pair.

* `Writes` — the source of a pair is read and compiled, and the document is
  written to its destination;
* `PairTurn`, `pairTurn_cases` — all that a build does when it comes to a pair;
* `buildFrom_tree` — what every single write keeps, a build keeps;
* `sameDirectories_build`, `find?_build` — a build makes and removes no
  directory, and changes no file but its destinations;
* `build_fault` — only a path or a document that has no bytes ends a build;
* `Built` — a build comes to a pair and writes it;
* `written_build` — a build counts all pairs exactly if it writes each one at
  its turn.

Design notes: pairs read what earlier pairs wrote, so whether a pair is
written is a question about the files at its turn, which are those that a
build of the pairs before it leaves.
-/
import Mathlib.Data.List.Nodup
import LivePage.Build
import LivePage.Proofs.Files.Tree

namespace LivePage

/-! ### One pair -/

/-- The source is read and compiled, and the document is written to the destination. -/
def Writes (frame : Frame) (tree : FileTree) (pair : Path × Path) : Prop :=
  ∃ source, tree.readText pair.1 = .ok source ∧
    (tree.writeText pair.2 (frame.compile source)).2 = none

/-- In a frame of texts every document has bytes. -/
theorem encodeFault?_compile (lang dir source : Text) :
    encodeFault? (Frame.compile ⟨lang.raw, dir.raw⟩ source) = none := by
  have hraw : ∃ t : Text, Frame.compile ⟨lang.raw, dir.raw⟩ source = t.raw := by
    refine ⟨"<!DOCTYPE html>\n<html lang=\"".toList ++ lang ++ "\" dir=\"".toList ++ dir ++
      documentRest (LivePage.compile source).body (LivePage.compile source).scripts, ?_⟩
    simp only [Frame.compile, Frame.document, raw, Text.raw, List.map_append]
  obtain ⟨t, ht⟩ := hraw
  rw [ht]
  exact surrogatesFrom_raw _ 0 t

/-- No document is empty. -/
theorem encode_compile_ne_nil (frame : Frame) (source : Text) :
    encode (frame.compile source).chars ≠ [] := by
  have hopening : raw "<!DOCTYPE html>\n<html lang=\"" =
      Point.char '<' :: raw "!DOCTYPE html>\n<html lang=\"" := by decide
  simp only [Frame.compile, Frame.document, hopening, List.cons_append, RawText.chars,
    List.filterMap_cons, Point.char?]
  simp [encode, encodeChar]

/-- In a frame of texts only the files decide whether a pair is written. -/
theorem writes_iff {lang dir : Text} {tree : FileTree} {pair : Path × Path} :
    Writes ⟨lang.raw, dir.raw⟩ tree pair ↔
      (∃ source, tree.readText pair.1 = .ok source) ∧
        ∃ place, tree.locate pair.2 = .ok place ∧ tree.find? place ≠ some .directory := by
  simp only [Writes, FileTree.writeText_eq_none_iff, encodeFault?_compile, and_true,
    exists_and_right]

theorem buildPair_of_read {frame : Frame} {tree : FileTree} {pair : Path × Path} {source : Text}
    (h : tree.readText pair.1 = .ok source) :
    (buildPair frame tree pair).2 = tree.writeText pair.2 (frame.compile source) := by
  unfold buildPair
  rw [h]
  rfl

theorem buildPair_eq_none_iff {frame : Frame} {tree : FileTree} {pair : Path × Path} :
    (buildPair frame tree pair).2.2 = none ↔ Writes frame tree pair := by
  cases hread : tree.readText pair.1 with
  | error fault => simp [buildPair, Writes, hread]
  | ok source => simp [buildPair_of_read hread, Writes, hread]

/-- A pair leaves the files as they are, or a text is written to its destination. -/
theorem buildPair_tree (frame : Frame) (tree : FileTree) (pair : Path × Path) :
    (buildPair frame tree pair).2.1 = tree ∨
      ∃ t, (buildPair frame tree pair).2.1 = (tree.writeText pair.2 t).1 := by
  unfold buildPair
  split
  · exact .inl rfl
  · exact .inr ⟨_, rfl⟩

theorem buildPair_ne_nullByte (frame : Frame) (tree : FileTree) {pair : Path × Path}
    (hsource : pair.1.NulFree) (hdestination : pair.2.NulFree) :
    (buildPair frame tree pair).2.2 ≠ some .nullByte := by
  unfold buildPair
  split
  · rename_i hread
    rintro ⟨rfl⟩
    exact tree.readText_ne_nullByte hsource hread
  · exact tree.writeText_ne_nullByte hdestination _

/-! ### One pair after the other -/

/-- The turn of a pair: a build of this pair alone. -/
def pairTurn (frame : Frame) (state : BuildState) (pair : Path × Path) :
    BuildState × Option FileFault :=
  buildFrom frame state [pair]

/-- What the turn of a pair can come to. -/
inductive PairTurn (frame : Frame) (state : BuildState) (pair : Path × Path) :
    BuildState × Option FileFault → Prop
  /-- The pair is written and counted. -/
  | written {next : BuildState} : Writes frame state.tree pair →
      next.tree = (buildPair frame state.tree pair).2.1 → next.written = state.written + 1 →
      PairTurn frame state pair (next, none)
  /-- The pair has a fault, and the build goes on. -/
  | skipped {next : BuildState} : ¬ Writes frame state.tree pair →
      next.tree = (buildPair frame state.tree pair).2.1 → next.written = state.written →
      PairTurn frame state pair (next, none)
  /-- The pair has a fault that ends the build. -/
  | ended {next : BuildState} {fault : FileFault} : ¬ Writes frame state.tree pair →
      (buildPair frame state.tree pair).2.2 = some fault → fault.isSurvived = false →
      next.tree = (buildPair frame state.tree pair).2.1 → next.written = state.written →
      PairTurn frame state pair (next, some fault)

theorem pairTurn_cases (frame : Frame) (state : BuildState) (pair : Path × Path) :
    PairTurn frame state pair (pairTurn frame state pair) := by
  have hwrites := @buildPair_eq_none_iff frame state.tree pair
  unfold pairTurn buildFrom
  cases hbuilt : buildPair frame state.tree pair with
  | mk notices result =>
    obtain ⟨tree, fault?⟩ := result
    rw [hbuilt] at hwrites
    cases fault? with
    | none => exact .written (hwrites.mp rfl) (by rw [hbuilt]) rfl
    | some fault =>
      have hnot : ¬ Writes frame state.tree pair := by
        rw [← hwrites]
        simp
      dsimp only
      split
      · exact .skipped hnot (by rw [hbuilt]) rfl
      · rename_i hended
        exact .ended hnot (by rw [hbuilt]) (by simpa using hended) (by rw [hbuilt]) rfl

theorem buildFrom_cons (frame : Frame) (state : BuildState) (pair : Path × Path)
    (rest : List (Path × Path)) :
    buildFrom frame state (pair :: rest) =
      match pairTurn frame state pair with
      | (next, none) => buildFrom frame next rest
      | (last, some fault) => (last, some fault) := by
  cases hbuilt : buildPair frame state.tree pair with
  | mk notices result =>
    obtain ⟨tree, fault?⟩ := result
    cases fault? with
    | none => simp only [pairTurn, buildFrom, hbuilt]
    | some fault =>
      cases hsurvived : fault.isSurvived <;> simp [pairTurn, buildFrom, hbuilt, hsurvived]

theorem tree_build_singleton (frame : Frame) (tree : FileTree) (pair : Path × Path) :
    (build frame tree [pair]).1.tree = (buildPair frame tree pair).2.1 := by
  have hturn := pairTurn_cases frame { tree } pair
  show (pairTurn frame { tree } pair).1.tree = _
  generalize pairTurn frame { tree } pair = outcome at hturn ⊢
  cases hturn with
  | written _ htree _ => exact htree
  | skipped _ htree _ => exact htree
  | ended _ _ _ htree _ => exact htree

/-! ### What a build keeps -/

/-- What every write to a destination keeps, a build keeps. -/
theorem buildFrom_tree {P : FileTree → Prop} {frame : Frame} {pairs : List (Path × Path)}
    (hwrite : ∀ tree, ∀ pair ∈ pairs, ∀ t, P tree → P (tree.writeText pair.2 t).1)
    {state : BuildState} (h : P state.tree) : P (buildFrom frame state pairs).1.tree := by
  -- `P` is known of the files of whatever state the rest is built from
  induction pairs generalizing state with
  | nil => exact h
  | cons pair rest ih =>
    have hrest := fun tree other hother =>
      hwrite tree other (List.mem_cons_of_mem pair hother)
    have hpair : P (buildPair frame state.tree pair).2.1 := by
      rcases buildPair_tree frame state.tree pair with hsame | ⟨t, hwritten⟩
      · rw [hsame]
        exact h
      · rw [hwritten]
        exact hwrite state.tree pair List.mem_cons_self t h
    have hturn := pairTurn_cases frame state pair
    rw [buildFrom_cons]
    generalize pairTurn frame state pair = outcome at hturn ⊢
    cases hturn with
    | written _ htree _ => exact ih hrest (htree ▸ hpair)
    | skipped _ htree _ => exact ih hrest (htree ▸ hpair)
    | ended _ _ _ htree _ => exact htree ▸ hpair

theorem sameDirectories_build (frame : Frame) (tree : FileTree) (pairs : Pairs) :
    tree.SameDirectories (build frame tree pairs).1.tree :=
  buildFrom_tree (fun next pair _ t h => h.trans (.writeText next pair.2 t)) (.refl tree)

theorem working_build (frame : Frame) (tree : FileTree) (pairs : Pairs) :
    (build frame tree pairs).1.tree.working = tree.working :=
  (sameDirectories_build frame tree pairs).working

/-- A build changes no file but its destinations. -/
theorem find?_build {frame : Frame} {tree : FileTree} {pairs : Pairs} {place : Location}
    (h : ∀ pair ∈ pairs, pair.2.resolve tree.working ≠ place) :
    (build frame tree pairs).1.tree.find? place = tree.find? place := by
  have hkept : (build frame tree pairs).1.tree.working = tree.working ∧
      (build frame tree pairs).1.tree.find? place = tree.find? place := by
    refine buildFrom_tree (P := fun next => next.working = tree.working ∧
      next.find? place = tree.find? place) ?_ ⟨rfl, rfl⟩
    rintro next pair hpair t ⟨hworking, hfind⟩
    refine ⟨(next.working_writeText pair.2 t).trans hworking, ?_⟩
    rw [FileTree.find?_writeText_of_ne (hworking ▸ h pair hpair), hfind]
  exact hkept.2

theorem buildFrom_fault {frame : Frame} {state : BuildState} {pairs : List (Path × Path)}
    {fault : FileFault} (h : (buildFrom frame state pairs).2 = some fault) :
    fault.isSurvived = false ∧
      ∃ tree, ∃ pair ∈ pairs, (buildPair frame tree pair).2.2 = some fault := by
  induction pairs generalizing state with
  | nil => exact absurd h (by simp [buildFrom])
  | cons pair rest ih =>
    have hrest : ∀ {next : BuildState}, (buildFrom frame next rest).2 = some fault →
        fault.isSurvived = false ∧
          ∃ tree, ∃ other ∈ pair :: rest, (buildPair frame tree other).2.2 = some fault := by
      intro next hnext
      obtain ⟨hended, tree, other, hother, hfault⟩ := ih hnext
      exact ⟨hended, tree, other, List.mem_cons_of_mem pair hother, hfault⟩
    have hturn := pairTurn_cases frame state pair
    rw [buildFrom_cons] at h
    generalize pairTurn frame state pair = outcome at hturn h
    cases hturn with
    | written _ _ _ => exact hrest h
    | skipped _ _ _ => exact hrest h
    | ended _ hfault hended _ _ =>
      obtain rfl := Option.some_inj.mp h
      exact ⟨hended, state.tree, pair, List.mem_cons_self, hfault⟩

/-- Only a path or a document that has no bytes ends a build of paths without NUL. -/
theorem build_fault {frame : Frame} {tree : FileTree} {pairs : Pairs} {fault : FileFault}
    (hnul : ∀ pair ∈ pairs, pair.1.NulFree ∧ pair.2.NulFree)
    (h : (build frame tree pairs).2 = some fault) :
    ∃ encodeFault, fault = .unencodable encodeFault := by
  obtain ⟨hended, here, pair, hpair, hfault⟩ := buildFrom_fault h
  obtain ⟨hsource, hdestination⟩ := hnul pair hpair
  cases fault with
  | unencodable encodeFault => exact ⟨encodeFault, rfl⟩
  | nullByte => exact absurd hfault (buildPair_ne_nullByte frame here hsource hdestination)
  | missing | occupied | isDirectory | notDirectory | nameTooLong | undecodable =>
    exact absurd hended (by simp [FileFault.isSurvived])

/-! ### How many pairs are written -/

/-- A build from the files `tree` comes to a pair and writes it. -/
def Built (frame : Frame) (tree : FileTree) (pairs : List (Path × Path)) (pair : Path × Path) :
    Prop :=
  ∃ before after, pairs = before ++ pair :: after ∧
    Writes frame (build frame tree before).1.tree pair

theorem Built.mem {frame : Frame} {tree : FileTree} {pairs : List (Path × Path)}
    {pair : Path × Path} (h : Built frame tree pairs pair) : pair ∈ pairs := by
  obtain ⟨before, after, hsplit, -⟩ := h
  rw [hsplit]
  simp

/-- A single pair is built if it is written from the files as they are. -/
theorem built_singleton {frame : Frame} {tree : FileTree} {pair : Path × Path}
    (h : Writes frame tree pair) : ∀ other ∈ [pair], Built frame tree [pair] other := by
  intro other hother
  rw [List.mem_singleton.mp hother]
  exact ⟨[], [], rfl, h⟩

/-- No build counts more than its pairs, and one that is ended counts fewer. -/
theorem written_buildFrom_le (frame : Frame) (state : BuildState) (pairs : List (Path × Path)) :
    (buildFrom frame state pairs).1.written ≤ state.written + pairs.length ∧
      ((buildFrom frame state pairs).1.written = state.written + pairs.length →
        (buildFrom frame state pairs).2 = none) := by
  induction pairs generalizing state with
  | nil => simp [buildFrom]
  | cons pair rest ih =>
    have hturn := pairTurn_cases frame state pair
    rw [List.length_cons, buildFrom_cons]
    generalize pairTurn frame state pair = outcome at hturn ⊢
    cases hturn with
    | @written next _ _ hcount =>
      obtain ⟨hle, hall⟩ := ih next
      exact ⟨by dsimp only; omega, fun h => hall (by dsimp only at h; omega)⟩
    | @skipped next _ _ hcount =>
      obtain ⟨hle, -⟩ := ih next
      exact ⟨by dsimp only; omega, fun h => by dsimp only at h; omega⟩
    | ended _ _ _ _ hcount => exact ⟨by dsimp only; omega, fun h => by dsimp only at h; omega⟩

/-- The count grows by one for each pair that is written at its turn. -/
theorem written_buildFrom (frame : Frame) (state : BuildState) (pairs : List (Path × Path)) :
    (buildFrom frame state pairs).1.written = state.written + pairs.length ↔
      ∀ before pair after, pairs = before ++ pair :: after →
        Writes frame (buildFrom frame state before).1.tree pair := by
  induction pairs generalizing state with
  | nil => simp [buildFrom]
  | cons pair rest ih =>
    -- what comes after the first pair is a build from the state that it leaves
    have hsplit : (∀ before other after, pair :: rest = before ++ other :: after →
        Writes frame (buildFrom frame state before).1.tree other) ↔
        Writes frame state.tree pair ∧ ∀ before other after, rest = before ++ other :: after →
          Writes frame (buildFrom frame state (pair :: before)).1.tree other := by
      constructor
      · intro hall
        refine ⟨hall [] pair rest rfl, fun before other after hrest => ?_⟩
        exact hall (pair :: before) other after (by rw [hrest, List.cons_append])
      · rintro ⟨hpair, hrest⟩ before other after hcons
        cases before with
        | nil =>
          obtain ⟨rfl, -⟩ := List.cons.inj hcons
          exact hpair
        | cons first before =>
          obtain ⟨rfl, htail⟩ := List.cons.inj hcons
          exact hrest before other after htail
    have hturn := pairTurn_cases frame state pair
    simp only [hsplit, List.length_cons, buildFrom_cons frame state pair]
    generalize pairTurn frame state pair = outcome at hturn ⊢
    cases hturn with
    | @written next hwrites _ hcount =>
      rw [and_iff_right hwrites, ← ih next]
      dsimp only
      omega
    | @skipped next hnot _ hcount =>
      have hle := (written_buildFrom_le frame next rest).1
      exact iff_of_false (by dsimp only; omega) fun hall => hnot hall.1
    | ended hnot _ _ _ hcount =>
      exact iff_of_false (by dsimp only; omega) fun hall => hnot hall.1

theorem built_iff {frame : Frame} {tree : FileTree} {before after : List (Path × Path)}
    {pair : Path × Path} (h : (before ++ pair :: after).Nodup) :
    Built frame tree (before ++ pair :: after) pair ↔
      Writes frame (build frame tree before).1.tree pair := by
  obtain ⟨-, hafter, hbefore⟩ := List.nodup_append.mp h
  constructor
  · rintro ⟨front, back, hsplit, hwrites⟩
    have hfront : pair ∉ before := fun hmem => hbefore pair hmem pair List.mem_cons_self rfl
    obtain ⟨rfl, -, -⟩ := (List.append_cons_inj_of_notMem hfront
      (List.nodup_cons.mp hafter).1).mp hsplit
    exact hwrites
  · intro hwrites
    exact ⟨before, after, rfl, hwrites⟩

/-- A build counts all pairs exactly if it writes each of them. -/
theorem written_build {frame : Frame} {tree : FileTree} {pairs : Pairs}
    (hnodup : (pairs.map Prod.fst).Nodup) :
    (build frame tree pairs).1.written = pairs.length ↔
      ∀ pair ∈ pairs, Built frame tree pairs pair := by
  have hcount := written_buildFrom frame { tree } pairs
  rw [Nat.zero_add] at hcount
  refine hcount.trans ⟨fun hall pair hpair => ?_, fun hall before pair after hsplit => ?_⟩
  · obtain ⟨before, after, hsplit⟩ := List.append_of_mem hpair
    exact ⟨before, after, hsplit, hall before pair after hsplit⟩
  · -- a pair stands in the table once, so this turn is the one at which it was written
    have hpair := hall pair (by rw [hsplit]; simp)
    rw [hsplit] at hpair
    exact (built_iff (hsplit ▸ List.Nodup.of_map _ hnodup)).mp hpair

/-- Nothing ends a build that counts all pairs. -/
theorem build_eq_none_of_written {frame : Frame} {tree : FileTree} {pairs : Pairs}
    (h : (build frame tree pairs).1.written = pairs.length) : (build frame tree pairs).2 = none :=
  (written_buildFrom_le frame { tree } pairs).2 (by rw [Nat.zero_add]; exact h)

end LivePage
