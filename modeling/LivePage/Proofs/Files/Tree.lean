/-
What opening a path leads to, and what writing a file changes.

A build writes files and nothing else. So a path goes on to name the same
place, directories stay what they are, and a file changes only if it is the
one that was written:

* `FileTree.resolve_of_locate` — a path that can be opened leads to the place
  that it names;
* `FileTree.writeText_cases` — a text is written at one place or nowhere;
* `FileTree.find?_writeText_of_ne` — no other place changes;
* `FileTree.SameDirectories` — what writing files keeps: directories are found
  where they were found before;
* `FileTree.working_apply` — no change from outside moves the working
  directory.

Design notes: opening walks through directories and resolving folds names, so
the two agree only where the walk succeeds. Frame lemmas are stated with the
place that a path names, which needs no tree to be computed.
-/
import Mathlib.Data.List.Basic
import LivePage.Files.Change
import LivePage.Proofs.Table

namespace LivePage

/-! ### Results that may be faults -/

theorem bind_eq_ok_iff {ε α β : Type} {x : Except ε α} {f : α → Except ε β} {b : β} :
    x >>= f = .ok b ↔ ∃ a, x = .ok a ∧ f a = .ok b := by
  cases x with
  | error e => simp [bind, Except.bind]
  | ok a => simp [bind, Except.bind]

theorem bind_eq_error_iff {ε α β : Type} {x : Except ε α} {f : α → Except ε β} {e : ε} :
    x >>= f = .error e ↔ x = .error e ∨ ∃ a, x = .ok a ∧ f a = .error e := by
  cases x with
  | error e => simp [bind, Except.bind]
  | ok a => simp [bind, Except.bind]

theorem toOption_eq_some_iff {ε α : Type} {x : Except ε α} {a : α} :
    x.toOption = some a ↔ x = .ok a := by
  cases x with
  | error e => simp [Except.toOption]
  | ok a => simp [Except.toOption]

theorem forall₂_of_mapM {ε α β : Type} {f : α → Except ε β} {xs : List α} {ys : List β}
    (h : xs.mapM f = .ok ys) : List.Forall₂ (fun x y => f x = .ok y) xs ys := by
  induction xs generalizing ys with
  | nil =>
    rw [List.mapM_nil] at h
    rw [← Except.ok.inj h]
    exact .nil
  | cons x xs ih =>
    rw [List.mapM_cons, bind_eq_ok_iff] at h
    obtain ⟨y, hy, h⟩ := h
    obtain ⟨ys', hys, h⟩ := bind_eq_ok_iff.mp h
    rw [← Except.ok.inj h]
    exact .cons hy (ih hys)

theorem exists_of_mapM_eq_error {ε α β : Type} {f : α → Except ε β} {xs : List α} {e : ε}
    (h : xs.mapM f = .error e) : ∃ x ∈ xs, f x = .error e := by
  induction xs with
  | nil =>
    rw [List.mapM_nil] at h
    exact absurd h (by simp [pure, Except.pure])
  | cons x xs ih =>
    rw [List.mapM_cons, bind_eq_error_iff] at h
    rcases h with hx | ⟨y, -, h⟩
    · exact ⟨x, List.mem_cons_self, hx⟩
    · rcases bind_eq_error_iff.mp h with hxs | ⟨ys, -, h⟩
      · obtain ⟨other, hother, he⟩ := ih hxs
        exact ⟨other, List.mem_cons_of_mem x hother, he⟩
      · exact absurd h (by simp [pure, Except.pure])

theorem filterAuxM_eq_ok {ε α : Type} {f : α → Except ε Bool} {xs acc ys : List α}
    (h : xs.filterAuxM f acc = .ok ys) :
    ∃ kept : List α, ys = kept.reverse ++ acc ∧ kept.Sublist xs ∧
      ∀ x, x ∈ kept ↔ x ∈ xs ∧ f x = .ok true := by
  -- what was kept so far stands in `acc`, the last one first
  induction xs generalizing acc with
  | nil =>
    rw [List.filterAuxM] at h
    exact ⟨[], (Except.ok.inj h).symm, .slnil, by simp⟩
  | cons x xs ih =>
    rw [List.filterAuxM] at h
    obtain ⟨b, hx, h⟩ := bind_eq_ok_iff.mp h
    obtain ⟨kept, rfl, hsublist, hmem⟩ := ih h
    cases b with
    | false =>
      refine ⟨kept, rfl, hsublist.cons x, fun other => ?_⟩
      rw [hmem, List.mem_cons]
      constructor
      · rintro ⟨hother, htrue⟩
        exact ⟨.inr hother, htrue⟩
      · rintro ⟨rfl | hother, htrue⟩
        · rw [hx] at htrue
          exact absurd htrue (by simp)
        · exact ⟨hother, htrue⟩
    | true =>
      refine ⟨x :: kept, by simp, hsublist.cons_cons x, fun other => ?_⟩
      rw [List.mem_cons, hmem, List.mem_cons]
      constructor
      · rintro (rfl | ⟨hother, htrue⟩)
        · exact ⟨.inl rfl, hx⟩
        · exact ⟨.inr hother, htrue⟩
      · rintro ⟨rfl | hother, htrue⟩
        · exact .inl rfl
        · exact .inr ⟨hother, htrue⟩

theorem exists_of_filterAuxM_eq_error {ε α : Type} {f : α → Except ε Bool} {xs acc : List α}
    {e : ε} (h : xs.filterAuxM f acc = .error e) : ∃ x ∈ xs, f x = .error e := by
  induction xs generalizing acc with
  | nil =>
    rw [List.filterAuxM] at h
    exact absurd h (by simp [pure, Except.pure])
  | cons x xs ih =>
    rw [List.filterAuxM] at h
    rcases bind_eq_error_iff.mp h with hx | ⟨b, -, h⟩
    · exact ⟨x, List.mem_cons_self, hx⟩
    · obtain ⟨other, hother, he⟩ := ih h
      exact ⟨other, List.mem_cons_of_mem x hother, he⟩

namespace FileTree

/-! ### The place that a path leads to -/

theorem foldl_step_of_walk {tree : FileTree} {shown : RawText} {here place : Location}
    {parts : List RawText} (h : tree.walk shown here parts = .ok place) :
    parts.foldl Location.step here = place := by
  induction parts generalizing here with
  | nil => exact Except.ok.inj h
  | cons part rest ih =>
    rw [walk] at h
    split at h
    · exact absurd h (by simp)
    · exact absurd h (by simp)
    · split at h
      · exact absurd h (by simp)
      · exact ih h

theorem follow_eq_ok_iff {tree : FileTree} {shown : RawText} {anchor : Anchor}
    {parts : List RawText} {place : Location} :
    tree.follow shown anchor parts = .ok place ↔
      pathFault? shown = none ∧ (encodeName shown).length ≤ maxPathLength ∧
        tree.walk shown (anchor.start tree.working) parts = .ok place := by
  unfold follow
  cases pathFault? shown with
  | some fault => simp
  | none =>
    by_cases hlong : maxPathLength < (encodeName shown).length
    · simp [hlong, Nat.not_le_of_lt hlong]
    · simp [hlong, Nat.le_of_not_lt hlong]

/-- Where a path can be opened, opening and resolving agree. -/
theorem resolve_of_locate {tree : FileTree} {path : Path} {place : Location}
    (h : tree.locate path = .ok place) : path.resolve tree.working = place :=
  foldl_step_of_walk (follow_eq_ok_iff.mp h).2.2

theorem resolve_eq_ok {tree : FileTree} {path : Path} {place : Location}
    (h : tree.resolve path = .ok place) : path.resolve tree.working = place := by
  unfold resolve at h
  dsimp only at h
  split at h
  · exact absurd h (by simp)
  · exact Except.ok.inj h

theorem resolve_congr {tree other : FileTree} (h : tree.working = other.working)
    (path : Path) : tree.resolve path = other.resolve path := by
  unfold resolve
  rw [h]

theorem resolveAll_eq_ok {tree : FileTree} {paths : List Path} {places : List Location}
    (h : tree.resolveAll paths = .ok places) :
    places = paths.map (Path.resolve tree.working) := by
  have hall : List.Forall₂ (fun path place => tree.resolve path = .ok place) paths places :=
    forall₂_of_mapM h
  clear h
  induction hall with
  | nil => rfl
  | cons hpath _ ih => rw [List.map_cons, resolve_eq_ok hpath, ← ih]

/-! ### Writing -/

theorem find?_set {place : Location} (h : place ≠ []) (tree : FileTree) (entry : Entry)
    (other : Location) :
    (tree.set place entry).find? other =
      if place = other then some entry else tree.find? other := by
  unfold find? set
  by_cases hother : other = []
  · subst hother
    simp [h]
  · simp [hother, Table.get?_insert]

theorem ne_nil_of_find? {tree : FileTree} {place : Location}
    (h : tree.find? place ≠ some .directory) : place ≠ [] := by
  rintro rfl
  exact h rfl

theorem write_eq_ok_iff {tree next : FileTree} {path : Path} {content : Bytes} :
    tree.write path content = .ok next ↔
      ∃ place, tree.locate path = .ok place ∧ tree.find? place ≠ some .directory ∧
        next = tree.set place (.file content) := by
  unfold write
  rw [bind_eq_ok_iff]
  refine exists_congr fun place => and_congr_right fun _ => ?_
  unfold writeAt
  split
  · rename_i hdirectory
    simp [hdirectory]
  · rename_i hother
    rw [and_iff_right hother]
    exact ⟨fun h => (Except.ok.inj h).symm, fun h => h ▸ rfl⟩

/-- A text is written at the place that the path names, or nowhere. One without bytes leaves an
empty file. -/
theorem writeText_cases (tree : FileTree) (path : Path) (t : RawText) :
    (∃ fault, tree.writeText path t = (tree, some fault)) ∨
      tree.find? (path.resolve tree.working) ≠ some .directory ∧
        tree.writeText path t =
          (tree.set (path.resolve tree.working)
              (.file (if (encodeFault? t).isSome then [] else encode t.chars)),
            (encodeFault? t).map .unencodable) := by
  unfold writeText
  dsimp only
  cases hwrite : tree.write path _ with
  | error fault => exact .inl ⟨fault, rfl⟩
  | ok next =>
    obtain ⟨place, hplace, hdirectory, rfl⟩ := write_eq_ok_iff.mp hwrite
    rw [resolve_of_locate hplace]
    exact .inr ⟨hdirectory, rfl⟩

/-- A text is written if its path leads to a place for a file and the text has bytes. -/
theorem writeText_eq_none_iff {tree : FileTree} {path : Path} {t : RawText} :
    (tree.writeText path t).2 = none ↔
      (∃ place, tree.locate path = .ok place ∧ tree.find? place ≠ some .directory) ∧
        encodeFault? t = none := by
  unfold writeText
  dsimp only
  cases hwrite : tree.write path _ with
  | error fault =>
    refine iff_of_false (by simp) ?_
    rintro ⟨⟨place, hplace, hdirectory⟩, -⟩
    rw [write_eq_ok_iff.mpr ⟨place, hplace, hdirectory, rfl⟩] at hwrite
    exact absurd hwrite (by simp)
  | ok next =>
    obtain ⟨place, hplace, hdirectory, -⟩ := write_eq_ok_iff.mp hwrite
    rw [and_iff_right ⟨place, hplace, hdirectory⟩]
    exact Option.map_eq_none_iff

theorem working_writeText (tree : FileTree) (path : Path) (t : RawText) :
    (tree.writeText path t).1.working = tree.working := by
  rcases tree.writeText_cases path t with ⟨fault, hwrite⟩ | ⟨-, hwrite⟩
  · rw [hwrite]
  · rw [hwrite]
    rfl

/-- Writing a text changes no place but the one that the path names. -/
theorem find?_writeText_of_ne {tree : FileTree} {path : Path} {other : Location}
    (h : path.resolve tree.working ≠ other) (t : RawText) :
    (tree.writeText path t).1.find? other = tree.find? other := by
  rcases tree.writeText_cases path t with ⟨fault, hwrite⟩ | ⟨hdirectory, hwrite⟩
  · rw [hwrite]
  · rw [hwrite, find?_set (ne_nil_of_find? hdirectory), if_neg h]

/-- A text that was written is the content of the file at the place that the path names. -/
theorem find?_writeText {tree : FileTree} {path : Path} {t : RawText}
    (h : (tree.writeText path t).2 = none) :
    (tree.writeText path t).1.find? (path.resolve tree.working) =
      some (.file (encode t.chars)) := by
  obtain ⟨-, hbytes⟩ := writeText_eq_none_iff.mp h
  rcases tree.writeText_cases path t with ⟨fault, hwrite⟩ | ⟨hdirectory, hwrite⟩
  · exact absurd (hwrite ▸ h) (by simp)
  · rw [hwrite, find?_set (ne_nil_of_find? hdirectory), if_pos rfl, hbytes]
    rfl

/-! ### Directories -/

/-- Directories are where they were. -/
structure SameDirectories (tree other : FileTree) : Prop where
  /-- Relative paths start from the same directory. -/
  working : other.working = tree.working
  /-- The same places are directories. -/
  find?_iff : ∀ place, other.find? place = some .directory ↔ tree.find? place = some .directory

namespace SameDirectories

theorem refl (tree : FileTree) : SameDirectories tree tree :=
  ⟨rfl, fun _ => Iff.rfl⟩

theorem trans {tree next last : FileTree} (h : SameDirectories tree next)
    (h' : SameDirectories next last) : SameDirectories tree last :=
  ⟨h'.working.trans h.working, fun place => (h'.find?_iff place).trans (h.find?_iff place)⟩

theorem writeText (tree : FileTree) (path : Path) (t : RawText) :
    SameDirectories tree (tree.writeText path t).1 := by
  refine ⟨tree.working_writeText path t, fun place => ?_⟩
  rcases tree.writeText_cases path t with ⟨fault, hwrite⟩ | ⟨hdirectory, hwrite⟩
  · rw [hwrite]
  · rw [hwrite, find?_set (ne_nil_of_find? hdirectory)]
    -- a file takes the place of a file or of nothing, never of a directory
    split
    · rename_i hplace
      rw [hplace] at hdirectory
      exact iff_of_false (by simp) hdirectory
    · rfl

theorem walk_eq_ok {tree other : FileTree} (h : SameDirectories tree other) {shown : RawText}
    {here place : Location} {parts : List RawText}
    (hwalk : tree.walk shown here parts = .ok place) : other.walk shown here parts = .ok place := by
  induction parts generalizing here with
  | nil => exact hwalk
  | cons part rest ih =>
    rw [walk] at hwalk
    cases hhere : tree.find? here with
    | none => simp [hhere] at hwalk
    | some entry =>
      cases entry with
      | file content => simp [hhere] at hwalk
      | directory =>
        -- a walk that succeeds goes through directories only, and these are the same
        rw [hhere] at hwalk
        rw [walk, (h.find?_iff here).mpr hhere]
        dsimp only at hwalk ⊢
        split at hwalk
        · exact absurd hwalk (by simp)
        · rename_i hshort
          rw [if_neg hshort]
          exact ih hwalk

theorem symm {tree other : FileTree} (h : SameDirectories tree other) :
    SameDirectories other tree :=
  ⟨h.working.symm, fun place => (h.find?_iff place).symm⟩

theorem locate_eq_ok_iff {tree other : FileTree} (h : SameDirectories tree other) {path : Path}
    {place : Location} : other.locate path = .ok place ↔ tree.locate path = .ok place := by
  unfold locate
  rw [follow_eq_ok_iff, follow_eq_ok_iff, h.working]
  exact and_congr_right fun _ => and_congr_right fun _ => ⟨h.symm.walk_eq_ok, h.walk_eq_ok⟩

end SameDirectories

/-- Opening a path leads to a directory. -/
theorem look?_eq_directory_iff {tree : FileTree} {path : Path} :
    tree.look? path = .ok (some .directory) ↔
      ∃ place, tree.locate path = .ok place ∧ tree.find? place = some .directory := by
  unfold look?
  cases tree.locate path with
  | ok place => simp
  | error fault => cases fault <;> simp

theorem SameDirectories.look?_eq_directory_iff {tree other : FileTree}
    (h : SameDirectories tree other) {path : Path} :
    other.look? path = .ok (some .directory) ↔ tree.look? path = .ok (some .directory) := by
  rw [FileTree.look?_eq_directory_iff, FileTree.look?_eq_directory_iff]
  exact exists_congr fun place => and_congr h.locate_eq_ok_iff (h.find?_iff place)

/-! ### Changes from outside -/

theorem working_makeDirectory {tree next : FileTree} {t : RawText}
    (h : tree.makeDirectory t = .ok next) : next.working = tree.working := by
  unfold makeDirectory at h
  dsimp only at h
  split at h
  · exact absurd h (by simp [bind, Except.bind])
  · obtain ⟨place, -, h⟩ := bind_eq_ok_iff.mp h
    split at h
    · exact absurd h (by simp)
    · rw [← Except.ok.inj h]
      rfl

theorem working_ensureDirectory (tree : FileTree) (t : RawText) :
    (tree.ensureDirectory t).1.working = tree.working := by
  unfold ensureDirectory
  split
  · rename_i hmade
    exact working_makeDirectory hmade
  · rfl

theorem working_makeWays (tree : FileTree) (ways : List RawText) :
    (tree.makeWays ways).1.working = tree.working := by
  induction ways generalizing tree with
  | nil => rfl
  | cons t rest ih =>
    have hfirst := tree.working_ensureDirectory t
    unfold makeWays
    split
    · rename_i hensured
      rw [ih, ← hfirst, hensured]
    · rename_i hensured
      rw [ih, ← hfirst, hensured]
    · rename_i hensured
      rw [← hfirst, hensured]

theorem working_makeDirectories (tree : FileTree) (t : RawText) :
    (tree.makeDirectories t).1.working = tree.working := by
  unfold makeDirectories
  split
  · exact tree.working_ensureDirectory t
  · rename_i first rest _
    have hways := tree.working_makeWays (first :: rest.filter (!staysInPlace ·))
    split
    · rename_i hmade
      rw [← hways, hmade]
    · rename_i hmade
      rw [← hways, hmade]
      split
      · rfl
      · exact working_ensureDirectory _ t

theorem working_putFile (tree : FileTree) (t : RawText) (content : Bytes) :
    (tree.putFile t content).1.working = tree.working := by
  -- the directories above the file are made first, and stay if the file cannot be written
  have hparents : (tree.makeParents t).1.working = tree.working := by
    unfold makeParents
    split
    · rfl
    · exact tree.working_makeDirectories _
  unfold putFile
  split
  · rename_i hmade
    rw [← hparents, hmade]
  · rename_i made hmade
    rw [hmade] at hparents
    rw [← hparents]
    split
    · rfl
    · unfold writeAt
      split
      · rename_i hwritten
        split at hwritten
        · exact absurd hwritten (by simp)
        · rw [← Except.ok.inj hwritten]
          rfl
      · rfl

/-- No change from outside moves the working directory. -/
theorem working_apply (tree : FileTree) (change : Change) :
    (tree.apply change).1.working = tree.working := by
  cases change with
  | write t content => exact tree.working_putFile t content
  | makeDirectory t => exact tree.working_makeDirectories t
  | remove t =>
    rw [apply, remove]
    split
    · rename_i hremoved
      obtain ⟨place, -, hremoved⟩ := bind_eq_ok_iff.mp hremoved
      split at hremoved
      · exact absurd hremoved (by simp)
      · exact absurd hremoved (by simp)
      · rw [← Except.ok.inj hremoved]
    · rfl

end FileTree

/-! ### Paths without NUL -/

/-- No component of the path holds a NUL character. -/
def Path.NulFree (path : Path) : Prop :=
  ∀ part ∈ path.parts, Point.char '\x00' ∉ part

instance (path : Path) : Decidable path.NulFree :=
  inferInstanceAs (Decidable (∀ part ∈ path.parts, Point.char '\x00' ∉ part))

theorem mem_intercalate_slash {parts : List RawText} {c : Point}
    (h : c ∈ List.intercalate [slash] parts) : c = slash ∨ ∃ part ∈ parts, c ∈ part := by
  induction parts with
  | nil => exact absurd h (by simp)
  | cons part rest ih =>
    cases rest with
    | nil => exact .inr ⟨part, by simp, by simpa using h⟩
    | cons next rest =>
      rw [List.intercalate_cons_cons, List.mem_append, List.mem_append] at h
      rcases h with (h | h) | h
      · exact .inr ⟨part, List.mem_cons_self, h⟩
      · exact .inl (List.mem_singleton.mp h)
      · refine (ih h).imp_right ?_
        rintro ⟨other, hother, hc⟩
        exact ⟨other, List.mem_cons_of_mem part hother, hc⟩

theorem Path.NulFree.not_mem_text {path : Path} (h : path.NulFree) :
    Point.char '\x00' ∉ path.text := by
  have hanchor : Point.char '\x00' ∉ path.anchor.text := by cases path.anchor <;> decide
  unfold Path.text
  split
  · decide
  · intro hmem
    rcases List.mem_append.mp hmem with hmem | hmem
    · exact hanchor hmem
    · rcases mem_intercalate_slash hmem with hslash | ⟨part, hpart, hc⟩
      · exact absurd hslash (by decide)
      · exact h part hpart hc

theorem Path.NulFree.extend {path : Path} (h : path.NulFree) {part : RawText}
    (hpart : Point.char '\x00' ∉ part) : (path.extend part).NulFree := by
  have hchild : ∀ name : RawText, Point.char '\x00' ∉ name → (path.child name).NulFree := by
    intro name hname other hother
    rcases List.mem_append.mp hother with hother | hother
    · exact h other hother
    · rw [List.mem_singleton.mp hother]
      exact hname
  unfold Path.extend
  split
  · split
    · exact hchild upward (by decide)
    · exact h
    · split
      · exact hchild upward (by decide)
      · exact fun other hother => h other ((List.dropLast_sublist _).subset hother)
  · exact hchild part hpart

/-- Only a NUL character and surrogates keep a path from being looked for. -/
theorem pathFault?_of_nulFree {t : RawText} (hnul : Point.char '\x00' ∉ t) {fault : FileFault}
    (h : pathFault? t = some fault) : ∃ encodeFault, fault = .unencodable encodeFault := by
  unfold pathFault? at h
  split at h
  · exact ⟨_, (Option.some_inj.mp h).symm⟩
  · rw [if_neg (by simpa using hnul)] at h
    exact absurd h (by simp)

namespace FileTree

theorem unnamable?_of_nulFree {done : Path} (hdone : done.NulFree) {parts : List RawText}
    (hparts : ∀ part ∈ parts, Point.char '\x00' ∉ part) {fault : FileFault}
    (h : unnamable? done parts = some fault) : ∃ encodeFault, fault = .unencodable encodeFault := by
  induction parts generalizing done with
  | nil => exact absurd h (by simp [unnamable?])
  | cons part rest ih =>
    have hnext := hdone.extend (hparts part List.mem_cons_self)
    rw [unnamable?] at h
    split at h
    · exact pathFault?_of_nulFree hnext.not_mem_text h
    · exact ih hnext (fun other hother => hparts other (List.mem_cons_of_mem part hother)) h

theorem resolve_eq_error {tree : FileTree} {path : Path} (hnul : path.NulFree)
    {fault : FileFault} (h : tree.resolve path = .error fault) :
    ∃ encodeFault, fault = .unencodable encodeFault := by
  unfold resolve at h
  dsimp only at h
  split at h
  · rename_i hunnamable
    rw [← Except.error.inj h]
    exact unnamable?_of_nulFree (fun part hpart => absurd hpart (by simp)) hnul hunnamable
  · exact absurd h (by simp)

theorem walk_ne_nullByte (tree : FileTree) (shown : RawText) (here : Location)
    (parts : List RawText) : tree.walk shown here parts ≠ .error .nullByte := by
  induction parts generalizing here with
  | nil => simp [walk]
  | cons part rest ih =>
    rw [walk]
    split
    · simp
    · simp
    · split
      · simp
      · exact ih _

theorem locate_ne_nullByte (tree : FileTree) {path : Path} (hnul : path.NulFree) :
    tree.locate path ≠ .error .nullByte := by
  unfold locate follow
  split
  · rename_i hfault
    obtain ⟨encodeFault, rfl⟩ := pathFault?_of_nulFree hnul.not_mem_text hfault
    simp
  · split
    · simp
    · exact tree.walk_ne_nullByte _ _ _

theorem readText_ne_nullByte (tree : FileTree) {path : Path} (hnul : path.NulFree) :
    tree.readText path ≠ .error .nullByte := by
  have hread : tree.read path ≠ .error .nullByte := by
    intro h
    rcases bind_eq_error_iff.mp h with hplace | ⟨place, -, h⟩
    · exact tree.locate_ne_nullByte hnul hplace
    · split at h <;> simp at h
  intro h
  rcases bind_eq_error_iff.mp h with hcontent | ⟨content, -, h⟩
  · exact hread hcontent
  · split at h <;> simp at h

theorem writeText_ne_nullByte (tree : FileTree) {path : Path} (hnul : path.NulFree)
    (t : RawText) : (tree.writeText path t).2 ≠ some .nullByte := by
  unfold writeText
  dsimp only
  cases hwrite : tree.write path _ with
  | ok next => cases encodeFault? t <;> simp
  | error fault =>
    rcases bind_eq_error_iff.mp hwrite with hplace | ⟨place, -, hplace⟩
    · rintro ⟨rfl⟩
      exact tree.locate_ne_nullByte hnul hplace
    · unfold writeAt at hplace
      split at hplace
      · rw [← Except.error.inj hplace]
        simp
      · exact absurd hplace (by simp)

end FileTree

end LivePage
