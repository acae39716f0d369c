/-
Which changes a watcher sees.

The observer of a watcher looks at directories, and the handler compares
places. Both are found from the paths of the configuration, but each by
itself, and an event can spell its path in any way:

* `FileTree.existing_eq_ok` — the directories among some places;
* `Workspace.Serves.modified_iff` — a handler restarts its timer exactly if the
  path of an event names one of its places;
* `Workspace.modified_of_setUp` — so does the handler of a watcher, whatever has
  happened since it was set up;
* `Workspace.setUp_watches` — if a watcher can be set up, its observer looks at
  the existing directories that hold the files of the configuration, at each
  once, and its handler answers to those files and to no others;
* `Workspace.directory_unobserved` — a document without bytes keeps a watcher
  from being set up.
-/
import Mathlib.Data.List.Nodup
import LivePage.Proofs.Watch.Watcher

namespace LivePage

/-- No path of the configuration holds a NUL character. -/
def Config.NulFree (config : Config) : Prop :=
  (∀ pair ∈ config.pairs, pair.1.NulFree ∧ pair.2.NulFree) ∧ ∀ path ∈ config.watch, path.NulFree

instance (config : Config) : Decidable config.NulFree :=
  inferInstanceAs (Decidable (_ ∧ _))

theorem Config.NulFree.of_mem_files {config : Config} (h : config.NulFree) {path : Path}
    (hpath : path ∈ config.files) : path.NulFree := by
  rcases List.mem_append.mp hpath with hpath | hpath
  · obtain ⟨pair, hpair, rfl⟩ := List.mem_map.mp hpath
    exact (h.1 pair hpair).1
  · exact h.2 path hpath

/-! ### Directories -/

namespace FileTree

/-- The directories among some places are those that opening leads to, in the order of the
places. -/
theorem existing_eq_ok {tree : FileTree} {places found : List Location}
    (h : tree.existing places = .ok found) :
    found.Sublist places ∧
      ∀ place, place ∈ found ↔ place ∈ places ∧ tree.look? place.path = .ok (some .directory) := by
  unfold existing List.filterM at h
  obtain ⟨kept, hkept, h⟩ := bind_eq_ok_iff.mp h
  obtain ⟨found', rfl, hsublist, hmem⟩ := filterAuxM_eq_ok hkept
  obtain rfl : found' = found := by simpa [pure, Except.pure] using h
  refine ⟨hsublist, fun place => ?_⟩
  rw [hmem, bind_eq_ok_iff]
  simp

theorem existing_eq_error {tree : FileTree} {places : List Location} {fault : FileFault}
    (h : tree.existing places = .error fault) : ∃ shown, fault = .nameTooLong shown := by
  unfold existing List.filterM at h
  rcases bind_eq_error_iff.mp h with h | ⟨kept, -, h⟩
  · obtain ⟨place, -, hplace⟩ := exists_of_filterAuxM_eq_error h
    rcases bind_eq_error_iff.mp hplace with hlook | ⟨looked, -, hlook⟩
    · unfold look? at hlook
      split at hlook
      · exact absurd hlook (by simp)
      · exact ⟨_, (Except.error.inj hlook).symm⟩
      · exact absurd hlook (by simp)
    · exact absurd hlook (by simp)
  · exact absurd h (by simp [pure, Except.pure])

end FileTree

theorem nodup_directoriesOf (places : List Location) : (directoriesOf places).Nodup :=
  Table.nodup_eraseDups _

namespace Workspace

theorem mem_directoriesOf_places {ws : Workspace} {config : Config} {directory : Location} :
    directory ∈ directoriesOf (ws.places config) ↔
      ∃ path ∈ config.files, (path.resolve ws.tree.working).dropLast = directory := by
  simp [directoriesOf, places]

/-! ### Events -/

/-- A handler restarts its timer exactly if the path names one of its places. -/
theorem Serves.modified_iff {tree : FileTree} {places : List Location} {n : Nat} {ws : Workspace}
    (h : Serves tree places n ws) (path : Path) :
    ((ws.modified n (.file path)).1.debouncer n = (ws.debouncer n).schedule ↔
        ∃ place ∈ places, tree.resolve path = .ok place) ∧
      ((¬ ∃ place ∈ places, tree.resolve path = .ok place) →
        (ws.modified n (.file path)).1 = ws) := by
  obtain ⟨handler, hhandler, hplaces⟩ := h.handler
  have hschedules : (HandlerStep.modified (.file path)).Schedules ws.tree handler.places ↔
      ∃ place ∈ places, tree.resolve path = .ok place := by
    rw [hplaces]
    exact HandlerStep.schedules_congr h.working _
  rw [← hschedules]
  rcases modified_fst hhandler (.file path) with
    ⟨hstep, message, hmodified⟩ | ⟨hstep, hmodified⟩
  · refine ⟨iff_of_true ?_ hstep, fun hnot => absurd hstep hnot⟩
    have hrecorded : (ws.record .info message).handlers[n]? = some handler := hhandler
    rw [hmodified, schedule_eq hrecorded, debouncer_eq hhandler]
    exact debouncer_eq (handlers_mapDebouncer_self hrecorded Debouncer.schedule)
  · refine ⟨iff_of_false ?_ hstep, fun _ => hmodified⟩
    rw [hmodified]
    intro hsame
    -- a restart would have added a timer
    have hlength := (ws.debouncer n).length_schedule
    rw [← hsame] at hlength
    omega

/-! ### Watchers -/

/-- The directories that are looked at are those that exist among the directories of the files, each
once. -/
theorem observe_mem_iff {ws next : Workspace} {config : Config} {found : List Location}
    (hfound : next.tree.existing (directoriesOf (ws.places config)) = .ok found)
    (hsame : ws.tree.SameDirectories next.tree) (directory : Location) :
    (directory ∈ found ↔
        (∃ path ∈ config.files, (path.resolve ws.tree.working).dropLast = directory) ∧
          ws.tree.look? directory.path = .ok (some .directory)) ∧
      (found.map Action.observe).count (.observe directory) ≤ 1 := by
  obtain ⟨hsublist, hmem⟩ := FileTree.existing_eq_ok hfound
  constructor
  · rw [hmem, mem_directoriesOf_places, hsame.look?_eq_directory_iff]
  · have hnodup : (found.map Action.observe).Nodup :=
      List.Nodup.map (fun _ _ h => by simpa using h)
        (hsublist.nodup (nodup_directoriesOf (ws.places config)))
    exact List.nodup_iff_count_le_one.mp hnodup (.observe directory)

theorem serves_setUp {ws started : Workspace} {config : Config} {actions : List Action}
    {watcher : Watcher} (h : ws.setUp config = (started, actions, .ok (some watcher))) :
    Serves ws.tree (ws.places config) watcher.handler started := by
  have hcases := ws.setUp_cases config
  rw [h] at hcases
  cases hcases with
  | watching _ _ _ hserves => exact hserves

/-- Whatever has happened since a watcher was set up, an event restarts the timer of its handler
exactly if it is at the place of a file of the configuration. -/
theorem modified_of_setUp {ws started current : Workspace} {config : Config}
    {actions : List Action} {watcher : Watcher} {events : List Event}
    (h : ws.setUp config = (started, actions, .ok (some watcher)))
    (hevents : Answers watcher started events current) {t : RawText} {place : Location}
    (hplace : current.tree.resolve (.ofText t) = .ok place) :
    let after := (current.modified watcher.handler (.file (.ofText t))).1
    (after.debouncer watcher.handler = (current.debouncer watcher.handler).schedule ↔
        ∃ path ∈ config.files, path.resolve ws.tree.working = place) ∧
      ((¬ ∃ path ∈ config.files, path.resolve ws.tree.working = place) → after = current) := by
  have hcurrent := (serves_setUp h).answers hevents
  have hnames : (∃ other ∈ ws.places config, ws.tree.resolve (.ofText t) = .ok other) ↔
      ∃ path ∈ config.files, path.resolve ws.tree.working = place := by
    rw [← FileTree.resolve_congr hcurrent.working, hplace]
    simp [places]
  rw [← hnames]
  exact hcurrent.modified_iff (.ofText t)

/-- **No watched file is missed, and no other one counts.** A watcher of paths without NUL can be
set up unless a path or a document has no bytes or a directory has a name that is too long, and then
its observer is not started. Otherwise the observer looks at exactly the existing directories that
hold the files of the configuration, at each once and not below it; and whatever has happened since,
an event restarts the timer of the handler if and only if its path, however it is spelled, names the
place of one of these files. -/
theorem setUp_watches (ws : Workspace) (config : Config) (hnul : config.NulFree) :
    match ws.setUp config with
    | (_, actions, .error fault) =>
      .start ∉ actions ∧
        ((∃ encodeFault, fault = .unencodable encodeFault) ∨ ∃ shown, fault = .nameTooLong shown)
    | (started, actions, .ok watcher?) =>
      (∀ directory : Location, .observe directory ∈ actions ↔
        (∃ path ∈ config.files, (path.resolve ws.tree.working).dropLast = directory) ∧
          ws.tree.look? directory.path = .ok (some .directory)) ∧
      (∀ directory, actions.count (.observe directory) ≤ 1) ∧
      ∀ watcher events current t place, watcher? = some watcher →
        Answers watcher started events current → current.tree.resolve (.ofText t) = .ok place →
        let after := (current.modified watcher.handler (.file (.ofText t))).1
        (after.debouncer watcher.handler = (current.debouncer watcher.handler).schedule ↔
            ∃ path ∈ config.files, path.resolve ws.tree.working = place) ∧
          ((¬ ∃ path ∈ config.files, path.resolve ws.tree.working = place) → after = current) := by
  have hcases := ws.setUp_cases config
  generalize hsetUp : ws.setUp config = outcome at hcases
  cases hcases with
  | failed _ hactions hfault =>
    refine ⟨fun hmem => absurd (hactions.subset hmem) (by simp), ?_⟩
    rcases hfault with hplaces | hbuild | hfound
    · obtain ⟨path, hpath, hresolve⟩ := exists_of_mapM_eq_error hplaces
      exact .inl (FileTree.resolve_eq_error (hnul.of_mem_files hpath) hresolve)
    · exact .inl (build_fault hnul.1 hbuild)
    · exact .inr (FileTree.existing_eq_error hfound)
  | empty _ hfound hsame =>
    refine ⟨fun directory => ?_, fun directory => ?_, ?_⟩
    · rw [← (observe_mem_iff hfound hsame directory).1]
      simp
    · simp
    · intro watcher events current t place hnone
      exact absurd hnone (by simp)
  | watching hfound _ hsame _ =>
    refine ⟨fun directory => ?_, fun directory => ?_, ?_⟩
    · rw [← (observe_mem_iff hfound hsame directory).1]
      simp
    · simpa using (observe_mem_iff hfound hsame directory).2
    · rintro watcher events current t place ⟨rfl⟩ hevents hplace
      exact modified_of_setUp hsetUp hevents hplace

/-- One of two directories exists, and an event spells the path of the file in it in another way. -/
theorem setUp_watches_spelled :
    let ws : Workspace := { tree := ⟨[], [([raw "d"], .directory)]⟩ }
    let config : Config :=
      { pairs :=
          [(.ofText (raw "d/a"), .ofText (raw "b")), (.ofText (raw "e/a"), .ofText (raw "c"))]
        watch := [.ofText (raw "d/../d/f")], debounce := Config.defaultDebounce, frame := {} }
    config.NulFree ∧ ∃ started actions watcher,
      ws.setUp config = (started, actions, .ok (some watcher)) ∧
        .observe [raw "d"] ∈ actions ∧ .observe [raw "e"] ∉ actions ∧
        (started.modified watcher.handler (.file (.ofText (raw "./d//x/../a")))).1.debouncer
          watcher.handler = (started.debouncer watcher.handler).schedule := by
  intro ws config
  have hnul : config.NulFree := by decide +kernel
  have hwatching : (ws.setUp config).2.2.toOption = some (some ⟨0, [[raw "d"]]⟩) := by
    decide +kernel
  have hworking : (ws.setUp config).1.tree.working = ws.tree.working := by decide +kernel
  have hwatches := setUp_watches ws config hnul
  refine ⟨hnul, ?_⟩
  cases hsetUp : ws.setUp config with
  | mk started rest =>
    obtain ⟨actions, outcome⟩ := rest
    rw [hsetUp] at hwatching hworking hwatches
    cases outcome with
    | error fault => exact absurd hwatching (by simp [Except.toOption])
    | ok watcher? =>
      obtain rfl : watcher? = some ⟨0, [[raw "d"]]⟩ := by simpa [Except.toOption] using hwatching
      obtain ⟨hobserve, -, hmodified⟩ := hwatches
      refine ⟨started, actions, _, rfl, ?_, ?_, ?_⟩
      · exact (hobserve [raw "d"]).mpr ⟨⟨.ofText (raw "d/a"), by decide +kernel, by decide +kernel⟩,
          by decide +kernel⟩
      · intro hmem
        exact absurd ((hobserve [raw "e"]).mp hmem).2 (by decide +kernel)
      · have hplace : started.tree.resolve (.ofText (raw "./d//x/../a")) = .ok [raw "d", raw "a"] :=
          (FileTree.resolve_congr hworking _).trans (by decide +kernel)
        have hrestarts := hmodified _ [] started (raw "./d//x/../a") _ rfl (.nil started) hplace
        exact hrestarts.1.mpr ⟨.ofText (raw "d/a"), by decide +kernel, by decide +kernel⟩

/-- A directory that holds a source is not looked at, as the language of the documents is given by
two surrogates: the document has no bytes, and the fault of the first build ends the set-up. -/
theorem directory_unobserved :
    let tree : FileTree :=
      ⟨[], [([raw "y"], .file (encode
          "write:\n- src: a\n  dst: b\nlang: \"\\ud83d\\ude00\"\n".toList)),
        ([raw "a"], .file [])]⟩
    ∃ config, (Config.load tree (.ofText (raw "y"))).toOption = some config ∧ config.NulFree ∧
      ∃ directory : Location,
        (∃ path ∈ config.files, (path.resolve tree.working).dropLast = directory) ∧
          tree.look? directory.path = .ok (some .directory) ∧
          .observe directory ∉ (Workspace.setUp { tree } config).2.1 := by
  intro tree
  refine ⟨{ pairs := [(.ofText (raw "a"), .ofText (raw "b"))], watch := []
            debounce := Config.defaultDebounce
            frame := { lang := [.ofNumber 0xD83D, .ofNumber 0xDE00] } }, by decide +kernel,
    by decide +kernel, [], ⟨.ofText (raw "a"), by decide +kernel, by decide +kernel⟩,
    by decide +kernel, by decide +kernel⟩

end Workspace

end LivePage
