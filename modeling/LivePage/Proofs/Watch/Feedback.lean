/-
Whether a watcher answers to what it writes itself.

Nothing keeps a destination from being a source or a file that is watched. If
they are apart, builds and events cannot feed each other:

* `Workspace.Apart` — no destination names the place of a file of the
  configuration;
* `Event.At` — an event is a modification at one of some places;
* `Workspace.Serves.started_answers` — as long as no event is at one of its
  places, a handler starts no timer;
* `Workspace.apart_keeps` — if destinations are apart, builds leave the files of
  the configuration as they are, and what builds write starts no timer;
* `Workspace.source_overwritten` — a configuration is accepted whose build
  writes over its source.

Design notes: what an observer reports of a build are modifications at
destinations, so a watcher that hears of nothing but its own builds is one
whose events are all at destinations.
-/
import Mathlib.Data.List.Basic
import LivePage.Proofs.Watch.Sight

namespace LivePage

/-- An event is a modification at one of some places. -/
def Event.At (working : Location) (places : List Location) : Event → Prop
  | .modify t _ => (Path.ofText t).resolve working ∈ places
  | .fire _ | .interrupt => False

namespace Workspace

/-! ### Timers that are started -/

namespace Serves

variable {tree : FileTree} {places : List Location} {ws : Workspace} {watcher : Watcher}

/-- Only an event at one of its places has a handler start a timer. -/
theorem started_answer (h : Serves tree places watcher.handler ws) {event : Event}
    (hevent : ¬ event.At tree.working places) :
    (ws.answer watcher event).1.started = ws.started := by
  cases event with
  | interrupt => rfl
  | fire i =>
    rw [Workspace.answer]
    cases hfire : ws.fire? i with
    | none => rfl
    | some result =>
      obtain ⟨ref, owner, d, -, -, -, rfl⟩ := fire?_eq_some hfire
      exact (rebuild_fst _ _).2.1
  | modify t content =>
    have hworking := ws.tree.working_apply (.write t content)
    rw [Workspace.answer]
    cases happly : ws.tree.apply (.write t content) with
    | mk next fault? =>
      rw [happly] at hworking
      cases fault? with
      | some fault => rfl
      | none =>
        dsimp only
        -- the handler hears of the file only if the observer looks at its directory
        split
        · have hnext : Serves tree places watcher.handler { ws with tree := next } :=
            h.congr rfl rfl hworking
          have hnot : ¬ ∃ place ∈ places, tree.resolve (.ofText t) = .ok place := by
            rintro ⟨place, hplace, hresolve⟩
            rw [← FileTree.resolve_eq_ok hresolve] at hplace
            exact hevent hplace
          rw [(hnext.modified_iff (.ofText t)).2 hnot]
        · rfl

theorem started_answers {last : Workspace} {events : List Event}
    (h : Serves tree places watcher.handler ws) (hevents : Answers watcher ws events last)
    (hnone : ∀ event ∈ events, ¬ event.At tree.working places) : last.started = ws.started := by
  induction hevents with
  | nil => rfl
  | @cons ws next last event rest hanswer _ ih =>
    have hserves := h.answer event
    have hstarted := h.started_answer (hnone event List.mem_cons_self)
    rw [hanswer] at hserves hstarted
    rw [ih hserves fun other hother => hnone other (List.mem_cons_of_mem event hother)]
    exact hstarted

end Serves

/-! ### Destinations and files -/

/-- The places that the destinations of a configuration name. -/
def destinations (ws : Workspace) (config : Config) : List Location :=
  config.pairs.map fun pair => pair.2.resolve ws.tree.working

/-- No destination of a configuration names the place of one of its sources or of a file that it
watches. -/
def Apart (ws : Workspace) (config : Config) : Prop :=
  ∀ place ∈ ws.destinations config, place ∉ ws.places config

instance (ws : Workspace) (config : Config) : Decidable (ws.Apart config) :=
  inferInstanceAs (Decidable (∀ place ∈ ws.destinations config, place ∉ ws.places config))

/-- **A watcher does not answer to itself if outputs are apart from inputs.** A modification of a
destination restarts the timer exactly if the destination is also a source or a file that is
watched. If there is no such destination, then a build leaves every source and every file that is
watched as it was, and a watcher that hears only of what its builds write starts no timer. -/
theorem apart_keeps (ws : Workspace) (config : Config) :
    (∀ started actions watcher, ws.setUp config = (started, actions, .ok (some watcher)) →
      ∀ events current, Answers watcher started events current →
      ∀ t, ∀ place ∈ ws.destinations config, current.tree.resolve (.ofText t) = .ok place →
        ((current.modified watcher.handler (.file (.ofText t))).1.debouncer watcher.handler =
          (current.debouncer watcher.handler).schedule ↔ place ∈ ws.places config)) ∧
    (ws.Apart config →
      (∀ tree : FileTree, tree.working = ws.tree.working → ∀ place ∈ ws.places config,
        (LivePage.build config.frame tree config.pairs).1.tree.find? place = tree.find? place) ∧
      ∀ started actions watcher, ws.setUp config = (started, actions, .ok (some watcher)) →
        ∀ before current, Answers watcher started before current →
        ∀ events last, Answers watcher current events last →
          (∀ event ∈ events, ∀ t content, event = .modify t content →
            (Path.ofText t).resolve ws.tree.working ∈ ws.destinations config) →
          last.started = current.started) := by
  refine ⟨?_, fun hapart => ⟨?_, ?_⟩⟩
  · intro started actions watcher hsetUp events current hevents t place _ hplace
    rw [(modified_of_setUp hsetUp hevents hplace).1]
    simp [places]
  · intro tree hworking place hplace
    refine find?_build fun pair hpair hsame => hapart _ ?_ hplace
    rw [hworking] at hsame
    exact List.mem_map.mpr ⟨pair, hpair, hsame⟩
  · intro started actions watcher hsetUp before current hbefore events last hevents hown
    refine ((serves_setUp hsetUp).answers hbefore).started_answers hevents ?_
    intro event hevent hat
    cases event with
    | modify t content => exact hapart _ (hown _ hevent t content rfl) hat
    | fire i => exact hat
    | interrupt => exact hat

/-- A file is watched, and the destination is written while the watcher runs. -/
theorem apart_keeps_watched :
    let tree : FileTree := ⟨[], [([raw "w"], .file [1])]⟩
    let ws : Workspace := { tree }
    let config : Config :=
      { pairs := [(.ofText (raw "a"), .ofText (raw "b"))], watch := [.ofText (raw "w")]
        debounce := Config.defaultDebounce, frame := {} }
    ws.Apart config ∧
      (LivePage.build config.frame tree config.pairs).1.tree.find? [raw "w"] = some (.file [1]) ∧
      ∃ started actions watcher last,
        ws.setUp config = (started, actions, .ok (some watcher)) ∧
        Answers watcher started [.modify (raw "x/../b") [2]] last ∧
        last.tree ≠ started.tree ∧ last.started = started.started := by
  intro tree ws config
  let watcher : Watcher := ⟨0, [[]]⟩
  let event : Event := .modify (raw "x/../b") [2]
  have hapart : ws.Apart config := by decide +kernel
  have hwatching : (ws.setUp config).2.2.toOption = some (some watcher) := by decide +kernel
  have hanswered : ((ws.setUp config).1.answer watcher event).2 = none := by decide +kernel
  have hchanged : ((ws.setUp config).1.answer watcher event).1.tree ≠ (ws.setUp config).1.tree := by
    decide +kernel
  obtain ⟨hbuild, hwatch⟩ := (apart_keeps ws config).2 hapart
  refine ⟨hapart, (hbuild tree rfl [raw "w"] (by decide +kernel)).trans (by decide +kernel), ?_⟩
  rcases hsetUp : ws.setUp config with ⟨started, actions, outcome⟩
  rw [hsetUp] at hwatching hanswered hchanged
  obtain rfl := toOption_eq_some_iff.mp hwatching
  have hevents : Answers watcher started [event] (started.answer watcher event).1 :=
    .cons (Prod.ext rfl hanswered) (.nil _)
  refine ⟨started, actions, watcher, _, rfl, hevents, hchanged, ?_⟩
  refine hwatch _ _ _ hsetUp [] _ (.nil _) _ _ hevents ?_
  intro other hother t content hmodify
  rw [List.mem_singleton.mp hother] at hmodify
  obtain ⟨rfl, -⟩ := Event.modify.inj hmodify
  decide +kernel

/-- A configuration is accepted though its destination is its source, and a build writes over it. -/
theorem source_overwritten :
    let tree : FileTree :=
      ⟨[], [([raw "y"], .file (encode "write:\n- src: a\n  dst: ./a\n".toList)),
        ([raw "a"], .file [])]⟩
    ∃ config, Config.load tree (.ofText (raw "y")) = .ok config ∧
      (∃ pair ∈ config.pairs, ∃ path ∈ config.files,
        pair.2.resolve tree.working = path.resolve tree.working) ∧
      tree.find? [raw "a"] = some (.file []) ∧
      (LivePage.build config.frame tree config.pairs).1.tree.find? [raw "a"] ≠ some (.file []) := by
  intro tree
  let pair : Path × Path := (.ofText (raw "a"), .ofText (raw "./a"))
  have hload : Config.load tree (.ofText (raw "y")) =
      .ok { pairs := [pair], watch := [], debounce := Config.defaultDebounce, frame := {} } :=
    toOption_eq_some_iff.mp (by decide +kernel)
  have hread : tree.readText pair.1 = .ok [] := by decide +kernel
  have hplace : pair.2.resolve tree.working = [raw "a"] := by decide +kernel
  have hwritten : (tree.writeText pair.2 (Frame.compile {} [])).2 = none :=
    FileTree.writeText_eq_none_iff.mpr
      ⟨⟨[raw "a"], by decide +kernel, by decide +kernel⟩, encodeFault?_compile _ _ _⟩
  have hfind := FileTree.find?_writeText hwritten
  rw [hplace] at hfind
  refine ⟨_, hload, ⟨pair, List.mem_cons_self, pair.1, by decide +kernel, by decide +kernel⟩,
    by decide +kernel, ?_⟩
  rw [tree_build_singleton, buildPair_of_read hread, hfind]
  simpa using encode_compile_ne_nil {} []

end Workspace

end LivePage
