/-
A watcher from its beginning to its end.

A watcher ends when its observer has no more events, when it is interrupted,
or when a change or a rebuild fails. In each case its timers are stopped:

* `Workspace.SetUp`, `Workspace.setUp_cases` — all that setting up a watcher
  can do;
* `Answers` — a watcher answers to events, and none of them ends it;
* `Workspace.Serves.answers` — meanwhile the handler of the watcher stays in
  step;
* `Workspace.play_cases` — a watcher answers to all events, or up to the first
  one that ends it;
* `Workspace.watch_ends` — however a watcher ends, none of its timers runs on,
  and its observer is stopped if it is alive and then awaited.

Design notes: the observer is dead once it has come to the end of its events,
and alive as long as there was one that ended the watcher. So whether it is
alive at the end is a question about the events and the answers to them
(`Workspace.ObserverAlive`), and not about what is done with the observer.
-/
import Mathlib.Data.List.Basic
import LivePage.Watch.Watcher
import LivePage.Proofs.Watch.Burst

namespace LivePage

namespace Workspace

/-! ### Setting up -/

/-- The places that the files of a configuration name. -/
def places (ws : Workspace) (config : Config) : List Location :=
  config.files.map (Path.resolve ws.tree.working)

/-- What setting up a watcher can come to. The last handler of the workspace is the one that was
set up. -/
inductive SetUp (ws : Workspace) (config : Config) :
    Workspace × List Action × Except FileFault (Option Watcher) → Prop
  /-- A fault, with no directory that is looked at. -/
  | failed {next : Workspace} {actions : List Action} {fault : FileFault} :
      next.started = ws.started → actions <+: [.makeObserver] →
      (ws.tree.resolveAll config.files = .error fault ∨
        (LivePage.build config.frame ws.tree config.pairs).2 = some fault ∨
        next.tree.existing (directoriesOf (ws.places config)) = .error fault) →
      SetUp ws config (next, actions, .error fault)
  /-- No watcher, as there is no directory to look at. -/
  | empty {next : Workspace} :
      next.started = ws.started →
      next.tree.existing (directoriesOf (ws.places config)) = .ok [] →
      ws.tree.SameDirectories next.tree →
      SetUp ws config (next, [.makeObserver], .ok none)
  /-- A watcher of the directories that exist. -/
  | watching {next : Workspace} {found : List Location} :
      next.tree.existing (directoriesOf (ws.places config)) = .ok found → found ≠ [] →
      ws.tree.SameDirectories next.tree →
      Serves ws.tree (ws.places config) ws.handlers.length next →
      SetUp ws config (next, .makeObserver :: found.map .observe ++ [.start],
        .ok (some ⟨ws.handlers.length, found⟩))

theorem Serves.congr {tree : FileTree} {places : List Location} {n : Nat} {ws next : Workspace}
    (h : Serves tree places n ws) (hhandlers : next.handlers = ws.handlers)
    (hstarted : next.started = ws.started) (hworking : next.tree.working = ws.tree.working) :
    Serves tree places n next := by
  have hdebouncer : next.debouncer n = ws.debouncer n := by
    unfold debouncer
    rw [hhandlers]
  obtain ⟨hhandler, htree, hinStep, hknown⟩ := h
  refine ⟨by rw [hhandlers]; exact hhandler, hworking.trans htree, ?_, ?_⟩
  · rw [hdebouncer]
    exact hinStep
  · rw [hdebouncer, hstarted]
    exact hknown

theorem prepare_cases (ws : Workspace) (config : Config) :
    (∃ next fault, ws.prepare config = (next, .error fault) ∧ next.started = ws.started ∧
        (ws.tree.resolveAll config.files = .error fault ∨
          (LivePage.build config.frame ws.tree config.pairs).2 = some fault)) ∨
      ∃ next, ws.prepare config = (next, .ok (directoriesOf (ws.places config))) ∧
        next.started = ws.started ∧ next.handlers.length = ws.handlers.length + 1 ∧
        ws.tree.SameDirectories next.tree ∧
        Serves ws.tree (ws.places config) ws.handlers.length next := by
  unfold prepare
  cases hplaces : ws.tree.resolveAll config.files with
  | error fault => exact .inl ⟨ws, fault, rfl, rfl, .inl rfl⟩
  | ok places =>
    obtain rfl : places = ws.places config := FileTree.resolveAll_eq_ok hplaces
    have hsame := sameDirectories_build config.frame ws.tree config.pairs
    unfold build
    cases hbuild : LivePage.build config.frame ws.tree config.pairs with
    | mk state fault? =>
      rw [hbuild] at hsame
      cases fault? with
      | some fault => exact .inl ⟨_, fault, rfl, rfl, .inr rfl⟩
      | none =>
        refine .inr ⟨_, rfl, rfl, by simp [addHandler, record], hsame, ?_⟩
        have hserves := serves_addHandler
          { ws with tree := state.tree, records := ws.records ++ state.records }
          (ws.places config) config.pairs config.frame (.double config.debounce)
        exact ⟨hserves.handler, hserves.working.trans hsame.working, hserves.inStep,
          hserves.started⟩

/-- All that setting up a watcher can do. -/
theorem setUp_cases (ws : Workspace) (config : Config) : SetUp ws config (ws.setUp config) := by
  unfold setUp
  rcases ws.prepare_cases config with
    ⟨next, fault, hprepare, hstarted, hfault⟩ | ⟨next, hprepare, hstarted, hlength, hsame, hserves⟩
  · rw [hprepare]
    exact .failed hstarted List.nil_prefix (hfault.imp_right .inl)
  · rw [hprepare]
    dsimp only
    cases hfound : next.tree.existing (directoriesOf (ws.places config)) with
    | error fault => exact .failed hstarted List.prefix_rfl (.inr (.inr hfound))
    | ok found =>
      cases found with
      | nil => exact .empty hstarted hfound hsame
      | cons first rest =>
        -- the watcher takes the last handler, which is the one that was just set up
        have hnumber : next.handlers.length - 1 = ws.handlers.length := by omega
        simp only [observe, recordDirectories, record, List.isEmpty_cons, hnumber]
        exact .watching hfound (by simp) hsame (hserves.congr rfl rfl rfl)

/-! ### Answering to events -/

/-- A watcher answers to events, and none of them ends it. -/
inductive Answers (watcher : Watcher) : Workspace → List Event → Workspace → Prop
  | nil (ws : Workspace) : Answers watcher ws [] ws
  | cons {ws next last : Workspace} {event : Event} {rest : List Event} :
      ws.answer watcher event = (next, none) → Answers watcher next rest last →
      Answers watcher ws (event :: rest) last

/-- Beside writing a file, the answer to an event is a step of a handler or nothing. -/
theorem answer_eq_takeAll (ws : Workspace) (watcher : Watcher) (event : Event) :
    ∃ tree steps, tree.working = ws.tree.working ∧
      (ws.answer watcher event).1 = { ws with tree }.takeAll watcher.handler steps := by
  cases event with
  | interrupt => exact ⟨ws.tree, [], rfl, rfl⟩
  | fire i =>
    rw [answer]
    cases hfire : ws.fire? i with
    | none => exact ⟨ws.tree, [], rfl, rfl⟩
    | some result =>
      refine ⟨ws.tree, [.fire i], rfl, ?_⟩
      show result.1 = ws.take watcher.handler (.fire i)
      rw [take, hfire]
      rfl
  | modify t content =>
    have hworking := ws.tree.working_apply (.write t content)
    rw [answer]
    cases happly : ws.tree.apply (.write t content) with
    | mk tree fault? =>
      rw [happly] at hworking
      cases fault? with
      | some fault => exact ⟨tree, [], hworking, rfl⟩
      | none =>
        dsimp only
        split
        · exact ⟨tree, [.modified (.file (Path.ofText t))], hworking, rfl⟩
        · exact ⟨tree, [], hworking, rfl⟩

theorem answer_leavesObserver {ws last : Workspace} {watcher : Watcher} {event : Event}
    {ending : Ending} (h : ws.answer watcher event = (last, some ending)) :
    ending.leavesObserver = true := by
  have hfailed : ∀ fault? : Option FileFault, fault?.map Ending.failed = some ending →
      ending.leavesObserver = true := by
    intro fault? hfault
    obtain ⟨fault, -, rfl⟩ := Option.map_eq_some_iff.mp hfault
    rfl
  cases event with
  | interrupt =>
    obtain rfl := Option.some_inj.mp (Prod.mk.inj h).2
    rfl
  | fire i =>
    rw [answer] at h
    split at h
    · exact absurd (Prod.mk.inj h).2 (by simp)
    · exact hfailed _ (Prod.mk.inj h).2
  | modify t content =>
    rw [answer] at h
    split at h
    · obtain rfl := Option.some_inj.mp (Prod.mk.inj h).2
      rfl
    · dsimp only at h
      split at h
      · exact hfailed _ (Prod.mk.inj h).2
      · exact absurd (Prod.mk.inj h).2 (by simp)

section Keeps

variable {watcher : Watcher} {P : Workspace → Prop}
  (hfiles : ∀ ws tree, tree.working = ws.tree.working → P ws → P { ws with tree })
  (hstep : ∀ ws step, P ws → P (ws.take watcher.handler step))

include hfiles hstep

/-- What a change of the files and the steps of its handler keep, a watcher keeps. -/
theorem answer_keeps {ws : Workspace} (h : P ws) (event : Event) :
    P (ws.answer watcher event).1 := by
  obtain ⟨tree, steps, hworking, hanswer⟩ := ws.answer_eq_takeAll watcher event
  rw [hanswer]
  exact takeAll_keeps hstep (hfiles ws tree hworking h) steps

theorem answers_keep {ws last : Workspace} {events : List Event}
    (hevents : Answers watcher ws events last) (h : P ws) : P last := by
  induction hevents with
  | nil => exact h
  | @cons ws next last event rest hanswer _ ih =>
    have hnext := answer_keeps hfiles hstep h event
    rw [hanswer] at hnext
    exact ih hnext

end Keeps

namespace Serves

variable {tree : FileTree} {places : List Location} {ws : Workspace} {watcher : Watcher}

theorem answer (h : Serves tree places watcher.handler ws) (event : Event) :
    Serves tree places watcher.handler (ws.answer watcher event).1 :=
  answer_keeps (fun _ _ hworking h => h.congr rfl rfl hworking) (fun _ step h => h.take step) h event

theorem answers {last : Workspace} {events : List Event}
    (h : Serves tree places watcher.handler ws) (hevents : Answers watcher ws events last) :
    Serves tree places watcher.handler last :=
  answers_keep (fun _ _ hworking h => h.congr rfl rfl hworking) (fun _ step h => h.take step)
    hevents h

end Serves

/-! ### The end of a watcher -/

theorem play_append {ws middle : Workspace} {watcher : Watcher} {before : List Event}
    (h : Answers watcher ws before middle) (rest : List Event) :
    ws.play watcher (before ++ rest) = middle.play watcher rest := by
  induction h with
  | nil => rfl
  | cons hanswer _ ih =>
    rw [List.cons_append, play, hanswer]
    exact ih

/-- A watcher answers to all events, or up to the first one that ends it. -/
theorem play_cases (ws : Workspace) (watcher : Watcher) (events : List Event) :
    (∃ last, Answers watcher ws events last ∧
        ws.play watcher events = (last, .observerEnded, [])) ∨
      ∃ before event after middle last ending, events = before ++ event :: after ∧
        Answers watcher ws before middle ∧ middle.answer watcher event = (last, some ending) ∧
        ws.play watcher events = (last, ending, after) := by
  induction events generalizing ws with
  | nil => exact .inl ⟨ws, .nil ws, rfl⟩
  | cons event rest ih =>
    cases hanswer : ws.answer watcher event with
    | mk next ending? =>
      cases ending? with
      | some ending =>
        refine .inr ⟨[], event, rest, ws, next, ending, rfl, .nil ws, hanswer, ?_⟩
        rw [play, hanswer]
      | none =>
        have hplay : ws.play watcher (event :: rest) = next.play watcher rest := by
          rw [play, hanswer]
        rw [hplay]
        rcases ih next with ⟨last, hrest, hended⟩ |
          ⟨before, other, after, middle, last, ending, rfl, hbefore, hother, hended⟩
        · exact .inl ⟨last, .cons hanswer hrest, hended⟩
        · exact .inr ⟨event :: before, other, after, middle, last, ending, rfl,
            .cons hanswer hbefore, hother, hended⟩

/-- The observer of a watcher is alive when the watcher ends: an event ended the watcher, before the
observer could come to the end of its events. -/
def ObserverAlive (ws : Workspace) (config : Config) (events : List Event) : Prop :=
  ∃ started actions watcher, ws.setUp config = (started, actions, .ok (some watcher)) ∧
    ∃ before event after middle, events = before ++ event :: after ∧
      Answers watcher started before middle ∧ (middle.answer watcher event).2 ≠ none

/-- A watcher that was set up ends with the observer alive exactly if an event ended it. -/
theorem play_leavesObserver {ws started : Workspace} {config : Config} {actions : List Action}
    {watcher : Watcher} (h : ws.setUp config = (started, actions, .ok (some watcher)))
    (events : List Event) :
    (started.play watcher events).2.1.leavesObserver = true ↔ ws.ObserverAlive config events := by
  constructor
  · intro hleaves
    rcases started.play_cases watcher events with ⟨last, -, hplay⟩ |
      ⟨before, event, after, middle, last, ending, hsplit, hbefore, hanswer, -⟩
    · rw [hplay] at hleaves
      exact absurd hleaves (by simp [Ending.leavesObserver])
    · refine ⟨started, actions, watcher, h, before, event, after, middle, hsplit, hbefore, ?_⟩
      rw [hanswer]
      simp
  · rintro ⟨started', actions', watcher', h', before, event, after, middle, rfl, hbefore, hended⟩
    obtain ⟨rfl, rfl, rfl⟩ : started = started' ∧ actions = actions' ∧ watcher = watcher' := by
      simpa using h.symm.trans h'
    -- the run goes on to the event that ended it, and there the observer is left alive
    rw [play_append hbefore, play]
    cases hanswer : middle.answer watcher event with
    | mk last ending? =>
      cases ending? with
      | none => exact absurd (by rw [hanswer]) hended
      | some ending => exact answer_leavesObserver hanswer

theorem Serves.play {tree : FileTree} {places : List Location} {ws : Workspace}
    {watcher : Watcher} (h : Serves tree places watcher.handler ws) (events : List Event) :
    Serves tree places watcher.handler (ws.play watcher events).1 := by
  rcases ws.play_cases watcher events with ⟨last, hevents, hplay⟩ |
    ⟨before, event, after, middle, last, ending, -, hbefore, hanswer, hplay⟩
  · rw [hplay]
    exact h.answers hevents
  · have hlast := (h.answers hbefore).answer event
    rw [hanswer] at hlast
    rw [hplay]
    exact hlast

/-- After the end of a watcher none of its timers runs. -/
theorem Serves.not_runs_tearDown {tree : FileTree} {places : List Location} {ws : Workspace}
    {watcher : Watcher} (h : Serves tree places watcher.handler ws) (ending : Ending) (i : Nat) :
    ¬ ((ws.tearDown watcher ending).1.debouncer watcher.handler).Runs i := by
  have hcancelled : ∀ {next : Workspace}, Serves tree places watcher.handler next →
      ¬ ((next.cancel watcher.handler).debouncer watcher.handler).Runs i := by
    intro next hnext hruns
    -- a timer that runs is held, but a cancellation leaves none to be held
    have hsome : ((next.take watcher.handler .cancel).debouncer watcher.handler).held.isSome := by
      rw [((hnext.take .cancel).inStep.runs_iff i).mp hruns]
      rfl
    simpa [HandlerStep.Schedules] using (hnext.held_take .cancel).mp hsome
  unfold tearDown
  dsimp only
  split
  · exact hcancelled (h.congr rfl rfl rfl)
  · exact hcancelled h

theorem watch_of_setUp {ws started : Workspace} {config : Config} {actions : List Action}
    {watcher : Watcher} (h : ws.setUp config = (started, actions, .ok (some watcher)))
    (events : List Event) :
    let played := started.play watcher events
    let torn := played.1.tearDown watcher played.2.1
    (ws.watch config events).workspace = torn.1 ∧
      (ws.watch config events).actions = actions ++ torn.2 := by
  unfold watch
  rw [h]
  exact ⟨rfl, rfl⟩

/-- **However a watcher ends, nothing of it runs on.** Once its observer was started, whether the
observer then comes to its end, the user interrupts or a change or a rebuild fails: no timer of its
handler runs, the observer is stopped exactly if it is still alive, and its end is awaited once, as
the last thing that is asked of it. If there was no directory to look at, the observer is never
started and no timer is. -/
theorem watch_ends (ws : Workspace) (config : Config) (events : List Event) :
    let result := ws.watch config events
    (.start ∈ result.actions →
      (∀ i, ¬ (result.workspace.debouncer ws.handlers.length).Runs i) ∧
        (.stop ∈ result.actions ↔ ws.ObserverAlive config events) ∧
        result.actions.count .join = 1 ∧ result.actions.getLast? = some .join) ∧
      ((∀ directory, .observe directory ∉ result.actions) →
        .start ∉ result.actions ∧ result.workspace.started = ws.started) := by
  intro result
  have hcases := ws.setUp_cases config
  generalize hsetUp : ws.setUp config = outcome at hcases
  cases hcases with
  | @failed next actions fault hstarted hactions _ =>
    obtain ⟨hworkspace, hresult⟩ : result.workspace = next ∧ result.actions = actions := by
      simp only [result, watch, hsetUp, and_self]
    have hnot : .start ∉ result.actions := by
      intro hmem
      rw [hresult] at hmem
      exact absurd (hactions.subset hmem) (by simp)
    exact ⟨fun hmem => absurd hmem hnot, fun _ => ⟨hnot, hworkspace ▸ hstarted⟩⟩
  | @empty next hstarted _ _ =>
    obtain ⟨hworkspace, hresult⟩ : result.workspace = next ∧ result.actions = [.makeObserver] := by
      simp only [result, watch, hsetUp, and_self]
    have hnot : .start ∉ result.actions := by
      rw [hresult]
      simp
    exact ⟨fun hmem => absurd hmem hnot, fun _ => ⟨hnot, hworkspace ▸ hstarted⟩⟩
  | @watching next found _ hne _ hserves =>
    obtain ⟨first, hfirst⟩ := List.exists_mem_of_ne_nil found hne
    let watcher : Watcher := ⟨ws.handlers.length, found⟩
    have hwatcher : Serves ws.tree (ws.places config) watcher.handler next := hserves
    have halive := play_leavesObserver hsetUp events
    obtain ⟨hworkspace, hactions⟩ := watch_of_setUp hsetUp events
    have hresult : result.actions = .makeObserver :: found.map .observe ++ [.start] ++
        ((if (next.play watcher events).2.1.leavesObserver then [.stop] else []) ++ [.join]) :=
      hactions
    refine ⟨fun _ => ⟨fun i => ?_, ?_, ?_, ?_⟩, fun hnone => absurd ?_ (hnone first)⟩
    · rw [hworkspace]
      exact (hwatcher.play events).not_runs_tearDown _ i
    · rw [hresult, ← halive]
      cases (next.play watcher events).2.1.leavesObserver <;> simp
    · have hfound : (found.map Action.observe).count .join = 0 :=
        List.count_eq_zero.mpr (by simp)
      rw [hresult]
      cases (next.play watcher events).2.1.leavesObserver <;> simp [hfound]
    · rw [hresult, ← List.append_assoc, List.getLast?_concat]
    · rw [hresult]
      simp [hfirst]

/-- A file is modified, and the user interrupts while the timer runs. -/
theorem watch_ends_interrupted :
    let ws : Workspace := { tree := ⟨[], []⟩ }
    let config : Config :=
      { pairs := [(.ofText (raw "a"), .ofText (raw "b"))], watch := []
        debounce := Config.defaultDebounce, frame := {} }
    let events : List Event := [.modify (raw "a") [], .interrupt, .fire 0]
    let result := ws.watch config events
    .start ∈ result.actions ∧ ws.ObserverAlive config events ∧ result.workspace.started ≠ [] ∧
      (∀ i, ¬ (result.workspace.debouncer 0).Runs i) ∧ .stop ∈ result.actions ∧
      result.actions.count .join = 1 ∧ result.actions.getLast? = some .join := by
  intro ws config events result
  have hstart : .start ∈ result.actions := by decide +kernel
  have hstop : .stop ∈ result.actions := by decide +kernel
  have hstarted : result.workspace.started ≠ [] := by decide +kernel
  obtain ⟨hruns, halive, hjoin, hlast⟩ := (watch_ends ws config events).1 hstart
  exact ⟨hstart, halive.mp hstop, hstarted, hruns, hstop, hjoin, hlast⟩

end Workspace

end LivePage
