/-
One rebuild after a burst of changes.

As long as a timer that elapses is let go of at once, a handler stays in step:
the timer that it holds is the one that runs. So whether a rebuild is to come
can be told from what has happened so far, and timers that elapse give one
rebuild or none:

* `Workspace.ScheduledSince` — a change came after the last cancellation and
  the last rebuild;
* `Workspace.Serves` — what every step of a handler keeps;
* `Workspace.Serves.held_takeAll` — a timer is held exactly if such a change
  came;
* `Workspace.Serves.rebuildCount_fires` — timers that elapse give one rebuild
  if a timer is held, and none otherwise;
* `Workspace.debounced` — all of it, for a handler from its beginning on.

Design notes: changes are judged by the places that the handler was set up
with and the files at that time. Builds write files later on, but a path goes
on to name the same place (`HandlerStep.schedules_congr`).
-/
import Mathlib.Data.List.Induction
import LivePage.Proofs.Text.Basic
import LivePage.Proofs.Watch.Workspace

namespace LivePage

theorem HandlerStep.schedules_congr {tree other : FileTree} (h : tree.working = other.working)
    {places : List Location} (step : HandlerStep) :
    step.Schedules tree places.eraseDups ↔ step.Schedules other places := by
  cases step with
  | modified m =>
    cases m with
    | file path => simp [Schedules, FileTree.resolve_congr h path]
    | directory path => rfl
  | schedule => rfl
  | cancel => rfl
  | fire i => rfl

namespace Workspace

/-! ### What has happened -/

/-- How many rebuilds of a handler some steps run. -/
def rebuildCount (ws : Workspace) (n : Nat) : List HandlerStep → Nat
  | [] => 0
  | step :: rest => (ws.rebuilds n step).toNat + (ws.take n step).rebuildCount n rest

/-- A change that matters came after the last cancellation and the last rebuild. -/
def ScheduledSince (ws : Workspace) (n : Nat) (places : List Location)
    (steps : List HandlerStep) : Prop :=
  ∃ before step after, steps = before ++ step :: after ∧ step.Schedules ws.tree places ∧
    .cancel ∉ after ∧ (ws.takeAll n (before ++ [step])).rebuildCount n after = 0

/-- All timers of the workspace are among those that are let elapse, in any order. -/
def LetsElapse (ws : Workspace) (order : List Int) : Prop :=
  ∀ p < ws.started.length, (p : Int) ∈ order

theorem rebuildCount_append (ws : Workspace) (n : Nat) (steps others : List HandlerStep) :
    ws.rebuildCount n (steps ++ others) =
      ws.rebuildCount n steps + (ws.takeAll n steps).rebuildCount n others := by
  induction steps generalizing ws with
  | nil => exact (Nat.zero_add _).symm
  | cons step rest ih =>
    rw [List.cons_append, rebuildCount, rebuildCount, ih, Nat.add_assoc]
    rfl

theorem rebuildCount_singleton (ws : Workspace) (n : Nat) (step : HandlerStep) :
    ws.rebuildCount n [step] = (ws.rebuilds n step).toNat :=
  Nat.add_zero _

theorem rebuilds_of_schedules {tree : FileTree} {places : List Location} {step : HandlerStep}
    (h : step.Schedules tree places) (ws : Workspace) (n : Nat) : ws.rebuilds n step = false := by
  cases step with
  | fire i => exact absurd h not_false
  | _ => rfl

theorem scheduledSince_append_singleton {ws : Workspace} {n : Nat} {places : List Location}
    {steps : List HandlerStep} {step : HandlerStep} :
    ws.ScheduledSince n places (steps ++ [step]) ↔
      step.Schedules ws.tree places ∨
        ws.ScheduledSince n places steps ∧ step ≠ .cancel ∧
          (ws.takeAll n steps).rebuilds n step = false := by
  have hquiet : ∀ before change after, steps = before ++ change :: after →
      ((ws.takeAll n (before ++ [change])).rebuildCount n (after ++ [step]) = 0 ↔
        (ws.takeAll n (before ++ [change])).rebuildCount n after = 0 ∧
          (ws.takeAll n steps).rebuilds n step = false) := by
    rintro before change after rfl
    rw [rebuildCount_append, rebuildCount_singleton, ← takeAll_append, List.append_assoc,
      List.singleton_append, Nat.add_eq_zero_iff, Bool.toNat_eq_zero]
  constructor
  · rintro ⟨before, change, after, hsplit, hchange, hcancel, hcount⟩
    rcases append_singleton_eq_split hsplit with ⟨-, -, rfl⟩ | ⟨front, rfl, hsteps⟩
    · exact .inl hchange
    · rw [List.mem_append, List.mem_singleton, not_or] at hcancel
      obtain ⟨hfront, hstep⟩ := (hquiet before change front hsteps).mp hcount
      exact .inr ⟨⟨before, change, front, hsteps, hchange, hcancel.1, hfront⟩,
        Ne.symm hcancel.2, hstep⟩
  · rintro (hstep | ⟨⟨before, change, after, hsteps, hchange, hcancel, hcount⟩, hne, hstep⟩)
    · exact ⟨steps, step, [], rfl, hstep, by simp, rfl⟩
    · refine ⟨before, change, after ++ [step], by simp [hsteps], hchange, ?_,
        (hquiet before change after hsteps).mpr ⟨hcount, hstep⟩⟩
      simp [hcancel, Ne.symm hne]

/-! ### What every step keeps -/

/-- A handler of some places, set up when the files were `tree`, that is in step. -/
structure Serves (tree : FileTree) (places : List Location) (n : Nat) (ws : Workspace) :
    Prop where
  /-- The handler is there and answers to the places. -/
  handler : ∃ handler, ws.handlers[n]? = some handler ∧ handler.places = places.eraseDups
  /-- A path names what it named. -/
  working : ws.tree.working = tree.working
  /-- The timer that is held is the one that runs. -/
  inStep : (ws.debouncer n).InStep
  /-- The workspace knows all timers of the handler. -/
  started : ∀ k < (ws.debouncer n).timers.length, ⟨n, k⟩ ∈ ws.started

theorem serves_addHandler (ws : Workspace) (places : List Location) (pairs : Pairs) (frame : Frame)
    (debounce : Seconds) :
    Serves ws.tree places ws.handlers.length (ws.addHandler places pairs frame debounce) := by
  have hhandler : (ws.addHandler places pairs frame debounce).handlers[ws.handlers.length]? =
      some { places := places.eraseDups, pairs, frame, debounce } :=
    List.getElem?_concat_length
  refine ⟨⟨_, hhandler, rfl⟩, rfl, ?_, fun k hk => ?_⟩
  · rw [debouncer_eq hhandler]
    exact .empty
  · rw [debouncer_eq hhandler] at hk
    exact absurd hk (Nat.not_lt_zero k)

namespace Serves

variable {tree : FileTree} {places : List Location} {n : Nat} {ws : Workspace}

theorem take (h : Serves tree places n ws) (step : HandlerStep) :
    Serves tree places n (ws.take n step) := by
  obtain ⟨handler, hhandler, hplaces⟩ := h.handler
  obtain ⟨d, started, htake, hstarted, hturn⟩ := take_cases hhandler step
  have hinStep := h.inStep
  have hknown := h.started
  rw [debouncer_eq hhandler] at hinStep hknown
  refine ⟨⟨_, htake, hplaces⟩, (working_take hhandler step).trans h.working, ?_, ?_⟩
  · rw [debouncer_eq htake]
    cases hturn with
    | schedules => exact hinStep.schedule
    | cancels => exact hinStep.cancel
    | rebuilds _ _ _ helapsed => exact hinStep.release_of_elapse? helapsed
    | passes => exact hinStep
  · rw [debouncer_eq htake, hstarted]
    intro k hk
    cases hturn with
    | schedules =>
      rw [Debouncer.length_schedule] at hk
      rcases Nat.lt_succ_iff_lt_or_eq.mp hk with hk | rfl
      · exact List.mem_append_left _ (hknown k hk)
      · exact List.mem_append_right _ List.mem_cons_self
    | cancels => exact hknown k (handler.debouncer.length_stopHeld ▸ hk)
    | rebuilds _ _ _ helapsed =>
      exact hknown k ((Debouncer.runs_of_elapse? helapsed).2.2.1 ▸ hk)
    | passes => exact hknown k hk

theorem takeAll (h : Serves tree places n ws) (steps : List HandlerStep) :
    Serves tree places n (ws.takeAll n steps) :=
  takeAll_keeps (fun _ step h => h.take step) h steps

/-- After a step a timer is held if the step is a change that matters, or if one was held and the
step neither stopped it nor ran its rebuild. -/
theorem held_take (h : Serves tree places n ws) (step : HandlerStep) :
    ((ws.take n step).debouncer n).held.isSome ↔
      step.Schedules tree places ∨
        (ws.debouncer n).held.isSome ∧ step ≠ .cancel ∧ ws.rebuilds n step = false := by
  obtain ⟨handler, hhandler, hplaces⟩ := h.handler
  obtain ⟨d, started, htake, -, hturn⟩ := take_cases hhandler step
  rw [debouncer_eq hhandler, debouncer_eq htake, ← HandlerStep.schedules_congr h.working,
    ← hplaces]
  cases hturn with
  | schedules hstep => exact iff_of_true rfl (.inl hstep)
  | cancels hstep hcancel =>
    refine iff_of_false Bool.false_ne_true ?_
    rintro (hstep' | ⟨-, hne, -⟩)
    · exact hstep hstep'
    · exact hne hcancel
  | rebuilds hstep _ hrebuilds =>
    refine iff_of_false Bool.false_ne_true ?_
    rintro (hstep' | ⟨-, -, hrebuilds'⟩)
    · exact hstep hstep'
    · rw [hrebuilds] at hrebuilds'
      exact absurd hrebuilds' (by simp)
  | passes hstep hne hrebuilds =>
    rw [or_iff_right hstep]
    exact ⟨fun hheld => ⟨hheld, hne, hrebuilds⟩, fun hheld => hheld.1⟩

/-- Only a timer that is held gives a rebuild. -/
theorem held_of_rebuilds (h : Serves tree places n ws) {step : HandlerStep}
    (hstep : ws.rebuilds n step = true) : (ws.debouncer n).held.isSome := by
  obtain ⟨handler, hhandler, -⟩ := h.handler
  obtain ⟨d, started, -, -, hturn⟩ := take_cases hhandler step
  have hfalse : ws.rebuilds n step ≠ false := by simp [hstep]
  cases hturn with
  | schedules _ _ hrebuilds => exact absurd hrebuilds hfalse
  | cancels _ _ hrebuilds => exact absurd hrebuilds hfalse
  | rebuilds _ _ _ helapsed =>
    rw [← h.inStep.exists_runs_iff, debouncer_eq hhandler]
    exact ⟨_, (Debouncer.runs_of_elapse? helapsed).1⟩
  | passes _ _ hrebuilds => exact absurd hrebuilds hfalse

/-- A timer is held exactly if a change came after the last cancellation and the last rebuild. -/
theorem held_takeAll (h : Serves ws.tree places n ws) (hnone : (ws.debouncer n).held = none)
    (steps : List HandlerStep) :
    ((ws.takeAll n steps).debouncer n).held.isSome ↔ ws.ScheduledSince n places steps := by
  induction steps using List.reverseRecOn with
  | nil =>
    refine iff_of_false (by rw [Workspace.takeAll, List.foldl_nil, hnone]; simp) ?_
    rintro ⟨before, step, after, hsplit, -⟩
    exact absurd hsplit (by simp)
  | append_singleton steps step ih =>
    rw [takeAll_append, scheduledSince_append_singleton, ← ih]
    exact (h.takeAll steps).held_take step

/-! ### Timers that elapse -/

/-- Timers that elapse, the one that is held among them, give one rebuild if there is one. -/
theorem rebuildCount_fires (h : Serves tree places n ws) {order : List Int}
    (horder : ∀ k, (ws.debouncer n).held = some k →
      ∃ p : Nat, (p : Int) ∈ order ∧ ws.started[p]? = some ⟨n, k⟩) :
    ws.rebuildCount n (order.map .fire) = (ws.debouncer n).held.isSome.toNat := by
  induction order generalizing ws with
  | nil =>
    cases hheld : (ws.debouncer n).held with
    | none => rfl
    | some k =>
      obtain ⟨p, hp, -⟩ := horder k hheld
      exact absurd hp (by simp)
  | cons i rest ih =>
    have hnext := h.take (.fire i)
    have hheld := h.held_take (.fire i)
    rw [List.map_cons, rebuildCount]
    cases hrebuilds : ws.rebuilds n (.fire i) with
    -- the rebuild leaves no timer for the others
    | true =>
      have hnone : ((ws.take n (.fire i)).debouncer n).held = none := by
        rw [hrebuilds] at hheld
        simpa [HandlerStep.Schedules] using hheld
      rw [ih hnext (by simp [hnone]), hnone, h.held_of_rebuilds hrebuilds]
      rfl
    -- the timer that is held is still to come
    | false =>
      obtain ⟨handler, hhandler, -⟩ := h.handler
      have hsame : (ws.take n (.fire i)).debouncer n = ws.debouncer n ∧
          (ws.take n (.fire i)).started = ws.started := by
        obtain ⟨d, started, htake, hstarted, hturn⟩ := take_cases hhandler (.fire i)
        rw [debouncer_eq hhandler, debouncer_eq htake, hstarted]
        cases hturn with
        | schedules hstep => exact absurd hstep not_false
        | cancels _ hcancel => exact absurd hcancel (by simp)
        | rebuilds _ _ htrue => exact absurd (hrebuilds.symm.trans htrue) (by simp)
        | passes => exact ⟨rfl, rfl⟩
      rw [Bool.toNat_false, Nat.zero_add, ih hnext, hsame.1]
      rw [hsame.1, hsame.2]
      intro k hk
      obtain ⟨p, hp, hstarted⟩ := horder k hk
      refine ⟨p, (List.mem_cons.mp hp).resolve_left ?_, hstarted⟩
      rintro rfl
      have hruns : handler.debouncer.Runs k := by
        rw [← debouncer_eq hhandler]
        exact (h.inStep.runs_iff k).mpr hk
      have href : ws.timer? (p : Int) = some ⟨n, k⟩ := by
        rw [timer?, if_neg (by omega), if_neg (by omega), Int.toNat_natCast, hstarted]
      have htrue : ws.rebuilds n (.fire p) = true := by
        rw [Workspace.rebuilds, fire?_isSome href hhandler hruns, href]
        simp
      rw [hrebuilds] at htrue
      exact absurd htrue (by simp)

theorem rebuildCount_of_letsElapse (h : Serves tree places n ws) {order : List Int}
    (horder : ws.LetsElapse order) :
    ws.rebuildCount n (order.map .fire) = (ws.debouncer n).held.isSome.toNat := by
  refine h.rebuildCount_fires fun k hk => ?_
  have hlast := h.inStep.last k hk
  obtain ⟨p, hp, hstarted⟩ := List.mem_iff_getElem.mp (h.started k (by omega))
  exact ⟨p, horder p hp, by rw [List.getElem?_eq_getElem hp, hstarted]⟩

/-- Without a timer that is held, no rebuild runs until the next change. -/
theorem rebuildCount_of_none (h : Serves tree places n ws)
    (hnone : (ws.debouncer n).held = none) {steps : List HandlerStep}
    (hsteps : ∀ step ∈ steps, ¬ step.Schedules tree places) : ws.rebuildCount n steps = 0 := by
  induction steps generalizing ws with
  | nil => rfl
  | cons step rest ih =>
    have hrebuilds : ws.rebuilds n step = false := by
      by_contra htrue
      have hheld := h.held_of_rebuilds (by simpa using htrue)
      rw [hnone] at hheld
      exact absurd hheld (by simp)
    have hnext : ((ws.take n step).debouncer n).held = none := by
      have hheld := h.held_take step
      rw [hnone] at hheld
      simpa [hsteps step List.mem_cons_self] using hheld
    rw [rebuildCount, hrebuilds, ih (h.take step) hnext fun other hother =>
      hsteps other (List.mem_cons_of_mem step hother)]
    rfl

end Serves

/-! ### A handler from its beginning on -/

theorem rebuildCount_of_schedules {tree : FileTree} {places : List Location}
    {steps : List HandlerStep} (h : ∀ step ∈ steps, step.Schedules tree places) (ws : Workspace)
    (n : Nat) : ws.rebuildCount n steps = 0 := by
  induction steps generalizing ws with
  | nil => rfl
  | cons step rest ih =>
    rw [rebuildCount, rebuilds_of_schedules (h step List.mem_cons_self),
      ih fun other hother => h other (List.mem_cons_of_mem step hother)]
    rfl

theorem scheduledSince_append_burst {ws : Workspace} {n : Nat} {places : List Location}
    {burst : List HandlerStep} (hne : burst ≠ [])
    (h : ∀ step ∈ burst, step.Schedules ws.tree places) (steps : List HandlerStep) :
    ws.ScheduledSince n places (steps ++ burst) := by
  obtain ⟨front, last, rfl⟩ := (List.eq_nil_or_concat' burst).resolve_left hne
  refine ⟨steps ++ front, last, [], by simp, h last (by simp), by simp, rfl⟩

/-- **A burst of changes gives one rebuild, and no change is lost.** Whatever steps a handler has
taken since it was set up: at most one of its timers runs; one runs exactly if a change that matters
came after the last cancellation and the last rebuild; it is the timer that was started last and the
one that is held, and if none runs then none is held. So timers that are let elapse give exactly one
rebuild after such a change, in particular after a burst of any length, and after a cancellation
there is no rebuild before the next change. -/
theorem debounced (start : Workspace) (places : List Location) (pairs : Pairs) (frame : Frame)
    (debounce : Seconds) (steps : List HandlerStep) :
    let n := start.handlers.length
    let ws := start.addHandler places pairs frame debounce
    let d := (ws.takeAll n steps).debouncer n
    (∀ i j, d.Runs i → d.Runs j → i = j) ∧
      ((∃ i, d.Runs i) ↔ ws.ScheduledSince n places steps) ∧
      (∀ i, d.Runs i → i + 1 = d.timers.length ∧ d.held = some i) ∧
      ((¬ ∃ i, d.Runs i) → d.held = none) ∧
      (∀ burst order, burst ≠ [] → (∀ step ∈ burst, step.Schedules ws.tree places) →
        (ws.takeAll n (steps ++ burst)).LetsElapse order →
        (ws.takeAll n steps).rebuildCount n (burst ++ order.map .fire) = 1) ∧
      (∀ order, ws.ScheduledSince n places steps → (ws.takeAll n steps).LetsElapse order →
        (ws.takeAll n steps).rebuildCount n (order.map .fire) = 1) ∧
      ∀ after, (∀ step ∈ after, ¬ step.Schedules ws.tree places) →
        (ws.takeAll n (steps ++ [.cancel])).rebuildCount n after = 0 := by
  intro n ws d
  have hstart : Serves ws.tree places n ws := serves_addHandler start places pairs frame debounce
  have hfresh : (ws.debouncer n).held = none := by
    rw [debouncer_eq (List.getElem?_concat_length)]
  have hserves : ∀ steps, Serves ws.tree places n (ws.takeAll n steps) := hstart.takeAll
  have hheld : ∀ steps, ((ws.takeAll n steps).debouncer n).held.isSome ↔
      ws.ScheduledSince n places steps := hstart.held_takeAll hfresh
  have hone : ∀ steps order, ws.ScheduledSince n places steps →
      (ws.takeAll n steps).LetsElapse order →
      (ws.takeAll n steps).rebuildCount n (order.map .fire) = 1 := by
    intro steps order hsince horder
    rw [(hserves steps).rebuildCount_of_letsElapse horder, (hheld steps).mpr hsince]
    rfl
  have hinStep : d.InStep := (hserves steps).inStep
  refine ⟨fun i j => hinStep.eq_of_runs, ?_, fun i hi => ?_, fun hnone => ?_, ?_, hone steps, ?_⟩
  · rw [hinStep.exists_runs_iff, hheld]
  · have hi' := (hinStep.runs_iff i).mp hi
    exact ⟨hinStep.last i hi', hi'⟩
  · rw [hinStep.exists_runs_iff] at hnone
    simpa using hnone
  · intro burst order hne hburst horder
    have hsince := scheduledSince_append_burst (n := n) hne hburst steps
    rw [rebuildCount_append, rebuildCount_of_schedules hburst, ← takeAll_append,
      hone _ order hsince horder]
  · intro after hafter
    refine (hserves (steps ++ [.cancel])).rebuildCount_of_none ?_ hafter
    have hcancelled : ¬ ws.ScheduledSince n places (steps ++ [.cancel]) := by
      rw [scheduledSince_append_singleton]
      simp [HandlerStep.Schedules]
    rw [← hheld] at hcancelled
    simpa using hcancelled

/-- Two modifications of one file, the second while the timer of the first one runs. -/
theorem debounced_file :
    let ws := { tree := ⟨[], []⟩ : Workspace }.addHandler [[raw "a"]] [] {} (.whole 1)
    let burst : List HandlerStep :=
      [.modified (.file (.ofText (raw "a"))), .modified (.file (.ofText (raw "./a")))]
    (∀ step ∈ burst, step.Schedules ws.tree [[raw "a"]]) ∧
      (ws.takeAll 0 burst).LetsElapse [0, 1] ∧
      ws.rebuildCount 0 (burst ++ [0, 1].map .fire) = 1 := by
  intro ws burst
  have hburst : ∀ step ∈ burst, step.Schedules ws.tree [[raw "a"]] := by
    intro step hstep
    rcases List.mem_pair.mp hstep with rfl | rfl
    · exact ⟨[raw "a"], by simp, by decide +kernel⟩
    · exact ⟨[raw "a"], by simp, by decide +kernel⟩
  have horder : (ws.takeAll 0 burst).LetsElapse [0, 1] := by
    unfold LetsElapse
    decide +kernel
  obtain ⟨-, -, -, -, hone, -⟩ := debounced { tree := ⟨[], []⟩ } [[raw "a"]] [] {} (.whole 1) []
  exact ⟨hburst, horder, hone burst [0, 1] (by simp [burst]) hburst horder⟩

end Workspace

end LivePage
