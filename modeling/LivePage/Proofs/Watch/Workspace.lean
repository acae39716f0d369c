/-
What the steps of a handler do to a workspace.

* `HandlerStep`, `Workspace.take` — what can happen to a handler;
* `HandlerStep.Schedules`, `Workspace.rebuilds` — the steps that are a change
  that matters, and those that run a rebuild;
* `Workspace.take_cases` — all that a step can do to its handler;
* `Workspace.working_take` — no step moves the working directory, so what a
  path names stays the same.

Design notes: a firing may be that of any timer of the workspace. Those of
other handlers rebuild other pairs and leave the handler alone, and are
passed over in `take_cases` like a firing that finds its timer stopped.
-/
import LivePage.Watch.Workspace
import LivePage.Proofs.Build
import LivePage.Proofs.Watch.Debouncer

namespace LivePage

/-! ### Steps -/

/-- What can happen to a handler. -/
inductive HandlerStep where
  /-- It hears of a modification. -/
  | modified (m : Modification)
  /-- Its timer is restarted. -/
  | schedule
  /-- Its timer is stopped. -/
  | cancel
  /-- A timer of the workspace elapses. -/
  | fire (i : Int)
deriving DecidableEq, Repr

/-- The step is a change that matters to a handler of some places: it restarts the timer, or a file
was modified whose path names one of the places. -/
def HandlerStep.Schedules (tree : FileTree) (places : List Location) : HandlerStep → Prop
  | .schedule => True
  | .modified (.file path) => ∃ place ∈ places, tree.resolve path = .ok place
  | .modified (.directory _) | .cancel | .fire _ => False

namespace Workspace

/-- The timers of a handler. -/
def debouncer (ws : Workspace) (n : Nat) : Debouncer :=
  (ws.handlers[n]?.map Handler.debouncer).getD {}

/-- A handler takes a step. A fault ends what the step does and nothing else. -/
def take (ws : Workspace) (n : Nat) : HandlerStep → Workspace
  | .modified m => (ws.modified n m).1
  | .schedule => ws.schedule n
  | .cancel => ws.cancel n
  | .fire i => ((ws.fire? i).map Prod.fst).getD ws

/-- A handler takes steps one after the other. -/
def takeAll (ws : Workspace) (n : Nat) (steps : List HandlerStep) : Workspace :=
  steps.foldl (·.take n ·) ws

/-- Whether a step runs the rebuild of a handler: one of its timers elapses. -/
def rebuilds (ws : Workspace) (n : Nat) : HandlerStep → Bool
  | .fire i => (ws.fire? i).isSome && (ws.timer? i).any (·.handler == n)
  | .modified _ | .schedule | .cancel => false

theorem takeAll_append (ws : Workspace) (n : Nat) (steps others : List HandlerStep) :
    ws.takeAll n (steps ++ others) = (ws.takeAll n steps).takeAll n others :=
  List.foldl_append

/-- What each step of a handler keeps, all of them keep. -/
theorem takeAll_keeps {n : Nat} {P : Workspace → Prop}
    (hstep : ∀ ws step, P ws → P (ws.take n step)) {ws : Workspace} (h : P ws)
    (steps : List HandlerStep) : P (ws.takeAll n steps) := by
  induction steps generalizing ws with
  | nil => exact h
  | cons step rest ih => exact ih (hstep ws step h)

theorem debouncer_eq {ws : Workspace} {n : Nat} {handler : Handler}
    (h : ws.handlers[n]? = some handler) : ws.debouncer n = handler.debouncer := by
  rw [debouncer, h]
  rfl

theorem handlers_mapDebouncer_self {ws : Workspace} {n : Nat} {handler : Handler}
    (h : ws.handlers[n]? = some handler) (f : Debouncer → Debouncer) :
    (ws.mapDebouncer n f).handlers[n]? =
      some { handler with debouncer := f handler.debouncer } := by
  show (ws.handlers.modify n (Handler.mapDebouncer f))[n]? = _
  rw [List.getElem?_modify_eq, h]
  rfl

theorem handlers_mapDebouncer_ne {m n : Nat} (h : m ≠ n) (ws : Workspace)
    (f : Debouncer → Debouncer) : (ws.mapDebouncer m f).handlers[n]? = ws.handlers[n]? :=
  List.getElem?_modify_ne _ _ h

/-! ### One handler at a time -/

theorem schedule_eq {ws : Workspace} {n : Nat} {handler : Handler}
    (h : ws.handlers[n]? = some handler) :
    ws.schedule n =
      { ws.mapDebouncer n Debouncer.schedule with
        started := ws.started ++ [⟨n, handler.debouncer.timers.length⟩] } := by
  unfold schedule
  rw [h]

/-- A rebuild lets go of the timer of its handler, and otherwise changes files and records only. -/
theorem rebuild_fst (ws : Workspace) (n : Nat) :
    (ws.rebuild n).1.handlers = (ws.mapDebouncer n Debouncer.release).handlers ∧
      (ws.rebuild n).1.started = ws.started ∧
      (ws.rebuild n).1.tree.working = ws.tree.working := by
  unfold rebuild
  cases hhandler : ws.handlers[n]? with
  | none =>
    have hlength : ws.handlers.length ≤ n := List.getElem?_eq_none_iff.mp hhandler
    refine ⟨?_, rfl, rfl⟩
    show ws.handlers = ws.handlers.modify n _
    rw [List.modify_eq_self hlength]
  | some handler =>
    refine ⟨rfl, rfl, ?_⟩
    exact working_build handler.frame ws.tree handler.pairs

theorem fire?_eq_some {ws : Workspace} {i : Int} {result : Workspace × Option FileFault}
    (h : ws.fire? i = some result) :
    ∃ ref handler d, ws.timer? i = some ref ∧ ws.handlers[ref.handler]? = some handler ∧
      handler.debouncer.elapse? ref.index = some d ∧
      result = (ws.mapDebouncer ref.handler fun _ => d).rebuild ref.handler := by
  unfold fire? at h
  simp only [Option.bind_eq_bind, Option.bind_eq_some_iff, Option.some_inj] at h
  obtain ⟨ref, href, handler, hhandler, d, hd, hresult⟩ := h
  exact ⟨ref, handler, d, href, hhandler, hd, hresult.symm⟩

/-- A timer of a handler that runs can be fired. -/
theorem fire?_isSome {ws : Workspace} {n k : Nat} {i : Int} {handler : Handler}
    (href : ws.timer? i = some ⟨n, k⟩) (hhandler : ws.handlers[n]? = some handler)
    (hk : handler.debouncer.Runs k) : (ws.fire? i).isSome = true := by
  obtain ⟨d, hd⟩ := Option.isSome_iff_exists.mp ((handler.debouncer.elapse?_isSome k).mpr hk)
  unfold fire?
  rw [href]
  simp [hhandler, hd]

/-- A modification is a change that matters and restarts the timer, or it is passed over. -/
theorem modified_fst {ws : Workspace} {n : Nat} {handler : Handler}
    (h : ws.handlers[n]? = some handler) (m : Modification) :
    ((HandlerStep.modified m).Schedules ws.tree handler.places ∧
        ∃ message, (ws.modified n m).1 = (ws.record .info message).schedule n) ∨
      (¬ (HandlerStep.modified m).Schedules ws.tree handler.places ∧ (ws.modified n m).1 = ws) := by
  cases m with
  | directory path => exact .inr ⟨not_false, rfl⟩
  | file path =>
    have hschedules : (HandlerStep.modified (.file path)).Schedules ws.tree handler.places ↔
        ∃ place, handler.sees place = true ∧ ws.tree.resolve path = .ok place := by
      simp [HandlerStep.Schedules, Handler.sees]
    rw [hschedules]
    cases hplace : ws.tree.resolve path with
    | error fault => exact .inr ⟨by simp, by simp only [modified, hplace]⟩
    | ok place =>
      by_cases hsees : handler.sees place = true
      · refine .inl ⟨⟨place, hsees, rfl⟩, raw "Detected modification in: " ++ place.text, ?_⟩
        simp only [modified, hplace, h, if_pos hsees]
      · refine .inr ⟨?_, by simp only [modified, hplace, h, if_neg hsees]⟩
        rintro ⟨other, hother, hok⟩
        rw [← Except.ok.inj hok] at hother
        exact hsees hother

/-- No step moves the working directory. -/
theorem working_take {ws : Workspace} {n : Nat} {handler : Handler}
    (h : ws.handlers[n]? = some handler) (step : HandlerStep) :
    (ws.take n step).tree.working = ws.tree.working := by
  cases step with
  | modified m =>
    rcases modified_fst h m with ⟨-, message, hmodified⟩ | ⟨-, hmodified⟩
    · have hrecorded : (ws.record .info message).handlers[n]? = some handler := h
      rw [take, hmodified, schedule_eq hrecorded]
      rfl
    · rw [take, hmodified]
  | schedule =>
    rw [take, schedule_eq h]
    rfl
  | cancel => rfl
  | fire i =>
    rw [take]
    cases hfire : ws.fire? i with
    | none => rfl
    | some result =>
      obtain ⟨ref, owner, d, -, -, -, rfl⟩ := fire?_eq_some hfire
      exact (rebuild_fst _ _).2.2

/-- What a step is to its handler, with the timers of the handler and all timers of the workspace
after it. -/
inductive Turn (ws : Workspace) (n : Nat) (handler : Handler) (step : HandlerStep) :
    Debouncer → List TimerRef → Prop
  /-- A change that matters starts a timer. -/
  | schedules : step.Schedules ws.tree handler.places → step ≠ .cancel →
      ws.rebuilds n step = false →
      Turn ws n handler step handler.debouncer.schedule
        (ws.started ++ [⟨n, handler.debouncer.timers.length⟩])
  /-- A cancellation stops the timer that is held. -/
  | cancels : ¬ step.Schedules ws.tree handler.places → step = .cancel →
      ws.rebuilds n step = false →
      Turn ws n handler step handler.debouncer.cancel ws.started
  /-- A timer of the handler elapses, and its rebuild lets go of it. -/
  | rebuilds {k : Nat} {elapsed : Debouncer} : ¬ step.Schedules ws.tree handler.places →
      step ≠ .cancel → ws.rebuilds n step = true →
      handler.debouncer.elapse? k = some elapsed →
      Turn ws n handler step elapsed.release ws.started
  /-- Anything else leaves the handler alone. -/
  | passes : ¬ step.Schedules ws.tree handler.places → step ≠ .cancel →
      ws.rebuilds n step = false →
      Turn ws n handler step handler.debouncer ws.started

/-- All that a step can do to its handler. -/
theorem take_cases {ws : Workspace} {n : Nat} {handler : Handler}
    (h : ws.handlers[n]? = some handler) (step : HandlerStep) :
    ∃ d started, (ws.take n step).handlers[n]? = some { handler with debouncer := d } ∧
      (ws.take n step).started = started ∧ ws.Turn n handler step d started := by
  cases step with
  | schedule =>
    rw [take, schedule_eq h]
    exact ⟨_, _, handlers_mapDebouncer_self h Debouncer.schedule, rfl,
      .schedules trivial (by simp) rfl⟩
  | cancel =>
    exact ⟨_, _, handlers_mapDebouncer_self h Debouncer.cancel, rfl, .cancels not_false rfl rfl⟩
  | modified m =>
    rw [take]
    rcases modified_fst h m with ⟨hschedules, message, hmodified⟩ | ⟨hschedules, hmodified⟩
    · have hrecorded : (ws.record .info message).handlers[n]? = some handler := h
      rw [hmodified, schedule_eq hrecorded]
      exact ⟨_, _, handlers_mapDebouncer_self hrecorded Debouncer.schedule, rfl,
        .schedules hschedules (by simp) rfl⟩
    · rw [hmodified]
      exact ⟨_, _, h, rfl, .passes hschedules (by simp) rfl⟩
  | fire i =>
    cases hfire : ws.fire? i with
    | none =>
      have htake : ws.take n (.fire i) = ws := by
        rw [take, hfire]
        rfl
      have hrebuilds : ws.rebuilds n (.fire i) = false := by
        rw [Workspace.rebuilds, hfire]
        rfl
      rw [htake]
      exact ⟨_, _, h, rfl, .passes not_false (by simp) hrebuilds⟩
    | some result =>
      obtain ⟨ref, owner, elapsed, href, howner, helapsed, rfl⟩ := fire?_eq_some hfire
      have htake : ws.take n (.fire i) =
          ((ws.mapDebouncer ref.handler fun _ => elapsed).rebuild ref.handler).1 := by
        rw [take, hfire]
        rfl
      have hrebuilds : ws.rebuilds n (.fire i) = (ref.handler == n) := by
        rw [Workspace.rebuilds, hfire, href]
        rfl
      obtain ⟨hhandlers, hstarted, -⟩ :=
        rebuild_fst (ws.mapDebouncer ref.handler fun _ => elapsed) ref.handler
      rw [htake, hhandlers]
      by_cases hn : ref.handler = n
      · subst hn
        rw [h] at howner
        rw [← Option.some_inj.mp howner] at helapsed
        refine ⟨elapsed.release, _, ?_, hstarted,
          .rebuilds not_false (by simp) (by simp [hrebuilds]) helapsed⟩
        exact handlers_mapDebouncer_self (handlers_mapDebouncer_self h fun _ => elapsed)
          Debouncer.release
      -- the timer is another handler's
      · refine ⟨handler.debouncer, _, ?_, hstarted, .passes not_false (by simp) ?_⟩
        · rw [handlers_mapDebouncer_ne hn, handlers_mapDebouncer_ne hn, h]
        · rw [hrebuilds]
          exact beq_false_of_ne hn

end Workspace

end LivePage
