/-
What the steps of a debouncer do to its timers.

* `Debouncer.Runs` — a timer has started and has neither elapsed nor been
  stopped;
* `Debouncer.runs_schedule`, `Debouncer.runs_cancel`,
  `Debouncer.runs_of_elapse?` — which timers run after a step;
* `Debouncer.InStep` — the timer that is held is the one that runs. Each step
  keeps a debouncer in step if a timer that elapses is let go of at once.
-/
import Mathlib.Data.List.Basic
import LivePage.Watch.Debouncer

namespace LivePage

namespace Debouncer

/-- Whether a timer runs. -/
def Runs (d : Debouncer) (i : Nat) : Prop :=
  d.timers[i]? = some .running

instance (d : Debouncer) (i : Nat) : Decidable (d.Runs i) :=
  inferInstanceAs (Decidable (d.timers[i]? = some .running))

theorem Runs.lt_length {d : Debouncer} {i : Nat} (h : d.Runs i) : i < d.timers.length :=
  (List.getElem?_eq_some_iff.mp h).choose

/-! ### Which timers run after a step -/

theorem length_stopHeld (d : Debouncer) : d.stopHeld.length = d.timers.length := by
  unfold stopHeld
  split
  · rfl
  · rw [List.length_modify]

theorem length_schedule (d : Debouncer) : d.schedule.timers.length = d.timers.length + 1 := by
  rw [schedule, List.length_append, length_stopHeld, List.length_singleton]

/-- Stopping the timer that is held stops no other. -/
theorem getElem?_stopHeld_eq_running (d : Debouncer) (i : Nat) :
    d.stopHeld[i]? = some .running ↔ d.Runs i ∧ d.held ≠ some i := by
  have hcancel : ∀ status : TimerStatus, status.cancel ≠ .running := by
    intro status
    cases status <;> decide
  unfold stopHeld Runs
  cases hheld : d.held with
  | none => simp
  | some j =>
    dsimp only
    by_cases hij : j = i
    · subst hij
      rw [List.getElem?_modify_eq]
      constructor
      · intro h
        obtain ⟨status, -, hstatus⟩ := Option.map_eq_some_iff.mp h
        exact absurd hstatus (hcancel status)
      · rintro ⟨-, hne⟩
        exact absurd rfl hne
    · rw [List.getElem?_modify_ne _ _ hij]
      simp [hij]

theorem runs_cancel (d : Debouncer) (i : Nat) : d.cancel.Runs i ↔ d.Runs i ∧ d.held ≠ some i :=
  d.getElem?_stopHeld_eq_running i

/-- Beside the new timer, those run that were not held. -/
theorem runs_schedule (d : Debouncer) (i : Nat) :
    d.schedule.Runs i ↔ i = d.timers.length ∨ d.Runs i ∧ d.held ≠ some i := by
  rw [← getElem?_stopHeld_eq_running]
  show (d.stopHeld ++ [.running])[i]? = some .running ↔ _
  rcases Nat.lt_trichotomy i d.timers.length with hlt | rfl | hgt
  · rw [List.getElem?_append_left (by rw [length_stopHeld]; exact hlt)]
    exact ⟨.inr, fun h => h.resolve_left (by omega)⟩
  · rw [List.getElem?_append_right (Nat.le_of_eq d.length_stopHeld), length_stopHeld, Nat.sub_self]
    simp
  · have hnone : (d.stopHeld ++ [.running])[i]? = none := by
      rw [List.getElem?_eq_none_iff, List.length_append, length_stopHeld]
      exact hgt
    have hold : d.stopHeld[i]? = none := by
      rw [List.getElem?_eq_none_iff, length_stopHeld]
      omega
    rw [hnone, hold]
    simp
    omega

/-- Only a timer that runs elapses, and it runs no more. -/
theorem runs_of_elapse? {d d' : Debouncer} {k : Nat} (h : d.elapse? k = some d') :
    d.Runs k ∧ d'.held = d.held ∧ d'.timers.length = d.timers.length ∧
      ∀ i, d'.Runs i ↔ d.Runs i ∧ i ≠ k := by
  unfold elapse? at h
  split at h
  · rename_i hk
    rw [Option.some_inj] at h
    subst h
    refine ⟨hk, rfl, List.length_set, fun i => ?_⟩
    have hlt : k < d.timers.length := Runs.lt_length hk
    show (d.timers.set k .fired)[i]? = some .running ↔ _
    by_cases hik : i = k
    · subst hik
      rw [List.getElem?_set_self hlt]
      simp
    · rw [List.getElem?_set_ne (Ne.symm hik)]
      exact ⟨fun hi => ⟨hi, hik⟩, fun hi => hi.1⟩
  · exact absurd h (by simp)

theorem elapse?_isSome (d : Debouncer) (k : Nat) : (d.elapse? k).isSome = true ↔ d.Runs k := by
  unfold elapse? Runs
  split <;> simp [*]

/-! ### Debouncers in step -/

/-- The timer that is held, and no other, runs, and it was started last. -/
structure InStep (d : Debouncer) : Prop where
  /-- A timer runs exactly if it is held. -/
  runs_iff : ∀ i, d.Runs i ↔ d.held = some i
  /-- It is the last one. -/
  last : ∀ i, d.held = some i → i + 1 = d.timers.length

namespace InStep

theorem empty : InStep {} where
  runs_iff i := by simp [Runs]
  last i h := absurd h (by simp)

theorem eq_of_runs {d : Debouncer} (h : d.InStep) {i j : Nat} (hi : d.Runs i) (hj : d.Runs j) :
    i = j := by
  have hheld := ((h.runs_iff i).mp hi).symm.trans ((h.runs_iff j).mp hj)
  exact Option.some_inj.mp hheld

theorem exists_runs_iff {d : Debouncer} (h : d.InStep) : (∃ i, d.Runs i) ↔ d.held.isSome := by
  rw [Option.isSome_iff_exists]
  exact exists_congr h.runs_iff

theorem schedule {d : Debouncer} (h : d.InStep) : d.schedule.InStep where
  runs_iff i := by
    rw [runs_schedule, h.runs_iff]
    constructor
    · rintro (rfl | ⟨hheld, hne⟩)
      · rfl
      · exact absurd hheld hne
    · intro hi
      exact .inl (Option.some_inj.mp hi).symm
  last i hi := by
    rw [← Option.some_inj.mp hi, length_schedule]

theorem cancel {d : Debouncer} (h : d.InStep) : d.cancel.InStep where
  runs_iff i := by
    rw [runs_cancel, h.runs_iff]
    constructor
    · rintro ⟨hheld, hne⟩
      exact absurd hheld hne
    · intro hi
      exact absurd hi (by simp [Debouncer.cancel])
  last i hi := absurd hi (by simp [Debouncer.cancel])

/-- The timer that elapses is the one that is held, so nothing is lost when it is let go of. -/
theorem release_of_elapse? {d d' : Debouncer} (h : d.InStep) {k : Nat}
    (hk : d.elapse? k = some d') : d'.release.InStep where
  runs_iff i := by
    obtain ⟨hruns, -, -, hother⟩ := runs_of_elapse? hk
    constructor
    · intro hi
      obtain ⟨hi, hne⟩ := (hother i).mp hi
      exact absurd (h.eq_of_runs hi hruns) hne
    · intro hi
      exact absurd hi (by simp [release])
  last i hi := absurd hi (by simp [release])

end InStep

end Debouncer

end LivePage
