/-
Rebuilds that overlap with later changes.

A timer elapses, and its rebuild lets go of the timer that is held in a
section of its own. A change that falls between the two starts another timer,
and it is this one that the rebuild lets go of. It still runs, but nothing
holds it any more, so neither a later change nor the end of a watcher stops
it:

* `Section`, `Overlap.run?` — the sections of a handler in any order in which
  they can follow each other;
* `Strays` — a timer was let go of before it elapsed;
* `Overlap.tracks` — what is held and what runs, by the sections so far;
* `Overlap.overlaps_of_strays` — no timer strays unless a change falls between
  the elapse of a timer and its rebuild;
* `Overlap.runs_cancel_iff_strays` — the timers that run after a cancellation
  are those that stray, and only because of them can two timers run or a
  rebuild begin after a cancellation.

Design notes: a timer is named by the number of changes before the one that
started it. `Holds` and `LetGo` are said of the order of the sections alone,
and `Tracks` ties them to the state, so that the condition for a timer to
stray is one on interleavings.
-/
import Mathlib.Data.List.Induction
import LivePage.Proofs.Text.Basic
import LivePage.Proofs.Watch.Debouncer

namespace LivePage

/-! ### Interleavings -/

/-- A part of a handler's work that no other part falls into. -/
inductive Section where
  /-- A change restarts the timer. -/
  | schedule
  /-- The timer is stopped. -/
  | cancel
  /-- A timer elapses, and its rebuild is to begin. -/
  | elapse (i : Nat)
  /-- The rebuild of a timer that elapsed lets go of the timer that is held. -/
  | release (i : Nat)
deriving DecidableEq, Repr

/-- Timers, with the rebuilds that are to begin. -/
structure Overlap where
  /-- The timers. -/
  debouncer : Debouncer := {}
  /-- The timers that have elapsed and whose rebuild has yet to let go. -/
  rebuilding : List Nat := []
deriving DecidableEq, Repr

namespace Overlap

/-- What a section does, if it can come next. -/
def step? (o : Overlap) : Section → Option Overlap
  | .schedule => some { o with debouncer := o.debouncer.schedule }
  | .cancel => some { o with debouncer := o.debouncer.cancel }
  | .elapse i => (o.debouncer.elapse? i).map fun d => ⟨d, i :: o.rebuilding⟩
  | .release i =>
    if i ∈ o.rebuilding then some ⟨o.debouncer.release, o.rebuilding.erase i⟩ else none

/-- What sections do, if they can follow each other. -/
def run? (o : Overlap) : List Section → Option Overlap
  | [] => some o
  | a :: rest => (o.step? a).bind (·.run? rest)

theorem run?_append (o : Overlap) (before after : List Section) :
    o.run? (before ++ after) = (o.run? before).bind (·.run? after) := by
  induction before generalizing o with
  | nil => rfl
  | cons a rest ih =>
    rw [List.cons_append, run?, run?, Option.bind_assoc]
    exact congrArg _ (funext fun next => ih next)

theorem run?_append_eq_some {o o' : Overlap} {before after : List Section} :
    o.run? (before ++ after) = some o' ↔
      ∃ middle, o.run? before = some middle ∧ middle.run? after = some o' := by
  rw [run?_append, Option.bind_eq_some_iff]

theorem run?_singleton (o : Overlap) (a : Section) : o.run? [a] = o.step? a := by
  simp [run?]

end Overlap

/-! ### Timers by the order of sections -/

/-- The timer was started, and since then timers have elapsed and nothing else has happened. -/
def Holds (sections : List Section) (i : Nat) : Prop :=
  ∃ before since, sections = before ++ .schedule :: since ∧ before.count .schedule = i ∧
    ∀ a ∈ since, ∃ k, a = .elapse k

/-- A rebuild let go of the timer. -/
def LetGo (sections : List Section) (i : Nat) : Prop :=
  ∃ before k after, sections = before ++ .release k :: after ∧ Holds before i

/-- A rebuild let go of the timer, and it has never elapsed. -/
def Strays (sections : List Section) (i : Nat) : Prop :=
  LetGo sections i ∧ .elapse i ∉ sections

/-- A change falls between the elapse of a timer and its rebuild. -/
def Overlaps (sections : List Section) : Prop :=
  ∃ before k between after, sections = before ++ .elapse k :: between ++ .release k :: after ∧
    .schedule ∈ between

theorem Holds.lt_count {sections : List Section} {i : Nat} (h : Holds sections i) :
    i < sections.count .schedule := by
  obtain ⟨before, since, rfl, rfl, -⟩ := h
  rw [List.count_append, List.count_cons_self]
  omega

theorem LetGo.lt_count {sections : List Section} {i : Nat} (h : LetGo sections i) :
    i < sections.count .schedule := by
  obtain ⟨before, k, after, rfl, hholds⟩ := h
  have hlt := hholds.lt_count
  rw [List.count_append]
  omega

theorem holds_append_schedule {sections : List Section} {i : Nat} :
    Holds (sections ++ [.schedule]) i ↔ i = sections.count .schedule := by
  constructor
  · rintro ⟨before, since, hsplit, rfl, hsince⟩
    rcases append_singleton_eq_split hsplit with ⟨-, rfl, -⟩ | ⟨front, rfl, -⟩
    · rfl
    · obtain ⟨k, hk⟩ := hsince .schedule (by simp)
      exact absurd hk (by simp)
  · rintro rfl
    exact ⟨sections, [], rfl, rfl, by simp⟩

theorem holds_append_elapse {sections : List Section} {i k : Nat} :
    Holds (sections ++ [.elapse k]) i ↔ Holds sections i := by
  constructor
  · rintro ⟨before, since, hsplit, hcount, hsince⟩
    rcases append_singleton_eq_split hsplit with ⟨-, -, heq⟩ | ⟨front, rfl, rfl⟩
    · exact absurd heq (by simp)
    · exact ⟨before, front, rfl, hcount, fun a ha => hsince a (List.mem_append_left _ ha)⟩
  · rintro ⟨before, since, rfl, hcount, hsince⟩
    refine ⟨before, since ++ [.elapse k], by simp, hcount, fun a ha => ?_⟩
    rcases List.mem_append.mp ha with ha | ha
    · exact hsince a ha
    · exact ⟨k, List.mem_singleton.mp ha⟩

/-- Any other section ends the time for which a timer is held. -/
theorem not_holds_append {sections : List Section} {a : Section} (hschedule : a ≠ .schedule)
    (helapse : ∀ k, a ≠ .elapse k) (i : Nat) : ¬ Holds (sections ++ [a]) i := by
  rintro ⟨before, since, hsplit, -, hsince⟩
  rcases append_singleton_eq_split hsplit with ⟨-, -, heq⟩ | ⟨front, rfl, -⟩
  · exact hschedule heq.symm
  · obtain ⟨k, hk⟩ := hsince a (by simp)
    exact helapse k hk

theorem letGo_append_release {sections : List Section} {i k : Nat} :
    LetGo (sections ++ [.release k]) i ↔ LetGo sections i ∨ Holds sections i := by
  constructor
  · rintro ⟨before, k', after, hsplit, hholds⟩
    rcases append_singleton_eq_split hsplit with ⟨-, rfl, -⟩ | ⟨front, -, rfl⟩
    · exact .inr hholds
    · exact .inl ⟨before, k', front, rfl, hholds⟩
  · rintro (⟨before, k', after, rfl, hholds⟩ | hholds)
    · exact ⟨before, k', after ++ [.release k], by simp, hholds⟩
    · exact ⟨sections, k, [], rfl, hholds⟩

theorem letGo_append {sections : List Section} {a : Section} (ha : ∀ k, a ≠ .release k) {i : Nat} :
    LetGo (sections ++ [a]) i ↔ LetGo sections i := by
  constructor
  · rintro ⟨before, k, after, hsplit, hholds⟩
    rcases append_singleton_eq_split hsplit with ⟨-, -, heq⟩ | ⟨front, -, rfl⟩
    · exact absurd heq.symm (ha k)
    · exact ⟨before, k, front, rfl, hholds⟩
  · rintro ⟨before, k, after, rfl, hholds⟩
    exact ⟨before, k, after ++ [a], by simp, hholds⟩

/-! ### The state by the order of sections -/

/-- The state is the one that the sections so far lead to. -/
structure Tracks (sections : List Section) (d : Debouncer) : Prop where
  /-- Every change has started a timer. -/
  length : d.timers.length = sections.count .schedule
  /-- The timer that is held. -/
  held : ∀ i, d.held = some i ↔ Holds sections i
  /-- The timers that run. -/
  runs : ∀ i, d.Runs i ↔ (Holds sections i ∨ LetGo sections i) ∧ .elapse i ∉ sections
  /-- Only timers that were started have elapsed. -/
  elapsed : ∀ i, .elapse i ∈ sections → i < sections.count .schedule
  /-- A timer that was let go of is not held again. -/
  apart : ∀ i, LetGo sections i → ¬ Holds sections i

namespace Tracks

theorem nil : Tracks [] {} where
  length := rfl
  held i := by simp [Holds]
  runs i := by simp [Debouncer.Runs, Holds, LetGo]
  elapsed i h := absurd h (by simp)
  apart i h := by
    obtain ⟨before, k, after, hsplit, -⟩ := h
    exact absurd hsplit (by simp)

/-- What runs and is not held strays. -/
theorem runs_and_not_held_iff {sections : List Section} {d : Debouncer} (h : Tracks sections d)
    (i : Nat) : d.Runs i ∧ d.held ≠ some i ↔ Strays sections i := by
  rw [h.runs, ne_eq, h.held]
  constructor
  · rintro ⟨⟨hcause, helapse⟩, hheld⟩
    exact ⟨hcause.resolve_left hheld, helapse⟩
  · rintro ⟨hletGo, helapse⟩
    exact ⟨⟨.inr hletGo, helapse⟩, h.apart i hletGo⟩

theorem schedule {sections : List Section} {d : Debouncer} (h : Tracks sections d) :
    Tracks (sections ++ [.schedule]) d.schedule where
  length := by
    rw [Debouncer.length_schedule, h.length, List.count_append]
    rfl
  held i := by
    rw [holds_append_schedule, ← h.length]
    show some d.timers.length = some i ↔ _
    rw [Option.some_inj]
    exact eq_comm
  runs i := by
    rw [d.runs_schedule, h.runs_and_not_held_iff, holds_append_schedule, letGo_append (by simp),
      h.length]
    constructor
    · rintro (rfl | ⟨hletGo, helapse⟩)
      -- the new timer cannot have elapsed before it was started
      · refine ⟨.inl rfl, fun hmem => ?_⟩
        have hold : .elapse (sections.count .schedule) ∈ sections := by simpa using hmem
        exact Nat.lt_irrefl _ (h.elapsed _ hold)
      · exact ⟨.inr hletGo, by simpa using helapse⟩
    · rintro ⟨hcause, helapse⟩
      exact hcause.imp_right fun hletGo => ⟨hletGo, by simpa using helapse⟩
  elapsed i hmem := by
    have hold := h.elapsed i (by simpa using hmem)
    rw [List.count_append]
    omega
  apart i hletGo := by
    have hlt := ((letGo_append (by simp)).mp hletGo).lt_count
    rw [holds_append_schedule]
    omega

theorem cancel {sections : List Section} {d : Debouncer} (h : Tracks sections d) :
    Tracks (sections ++ [.cancel]) d.cancel where
  length := by
    rw [Debouncer.cancel, Debouncer.length_stopHeld, h.length, List.count_append]
    rfl
  held i := iff_of_false (by simp [Debouncer.cancel]) (not_holds_append (by simp) (by simp) i)
  runs i := by
    rw [d.runs_cancel, h.runs_and_not_held_iff, letGo_append (by simp)]
    constructor
    · rintro ⟨hletGo, helapse⟩
      exact ⟨.inr hletGo, by simpa using helapse⟩
    · rintro ⟨hcause, helapse⟩
      exact ⟨hcause.resolve_left (not_holds_append (by simp) (by simp) i), by simpa using helapse⟩
  elapsed i hmem := by
    rw [List.count_append]
    exact h.elapsed i (by simpa using hmem)
  apart i _ := not_holds_append (by simp) (by simp) i

theorem elapse {sections : List Section} {d d' : Debouncer} (h : Tracks sections d) {k : Nat}
    (hk : d.elapse? k = some d') : Tracks (sections ++ [.elapse k]) d' := by
  obtain ⟨hruns, hheld, hlength, hother⟩ := Debouncer.runs_of_elapse? hk
  have hlt := hruns.lt_length
  rw [h.length] at hlt
  refine ⟨?_, fun i => ?_, fun i => ?_, fun i hmem => ?_, fun i hletGo => ?_⟩
  · rw [hlength, h.length, List.count_append]
    rfl
  · rw [hheld, h.held, holds_append_elapse]
  · rw [hother, h.runs, holds_append_elapse, letGo_append (by simp)]
    simp [and_assoc]
  · rw [List.mem_append, List.mem_singleton, Section.elapse.injEq] at hmem
    rw [List.count_append]
    rcases hmem with hmem | rfl
    · exact Nat.lt_add_right _ (h.elapsed i hmem)
    · exact Nat.lt_add_right _ hlt
  · rw [holds_append_elapse]
    exact h.apart i ((letGo_append (by simp)).mp hletGo)

/-- What is held is let go of, and runs on if it did. -/
theorem release {sections : List Section} {d : Debouncer} (h : Tracks sections d) (k : Nat) :
    Tracks (sections ++ [.release k]) d.release where
  length := by
    rw [List.count_append]
    exact h.length
  held i := iff_of_false (by simp [Debouncer.release]) (not_holds_append (by simp) (by simp) i)
  runs i := by
    have hnot := @not_holds_append sections (.release k) (by simp) (by simp) i
    rw [letGo_append_release]
    show d.Runs i ↔ _
    rw [h.runs]
    simp [hnot, or_comm]
  elapsed i hmem := by
    rw [List.count_append]
    exact h.elapsed i (by simpa using hmem)
  apart i _ := not_holds_append (by simp) (by simp) i

/-- One more section, whichever it is. -/
theorem step? {sections : List Section} {o o' : Overlap} (h : Tracks sections o.debouncer)
    {a : Section} (ha : o.step? a = some o') : Tracks (sections ++ [a]) o'.debouncer := by
  cases a with
  | schedule =>
    rw [← Option.some_inj.mp ha]
    exact h.schedule
  | cancel =>
    rw [← Option.some_inj.mp ha]
    exact h.cancel
  | elapse k =>
    obtain ⟨d, hd, rfl⟩ := Option.map_eq_some_iff.mp ha
    exact h.elapse hd
  | release k =>
    rw [Overlap.step?] at ha
    split at ha
    · rw [← Option.some_inj.mp ha]
      exact h.release k
    · exact absurd ha (by simp)

end Tracks

namespace Overlap

theorem tracks {sections : List Section} {o : Overlap} (h : run? {} sections = some o) :
    Tracks sections o.debouncer := by
  induction sections using List.reverseRecOn generalizing o with
  | nil =>
    rw [← Option.some_inj.mp h]
    exact .nil
  | append_singleton sections a ih =>
    obtain ⟨middle, hmiddle, hlast⟩ := run?_append_eq_some.mp h
    rw [run?_singleton] at hlast
    exact (ih hmiddle).step? hlast

end Overlap

/-! ### Timers that stray -/

/-- After a cancellation no timer is held, and none is let go of, until the next change. -/
theorem letGo_append_cancel {sections after : List Section} (hafter : .schedule ∉ after) (i : Nat) :
    ¬ Holds (sections ++ .cancel :: after) i ∧
      (LetGo (sections ++ .cancel :: after) i ↔ LetGo sections i) := by
  induction after using List.reverseRecOn with
  | nil => exact ⟨not_holds_append (by simp) (by simp) i, letGo_append (by simp)⟩
  | append_singleton after a ih =>
    have hsplit : sections ++ .cancel :: (after ++ [a]) = (sections ++ .cancel :: after) ++ [a] := by
      simp
    rw [List.mem_append, List.mem_singleton, not_or] at hafter
    obtain ⟨hholds, hletGo⟩ := ih hafter.1
    rw [hsplit]
    cases a with
    | schedule => exact absurd rfl hafter.2
    | cancel =>
      rw [letGo_append (by simp)]
      exact ⟨not_holds_append (by simp) (by simp) i, hletGo⟩
    | elapse k =>
      rw [letGo_append (by simp), holds_append_elapse]
      exact ⟨hholds, hletGo⟩
    -- a rebuild finds nothing that it could let go of
    | release k =>
      rw [letGo_append_release, or_iff_left hholds]
      exact ⟨not_holds_append (by simp) (by simp) i, hletGo⟩

namespace Overlap

theorem elapse_isSome {o : Overlap} {i : Nat} : (o.step? (.elapse i)).isSome ↔ o.debouncer.Runs i := by
  rw [step?, Option.isSome_map]
  exact o.debouncer.elapse?_isSome i

theorem elapse_mem_of_mem_rebuilding {sections : List Section} {o : Overlap}
    (h : run? {} sections = some o) {k : Nat} (hk : k ∈ o.rebuilding) : .elapse k ∈ sections := by
  induction sections using List.reverseRecOn generalizing o with
  | nil =>
    rw [← Option.some_inj.mp h] at hk
    exact absurd hk (by simp)
  | append_singleton sections a ih =>
    obtain ⟨middle, hmiddle, hlast⟩ := run?_append_eq_some.mp h
    rw [run?_singleton] at hlast
    rw [List.mem_append, List.mem_singleton]
    cases a with
    | schedule =>
      rw [← Option.some_inj.mp hlast] at hk
      exact .inl (ih hmiddle hk)
    | cancel =>
      rw [← Option.some_inj.mp hlast] at hk
      exact .inl (ih hmiddle hk)
    | elapse i =>
      obtain ⟨d, -, rfl⟩ := Option.map_eq_some_iff.mp hlast
      rcases List.mem_cons.mp hk with rfl | hk
      · exact .inr rfl
      · exact .inl (ih hmiddle hk)
    | release i =>
      rw [step?] at hlast
      split at hlast
      · rw [← Option.some_inj.mp hlast] at hk
        exact .inl (ih hmiddle (List.mem_of_mem_erase hk))
      · exact absurd hlast (by simp)

/-- A timer elapses only when it runs. -/
theorem exists_runs_of_elapse {sections after : List Section} {i : Nat} {o : Overlap}
    (h : run? {} (sections ++ .elapse i :: after) = some o) :
    ∃ middle, run? {} sections = some middle ∧ middle.debouncer.Runs i := by
  obtain ⟨middle, hmiddle, hlater⟩ := run?_append_eq_some.mp h
  obtain ⟨next, hnext, -⟩ := Option.bind_eq_some_iff.mp hlater
  exact ⟨middle, hmiddle, elapse_isSome.mp (Option.isSome_of_eq_some hnext)⟩

/-- A timer that elapses while another one is held has strayed before. -/
theorem strays_of_elapse_of_holds {sections after : List Section} {i k : Nat} {o : Overlap}
    (h : run? {} (sections ++ .elapse k :: after) = some o) (hi : Holds sections i) (hne : k ≠ i) :
    Strays sections k := by
  obtain ⟨middle, hmiddle, hruns⟩ := exists_runs_of_elapse h
  have htracks := tracks hmiddle
  refine (htracks.runs_and_not_held_iff k).mp ⟨hruns, fun hk => hne ?_⟩
  exact Option.some_inj.mp (hk.symm.trans ((htracks.held i).mpr hi))

/-- No timer strays unless a change falls between the elapse of a timer and its rebuild. -/
theorem overlaps_of_strays {sections : List Section} {o : Overlap} (h : run? {} sections = some o)
    {i : Nat} (hi : Strays sections i) : Overlaps sections := by
  -- on the length, since the timer whose rebuild lets go of this one may have strayed itself
  induction hn : sections.length using Nat.strongRecOn generalizing sections o i with
  | ind m ih =>
    obtain ⟨⟨_, k, after, rfl, before, since, rfl, hcount, hsince⟩, hnever⟩ := hi
    obtain ⟨middle, hmiddle, hrelease⟩ := run?_append_eq_some.mp h
    have hk : k ∈ middle.rebuilding := by
      by_contra hnot
      rw [run?, step?, if_neg hnot] at hrelease
      exact absurd hrelease (by simp)
    rcases List.mem_append.mp (elapse_mem_of_mem_rebuilding hmiddle hk) with helapse | helapse
    -- the rebuild is that of a timer that elapsed before the stray one was started
    · obtain ⟨front, back, rfl⟩ := List.append_of_mem helapse
      exact ⟨front, k, back ++ .schedule :: since, after, by simp, by simp⟩
    -- it elapsed later, while the stray one was held
    · have hmem : .elapse k ∈ since := by simpa using helapse
      obtain ⟨front, back, rfl⟩ := List.append_of_mem hmem
      have hsplit : before ++ .schedule :: (front ++ .elapse k :: back) =
          (before ++ .schedule :: front) ++ .elapse k :: back := by simp
      rw [hsplit] at hmiddle
      have hholds : Holds (before ++ .schedule :: front) i :=
        ⟨before, front, rfl, hcount, fun a ha => hsince a (List.mem_append_left _ ha)⟩
      have hne : k ≠ i := by
        rintro rfl
        exact hnever (by simp)
      obtain ⟨earlier, hearlier, -⟩ := exists_runs_of_elapse hmiddle
      have hstrays := strays_of_elapse_of_holds hmiddle hholds hne
      obtain ⟨first, j, between, last, hfirst, hschedule⟩ := ih _
        (by rw [← hn]; simp only [List.length_append, List.length_cons]; omega) hearlier hstrays rfl
      refine ⟨first, j, between, last ++ .elapse k :: back ++ .release k :: after, ?_, hschedule⟩
      rw [hsplit, hfirst]
      simp

/-- A timer that elapses after a cancellation, with no change in between, has strayed before. -/
theorem strays_of_elapse {sections after : List Section} (hafter : .schedule ∉ after) {i : Nat}
    {o : Overlap} (h : run? {} (sections ++ .cancel :: (after ++ [.elapse i])) = some o) :
    Strays sections i := by
  have hsplit : sections ++ .cancel :: (after ++ [.elapse i]) =
      (sections ++ .cancel :: after) ++ [.elapse i] := by simp
  rw [hsplit] at h
  obtain ⟨middle, hmiddle, hruns⟩ := exists_runs_of_elapse h
  obtain ⟨hcause, helapse⟩ := ((tracks hmiddle).runs i).mp hruns
  obtain ⟨hholds, hletGo⟩ := @letGo_append_cancel sections after hafter i
  refine ⟨hletGo.mp (hcause.resolve_left hholds), fun hmem => ?_⟩
  exact helapse (List.mem_append_left _ hmem)

/-- **What a cancellation leaves running are the timers that stray.** Whatever the order of
sections, a timer that strays runs on after a cancellation, its rebuild can begin without a further
change, and a further change makes it one of two that run. No other timer does any of this, and none
strays unless a change falls between the elapse of a timer and its rebuild. -/
theorem runs_cancel_iff_strays {sections : List Section} {o : Overlap}
    (h : run? {} sections = some o) :
    (∀ i, o.debouncer.cancel.Runs i ↔ Strays sections i) ∧
      (∀ i, (∃ after o', .schedule ∉ after ∧
          run? {} (sections ++ .cancel :: (after ++ [.elapse i])) = some o') ↔
        Strays sections i) ∧
      (∀ i j, o.debouncer.Runs i → o.debouncer.Runs j → i ≠ j →
        Strays sections i ∨ Strays sections j) ∧
      ((∀ i j, o.debouncer.schedule.Runs i → o.debouncer.schedule.Runs j → i = j) ↔
        ∀ i, ¬ Strays sections i) ∧
      ((∃ i, Strays sections i) → Overlaps sections) := by
  have htracks := tracks h
  have hcancel : ∀ i, o.debouncer.cancel.Runs i ↔ Strays sections i := by
    intro i
    rw [Debouncer.runs_cancel, htracks.runs_and_not_held_iff]
  have hschedule : ∀ i, o.debouncer.schedule.Runs i ↔
      i = o.debouncer.timers.length ∨ Strays sections i := by
    intro i
    rw [Debouncer.runs_schedule, htracks.runs_and_not_held_iff]
  refine ⟨hcancel, fun i => ⟨?_, fun hi => ?_⟩, fun i j hi hj hne => ?_, ⟨?_, ?_⟩,
    fun ⟨i, hi⟩ => overlaps_of_strays h hi⟩
  · rintro ⟨after, o', hafter, hrun⟩
    exact strays_of_elapse hafter hrun
  · have hruns : (step? { o with debouncer := o.debouncer.cancel } (.elapse i)).isSome :=
      elapse_isSome.mpr ((hcancel i).mpr hi)
    obtain ⟨o', ho'⟩ := Option.isSome_iff_exists.mp hruns
    rw [← run?_singleton] at ho'
    exact ⟨[], o', by simp, run?_append_eq_some.mpr ⟨o, h, ho'⟩⟩
  -- of two timers that run, one is not held
  · by_cases hheld : o.debouncer.held = some i
    · refine .inr ((htracks.runs_and_not_held_iff j).mp ⟨hj, fun hj' => hne ?_⟩)
      exact Option.some_inj.mp (hheld.symm.trans hj')
    · exact .inl ((htracks.runs_and_not_held_iff i).mp ⟨hi, hheld⟩)
  · intro hone i hi
    have hlast := hone i _ ((hschedule i).mpr (.inr hi)) ((hschedule _).mpr (.inl rfl))
    have hlt := hi.1.lt_count
    rw [← htracks.length, hlast] at hlt
    exact Nat.lt_irrefl _ hlt
  · intro hnone i j hi hj
    rw [((hschedule i).mp hi).resolve_right (hnone i), ((hschedule j).mp hj).resolve_right (hnone j)]

/-- A change between the elapse of a timer and its rebuild: the second timer strays. -/
theorem runs_cancel_iff_strays_second :
    run? {} [.schedule, .elapse 0, .schedule, .release 0] =
        some ⟨⟨[.fired, .running], none⟩, []⟩ ∧
      Strays [.schedule, .elapse 0, .schedule, .release 0] 1 := by
  have hrun : run? {} [.schedule, .elapse 0, .schedule, .release 0] =
      some ⟨⟨[.fired, .running], none⟩, []⟩ := by decide
  exact ⟨hrun, ((runs_cancel_iff_strays hrun).1 1).mp (by decide)⟩

/-- Two timers run at once, one of them runs on after a cancellation, and its rebuild begins. -/
theorem two_timers_run :
    (∃ o, run? {} [.schedule, .elapse 0, .schedule, .release 0, .schedule] = some o ∧
        o.debouncer.Runs 1 ∧ o.debouncer.Runs 2 ∧ o.debouncer.cancel.Runs 1) ∧
      (run? {} [.schedule, .elapse 0, .schedule, .release 0, .cancel, .elapse 1]).isSome := by
  exact ⟨⟨_, rfl, by decide, by decide, by decide⟩, by decide⟩

end Overlap

end LivePage
