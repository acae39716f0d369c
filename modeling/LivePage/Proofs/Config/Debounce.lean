/-
The seconds of a configuration, and of the timers that wait for them.

* `Yaml.Value.IsNan`, `Config.seconds_eq_nan_iff` — the values that stand for
  what is no number;
* `Config.seconds_of_load` — the seconds of a configuration are those that its
  file gives, and they are not zero or less;
* `Workspace.Times` — what the steps of a watcher keep: every timer that it has
  started waits for the seconds of the configuration;
* `Config.debounce_positive_iff` — the seconds are greater than zero exactly if
  the file does not spell out what is no number;
* `Config.nan_is_loaded` — a file that does.

Design notes: the check of the seconds asks whether they are zero or less. What
is no number is neither that nor greater than zero, and passes.
-/
import LivePage.Proofs.Config.Acceptance
import LivePage.Proofs.Watch.Watcher

namespace LivePage

open Yaml (Value)

/-! ### Values that are no number -/

theorem RawText.raw_chars {t : RawText} (h : t.any Point.isSurrogate = false) :
    Text.raw t.chars = t := by
  induction t with
  | nil => rfl
  | cons c t ih =>
    rw [List.any_cons, Bool.or_eq_false_iff] at h
    cases c with
    | surrogate n => exact absurd h.1 (by simp [Point.isSurrogate])
    | char c => exact congrArg (Point.char c :: ·) (ih h.2)

theorem RawText.text?_eq_some_iff {t : RawText} {s : Text} : t.text? = some s ↔ t = s.raw := by
  constructor
  · intro h
    unfold RawText.text? at h
    split at h
    · exact absurd h (by simp)
    · rename_i hsurrogate
      obtain rfl := Option.some_inj.mp h
      exact (RawText.raw_chars (Bool.eq_false_of_not_eq_true hsurrogate)).symm
  · rintro rfl
    exact RawText.text?_raw s

/-- A value stands for what is no number: the float, or a text that spells it. -/
def Yaml.Value.IsNan : Value → Prop
  | .float d => d = .nan
  | .text t => ∃ s : Text, t = s.raw ∧ SpellsNan s
  | _ => False

namespace Config

theorem seconds_eq_nan_iff {value : Value} : seconds value = .ok .nan ↔ value.IsNan := by
  cases value with
  | float d => simp [seconds, Value.IsNan]
  | text t =>
    have hbind : t.text?.bind Double.ofText? = some .nan ↔ ∃ s : Text, t = s.raw ∧ SpellsNan s := by
      simp only [Option.bind_eq_some_iff, RawText.text?_eq_some_iff, Double.ofText?_eq_nan_iff]
    rw [Value.IsNan, ← hbind, seconds]
    cases t.text?.bind Double.ofText? <;> simp
  | int n =>
    have hnumber := Double.ofInt?_ne_nan n
    refine iff_of_false ?_ not_false
    rw [seconds]
    cases hd : Double.ofInt? n with
    | none => simp
    | some d => simpa [hd] using hnumber
  | bool b => simp [seconds, Value.IsNan, Double.ofNat, Double.round_ne_nan]
  | null | list | map | other => simp [seconds, Value.IsNan]

/-- The seconds of a configuration are given by its value, and they are not zero or less. -/
theorem seconds_of_load {read : Yaml.Reader} {tree : FileTree} {path : Path} {t : Text} {v : Value}
    {config : Config} (ht : tree.readText path = .ok t) (hv : read t = .ok v)
    (h : load tree path read = .ok config) :
    seconds (debounceGiven v) = .ok config.debounce ∧
      (config.debounce.Positive ∨ config.debounce = .nan) := by
  rw [load_eq_ofValue ht hv] at h
  have hgiven := (describes_of_ofValue h).debounce
  obtain ⟨d, hd, hsign⟩ := ((exists_ofValue_iff tree path.parent v).mp ⟨config, h⟩).seconds
  obtain rfl := Except.ok.inj (hd.symm.trans hgiven)
  exact ⟨hgiven, hsign⟩

end Config

/-! ### Timers -/

namespace Workspace

/-- The seconds after which a timer elapses. -/
def secondsOf? (ws : Workspace) (ref : TimerRef) : Option Seconds :=
  ws.handlers[ref.handler]?.map Handler.debounce

/-- A handler waits for some seconds, and all timers that were started after some are its own. -/
structure Times (seconds : Seconds) (before : List TimerRef) (n : Nat) (ws : Workspace) :
    Prop where
  /-- The handler is there and waits for the seconds. -/
  handler : ∃ handler, ws.handlers[n]? = some handler ∧ handler.debounce = seconds
  /-- The timers since then are its own. -/
  started : ∃ later, ws.started = before ++ later ∧ ∀ ref ∈ later, ref.handler = n

namespace Times

variable {seconds : Seconds} {before : List TimerRef} {ws : Workspace}

theorem take {n : Nat} (h : Times seconds before n ws) (step : HandlerStep) :
    Times seconds before n (ws.take n step) := by
  obtain ⟨handler, hhandler, hseconds⟩ := h.handler
  obtain ⟨later, hlater, hown⟩ := h.started
  obtain ⟨d, started, htake, hstarted, hturn⟩ := take_cases hhandler step
  refine ⟨⟨_, htake, hseconds⟩, ?_⟩
  rw [hstarted]
  cases hturn with
  | schedules =>
    refine ⟨later ++ [⟨n, handler.debouncer.timers.length⟩], by rw [hlater, List.append_assoc], ?_⟩
    intro ref href
    rcases List.mem_append.mp href with href | href
    · exact hown ref href
    · rw [List.mem_singleton.mp href]
  | cancels => exact ⟨later, hlater, hown⟩
  | rebuilds => exact ⟨later, hlater, hown⟩
  | passes => exact ⟨later, hlater, hown⟩

theorem answers {watcher : Watcher} {last : Workspace} {events : List Event}
    (h : Times seconds before watcher.handler ws) (hevents : Answers watcher ws events last) :
    Times seconds before watcher.handler last :=
  answers_keep (fun _ _ _ h => ⟨h.handler, h.started⟩) (fun _ step h => h.take step) hevents h

theorem secondsOf? {n : Nat} (h : Times seconds before n ws) :
    ∃ later, ws.started = before ++ later ∧ ∀ ref ∈ later, ws.secondsOf? ref = some seconds := by
  obtain ⟨handler, hhandler, hseconds⟩ := h.handler
  obtain ⟨later, hlater, hown⟩ := h.started
  refine ⟨later, hlater, fun ref href => ?_⟩
  rw [Workspace.secondsOf?, hown ref href, hhandler, Option.map_some, hseconds]

end Times

/-- What is prepared has one more handler, which waits for the seconds of the configuration. -/
theorem prepare_eq_ok {ws next : Workspace} {config : Config} {directories : List Location}
    (h : ws.prepare config = (next, .ok directories)) :
    next.started = ws.started ∧ ∃ handler, next.handlers = ws.handlers ++ [handler] ∧
      handler.debounce = .double config.debounce := by
  unfold prepare at h
  split at h
  · exact absurd (Prod.mk.inj h).2 (by simp)
  · split at h
    · exact absurd (Prod.mk.inj h).2 (by simp)
    · rename_i built _ hbuild
      obtain ⟨rfl, -⟩ := Prod.mk.inj h
      obtain ⟨rfl, -⟩ := Prod.mk.inj hbuild
      exact ⟨rfl, _, rfl, rfl⟩

/-- The handler that a watcher is set up with waits for the seconds of the configuration. -/
theorem times_of_setUp {ws started : Workspace} {config : Config} {actions : List Action}
    {watcher : Watcher} (h : ws.setUp config = (started, actions, .ok (some watcher))) :
    Times (.double config.debounce) ws.started watcher.handler started := by
  unfold setUp at h
  split at h
  · exact absurd (Prod.mk.inj (Prod.mk.inj h).2).2 (by simp)
  · rename_i next directories hprepare
    obtain ⟨hstarted, handler, hhandlers, hseconds⟩ := prepare_eq_ok hprepare
    split at h
    · exact absurd (Prod.mk.inj (Prod.mk.inj h).2).2 (by simp)
    · rename_i found _
      unfold observe at h
      dsimp only at h
      split at h
      · exact absurd (Prod.mk.inj (Prod.mk.inj h).2).2 (by simp)
      · simp only [Prod.mk.injEq, Except.ok.injEq, Option.some_inj] at h
        obtain ⟨rfl, -, rfl⟩ := h
        -- the watcher takes the last handler, which is the one that was just set up
        refine ⟨⟨handler, ?_, hseconds⟩, [], ?_, by simp⟩
        · simp [record, recordDirectories, hhandlers]
        · simp [record, recordDirectories, hstarted]

theorem setUp_eq {ws : Workspace} {config : Config} {result : Except FileFault (Option Watcher)}
    (h : (ws.setUp config).2.2 = result) :
    ws.setUp config = ((ws.setUp config).1, (ws.setUp config).2.1, result) :=
  Prod.ext rfl (Prod.ext rfl h)

theorem answers_singleton {ws : Workspace} {watcher : Watcher} {event : Event}
    (h : (ws.answer watcher event).2 = none) :
    Answers watcher ws [event] (ws.answer watcher event).1 :=
  .cons (Prod.ext rfl h) (.nil _)

end Workspace

namespace Config

/-- **The seconds of a configuration.** The seconds of a configuration that was loaded are greater
than zero exactly if the value that the reader, whichever it is, has found in its file does not
stand for what is no number: neither the float `.nan` nor a text that spells it is given for
`debounce`. Otherwise they are what is no number.
Every timer that a watcher of the configuration has started, whatever has happened since, waits for
these seconds. -/
theorem debounce_positive_iff {read : Yaml.Reader} {tree : FileTree} {path : Path} {t : Text}
    {v : Value} {config : Config} (ht : tree.readText path = .ok t) (hv : read t = .ok v)
    (h : load tree path read = .ok config) :
    (config.debounce.Positive ↔ ¬ (debounceGiven v).IsNan) ∧
      ((debounceGiven v).IsNan → config.debounce = .nan) ∧
      ∀ ws started actions watcher events current,
        Workspace.setUp ws config = (started, actions, .ok (some watcher)) →
        Workspace.Answers watcher started events current →
        ∃ later, current.started = ws.started ++ later ∧
          ∀ ref ∈ later, current.secondsOf? ref = some (.double config.debounce) := by
  obtain ⟨hgiven, hsign⟩ := seconds_of_load ht hv h
  have hnan : config.debounce = .nan ↔ (debounceGiven v).IsNan := by
    rw [← seconds_eq_nan_iff, hgiven, Except.ok.injEq]
  refine ⟨?_, hnan.mpr, fun ws started actions watcher events current hsetUp hevents => ?_⟩
  · rw [← hnan]
    constructor
    · intro hpositive heq
      rw [heq] at hpositive
      exact Double.not_positive_nan hpositive
    · exact hsign.resolve_right
  · exact ((Workspace.times_of_setUp hsetUp).answers hevents).secondsOf?

/-- The seconds are a text with a sign, an underscore and an exponent, and a file is modified. -/
theorem debounce_positive_iff_spelled :
    let tree : FileTree :=
      ⟨[], [([raw "y"], .file (encode
        "write:\n- src: a\n  dst: b\ndebounce: ' +1_0E-1 '\n".toList))]⟩
    let path := Path.ofText (raw "y")
    ∃ t v config started actions watcher current,
      tree.readText path = .ok t ∧ Yaml.load t = .ok v ∧ load tree path = .ok config ∧
      ¬ (debounceGiven v).IsNan ∧ config.debounce.Positive ∧
      Workspace.setUp { tree } config = (started, actions, .ok (some watcher)) ∧
      Workspace.Answers watcher started [.modify (raw "a") []] current ∧
      current.started.length = 1 ∧
      ∀ ref ∈ current.started, current.secondsOf? ref = some (.double config.debounce) := by
  intro tree path
  let config : Config :=
    { pairs := [(.ofText (raw "a"), .ofText (raw "b"))], watch := [], debounce := .ofNat 1
      frame := {} }
  let watcher : Watcher := ⟨0, [[]]⟩
  have hload : load tree path = .ok config := toOption_eq_some_iff.mp (by decide +kernel)
  obtain ⟨t, ht, h⟩ := bind_eq_ok_iff.mp hload
  obtain ⟨v, hv, -⟩ := bind_eq_ok_iff.mp h
  rw [mapError_eq_ok_iff] at ht hv
  have hone : config.debounce.Positive := (Double.isPositive_iff _).mp (by decide +kernel)
  have hwatcher : (Workspace.setUp { tree } config).2.2 = .ok (some watcher) :=
    toOption_eq_some_iff.mp (by decide +kernel)
  have hgoesOn : ((Workspace.setUp { tree } config).1.answer watcher
      (.modify (raw "a") [])).2 = none := by decide +kernel
  have hcount : ((Workspace.setUp { tree } config).1.answer watcher
      (.modify (raw "a") [])).1.started.length = 1 := by decide +kernel
  obtain ⟨hpositive, -, htimers⟩ := debounce_positive_iff ht hv hload
  obtain ⟨later, hlater, hseconds⟩ := htimers { tree } _ _ watcher _ _
    (Workspace.setUp_eq hwatcher) (Workspace.answers_singleton hgoesOn)
  refine ⟨t, v, config, _, _, watcher, _, ht, hv, hload, hpositive.mp hone, hone,
    Workspace.setUp_eq hwatcher, Workspace.answers_singleton hgoesOn, hcount, ?_⟩
  rw [hlater]
  exact hseconds

/-- The seconds are given as what is no number. The file is read as a configuration, though its
seconds are not greater than zero. -/
theorem nan_is_loaded :
    let tree : FileTree :=
      ⟨[], [([raw "y"], .file (encode "write:\n- src: a\n  dst: b\ndebounce: .nan\n".toList))]⟩
    ∃ config, load tree (.ofText (raw "y")) = .ok config ∧ config.debounce = .nan ∧
      ¬ config.debounce.Positive := by
  intro tree
  refine ⟨{ pairs := [(.ofText (raw "a"), .ofText (raw "b"))], watch := [], debounce := .nan
            frame := {} }, ?_, rfl, Double.not_positive_nan⟩
  exact toOption_eq_some_iff.mp (by decide +kernel)

end Config

end LivePage
