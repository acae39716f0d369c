/-
Which element a statement listens to.

An `OnClick` line binds the next statement to clicks on the last element
that can be addressed, and a statement uses the binding up. Two registers of
the session carry this from line to line, across whatever stands between:

* `Session.run_last` — the last element is the last one that was placed by
  an element command or a `Card`;
* `Session.run_event_iff` — an event waits exactly if some `OnClick` line has
  such an element before it and no statement behind it, and the event is
  bound to the last such element before the latest `OnClick` line;
* `statements_listen` — so every statement of a source is bound or written
  plain as these lines say, every listener names an id that was written
  before its `OnClick` line (`LastWritten`), and no `OnClick` line has two
  listeners.

Design notes: the registers speak of the lines that have run, so the
inductions add lines at the end of a list (`Waits.append_singleton`).
-/
import Mathlib.Data.List.Induction
import LivePage.Proofs.Page.Opening
import LivePage.Proofs.Text.Basic

namespace LivePage

/-! ### The last element -/

namespace Line

/-- Whether the line places an element that can be addressed. -/
def addresses (line : Line) : Bool :=
  line.command?.any (·.1.addresses)

theorem places_of_addresses {line : Line} (h : line.addresses = true) : line.places = true := by
  unfold addresses at h
  unfold places
  cases hcommand : line.command? with
  | none =>
    rw [hcommand] at h
    cases h
  | some run =>
    rw [hcommand] at h
    obtain ⟨c, args⟩ := run
    cases c with
    | element e => rfl
    | card => rfl
    | _ => cases h

end Line

namespace Session

/-- The ids of the elements that can be addressed, in the order in which lines place them. -/
def addressed (s : Session) : List Text → List Text
  | [] => []
  | line :: rest => (s.addressed? (.ofText line)).toList ++ (s.step line).1.addressed rest

theorem addressed_append (s : Session) (before after : List Text) :
    s.addressed (before ++ after) = s.addressed before ++ (s.run before).1.addressed after := by
  induction before generalizing s with
  | nil => rfl
  | cons line rest ih => simp [addressed, ih]

theorem addressed_append_singleton (s : Session) (before : List Text) (line : Text) :
    s.addressed (before ++ [line]) =
      s.addressed before ++ ((s.run before).1.addressed? (.ofText line)).toList := by
  rw [addressed_append]
  simp [addressed]

/-- The last element is the last one that lines placed. -/
theorem run_last (lines : List Text) :
    (Session.run {} lines).1.last = (Session.addressed {} lines).getLast? := by
  induction lines using List.reverseRecOn with
  | nil => rfl
  | append_singleton lines line ih =>
    rw [run_append_singleton, addressed_append_singleton, List.getLast?_append, ← ih]
    refine ((Session.run {} lines).1.runLine_last (.ofText line)).trans ?_
    cases (Session.run {} lines).1.addressed? (.ofText line) <;> rfl

/-- The element that a line makes addressable has the id of the line. -/
theorem addressed?_eq (s : Session) (line : Line) :
    s.addressed? line = if line.addresses then some (s.ownId line) else none := by
  unfold addressed? Line.addresses ownId Line.givenId?
  cases line.command? with
  | none => rfl
  | some run =>
    obtain ⟨c, args⟩ := run
    cases c with
    | element e => exact congrArg some (s.chooseId_snd args)
    | card => exact congrArg some (s.chooseId_snd args)
    | _ => rfl

/-- Ids are not empty. -/
theorem addressed?_ne_nil {s : Session} {line : Line} {id : Text}
    (h : s.addressed? line = some id) : id ≠ [] := by
  rw [addressed?_eq] at h
  split at h
  · rw [← Option.some_inj.mp h]
    exact s.ownId_ne_nil line
  · cases h

/-- An element is addressed if a line places one that can be. -/
theorem addressed_ne_nil_iff {s : Session} {lines : List Text} :
    s.addressed lines ≠ [] ↔ ∃ line ∈ lines, (Line.ofText line).addresses = true := by
  induction lines generalizing s with
  | nil => simp [addressed]
  | cons line rest ih =>
    rw [addressed, addressed?_eq]
    by_cases hline : (Line.ofText line).addresses = true
    · simp [hline]
    · simpa [hline] using ih

theorem ne_nil_of_mem_addressed {s : Session} {lines : List Text} {id : Text}
    (h : id ∈ s.addressed lines) : id ≠ [] := by
  induction lines generalizing s with
  | nil => exact absurd h (by simp [addressed])
  | cons line rest ih =>
    rw [addressed, List.mem_append, Option.mem_toList] at h
    rcases h with hid | hid
    · exact addressed?_ne_nil hid
    · exact ih hid

/-- Since ids are not empty, an event can be bound to any last element. -/
theorem run_target? (lines : List Text) :
    (Session.run {} lines).1.target? = (Session.addressed {} lines).getLast? := by
  unfold target?
  rw [run_last]
  cases hlast : (Session.addressed {} lines).getLast? with
  | none => rfl
  | some id =>
    cases id with
    | nil => exact absurd rfl (ne_nil_of_mem_addressed (List.mem_of_getLast? hlast))
    | cons c id => rfl

end Session

/-! ### Ids in the markup -/

/-- The last element that can be addressed among some lines, with its id as its opening tag has it
in the markup. -/
inductive LastWritten (lines : List Text) (id : Text) : Prop
  | intro (front : List Text) (line : Text) (rest : List Text) (tag back : Text) :
      lines = front ++ line :: rest → (Line.ofText line).addresses = true →
      (∀ other ∈ rest, (Line.ofText other).addresses = false) →
      (Line.ofText line).tag? = some tag →
      (Session.run {} lines).2.markup = (Session.run {} front).2.markup ++
        ("<".toList ++ tag ++ " id=\"".toList ++ id ++ "\"".toList ++ back) → LastWritten lines id

namespace Session

/-- The last id that can be addressed is that of the last line that places such an element. -/
theorem exists_of_getLast?_addressed {lines : List Text} {id : Text}
    (h : (Session.addressed {} lines).getLast? = some id) :
    ∃ front line rest, lines = front ++ line :: rest ∧ (Line.ofText line).addresses = true ∧
      (∀ other ∈ rest, (Line.ofText other).addresses = false) ∧
      id = (Session.run {} front).1.ownId (.ofText line) := by
  induction lines using List.reverseRecOn with
  | nil => cases h
  | append_singleton lines line ih =>
    rw [addressed_append_singleton, addressed?_eq] at h
    by_cases hline : (Line.ofText line).addresses = true
    · rw [if_pos hline, Option.toList_some, List.getLast?_concat, Option.some_inj] at h
      exact ⟨lines, line, [], rfl, hline, by simp, h.symm⟩
    · rw [if_neg hline, Option.toList_none, List.append_nil] at h
      obtain ⟨front, first, rest, rfl, hfirst, hrest, hid⟩ := ih h
      have hother : (Line.ofText line).addresses = false := by simpa using hline
      refine ⟨front, first, rest ++ [line], by simp, hfirst, ?_, hid⟩
      exact List.forall_mem_append.mpr ⟨hrest, List.forall_mem_singleton.mpr hother⟩

/-- So it stands in the markup, right behind the tag of its element. -/
theorem lastWritten_of_getLast?_addressed {lines : List Text} {id : Text}
    (h : (Session.addressed {} lines).getLast? = some id) : LastWritten lines id := by
  obtain ⟨front, line, rest, rfl, hline, hrest, rfl⟩ := exists_of_getLast?_addressed h
  obtain ⟨tag, htag⟩ := Line.exists_tag? (Line.places_of_addresses hline)
  obtain ⟨text, hmarkup, hfront⟩ := Session.tagFront_run {} front htag rest
  obtain ⟨back, rfl⟩ := hfront.exists_rest
  exact .intro front line rest tag back rfl hline hrest htag hmarkup

end Session

/-! ### The event that waits -/

/-- The `OnClick` line `click` binds the next statement behind it to the element with an id: that
element was the last one before it, and neither a statement nor another `OnClick` line has
followed. -/
structure Binds (before : List Text) (click : Text) (between : List Text) (id : Text) : Prop where
  /-- The line is an `OnClick` line. -/
  clicks : (Line.ofText click).clicks = true
  /-- The element is the last one before the line. -/
  target : (Session.addressed {} before).getLast? = some id
  /-- No statement has followed. -/
  unused : ∀ line ∈ between, (Line.ofText line).statement? = none
  /-- The line is the latest one. -/
  latest : ∀ line ∈ between, (Line.ofText line).clicks = false

/-- Some lines end with a binding that waits for its statement. -/
def Waits (lines : List Text) (id : Text) : Prop :=
  ∃ before click between, lines = before ++ click :: between ∧ Binds before click between id

/-- One more line makes a binding if it is an `OnClick` line, and otherwise keeps the one that
waits, unless it is a statement. -/
theorem Waits.append_singleton {lines : List Text} {line id : Text} :
    Waits (lines ++ [line]) id ↔
      if (Line.ofText line).clicks then (Session.addressed {} lines).getLast? = some id
      else (Line.ofText line).statement? = none ∧ Waits lines id := by
  constructor
  · rintro ⟨before, click, between, hlines, hbinds⟩
    rcases append_singleton_eq_split hlines with ⟨rfl, rfl, rfl⟩ | ⟨front, rfl, rfl⟩
    -- the line is the `OnClick` line that binds
    · rw [if_pos hbinds.clicks]
      exact hbinds.target
    -- the line stands behind it
    · have hmem : line ∈ front ++ [line] := List.mem_append_right _ List.mem_cons_self
      rw [if_neg (by simp [hbinds.latest line hmem])]
      refine ⟨hbinds.unused line hmem, before, click, front, rfl, hbinds.clicks, hbinds.target,
        fun other hother => ?_, fun other hother => ?_⟩
      · exact hbinds.unused other (List.mem_append_left _ hother)
      · exact hbinds.latest other (List.mem_append_left _ hother)
  · intro h
    by_cases hclicks : (Line.ofText line).clicks = true
    · rw [if_pos hclicks] at h
      exact ⟨lines, line, [], rfl, hclicks, h, by simp, by simp⟩
    · rw [if_neg hclicks] at h
      obtain ⟨hstatement, before, click, between, rfl, hbinds⟩ := h
      have hother : (Line.ofText line).clicks = false := by simpa using hclicks
      refine ⟨before, click, between ++ [line], by simp, hbinds.clicks, hbinds.target, ?_, ?_⟩
      · exact List.forall_mem_append.mpr ⟨hbinds.unused, List.forall_mem_singleton.mpr hstatement⟩
      · exact List.forall_mem_append.mpr ⟨hbinds.latest, List.forall_mem_singleton.mpr hother⟩

theorem Waits.addressed_ne_nil {lines : List Text} {id : Text} (h : Waits lines id) :
    Session.addressed {} lines ≠ [] := by
  obtain ⟨before, click, between, rfl, hbinds⟩ := h
  rw [Session.addressed_append]
  refine List.append_ne_nil_of_left_ne_nil ?_ _
  rintro hnil
  have htarget := hbinds.target
  rw [hnil] at htarget
  exact absurd htarget (by simp)

theorem Session.run_event_append_singleton (lines : List Text) (line : Text) :
    (Session.run {} (lines ++ [line])).1.event =
      if (Line.ofText line).clicks then
        ((Session.addressed {} lines).getLast?.map (PendingEvent.mk "click".toList)).or
          (Session.run {} lines).1.event
      else if (Line.ofText line).statement?.isSome then none
      else (Session.run {} lines).1.event := by
  rw [run_append_singleton, step, runLine_event, run_target?]

/-- The event that waits after some lines is the binding that their `OnClick` lines left. -/
theorem Session.run_event_iff {lines : List Text} {event : PendingEvent} :
    (Session.run {} lines).1.event = some event ↔
      event.kind = "click".toList ∧ Waits lines event.target := by
  induction lines using List.reverseRecOn with
  | nil => simp [Waits]
  | append_singleton lines line ih =>
    rw [run_event_append_singleton, Waits.append_singleton]
    by_cases hclicks : (Line.ofText line).clicks = true
    · rw [if_pos hclicks, if_pos hclicks]
      cases htarget : (Session.addressed {} lines).getLast? with
      | none =>
        -- no element, so no earlier `OnClick` line has bound anything
        have hnil := List.getLast?_eq_none_iff.mp htarget
        constructor
        · intro hevent
          exact absurd hnil (ih.mp hevent).2.addressed_ne_nil
        · rintro ⟨-, hnone⟩
          exact absurd hnone (by simp)
      | some id =>
        rcases event with ⟨kind, target⟩
        rw [Option.map_some, Option.some_or, Option.some_inj, Option.some_inj,
          PendingEvent.mk.injEq]
        exact and_congr_left fun _ => eq_comm
    · rw [if_neg hclicks, if_neg hclicks]
      cases hstatement : (Line.ofText line).statement? with
      | none => simpa using ih
      | some st => simp

/-- Some `OnClick` line had an element before it, and no statement has followed that line. -/
def Bound (lines : List Text) : Prop :=
  ∃ before click between, lines = before ++ click :: between ∧
    (Line.ofText click).clicks = true ∧
      (∃ element ∈ before, (Line.ofText element).addresses = true) ∧
      ∀ line ∈ between, (Line.ofText line).statement? = none

/-- Of all such `OnClick` lines the latest one counts. -/
theorem bound_iff_exists_waits {lines : List Text} : Bound lines ↔ ∃ id, Waits lines id := by
  constructor
  · rintro ⟨before, click, between, rfl, hclicks, helement, hunused⟩
    induction between using List.reverseRecOn with
    | nil =>
      have hne : Session.addressed {} before ≠ [] := Session.addressed_ne_nil_iff.mpr helement
      have hlast := List.getLast?_eq_some_getLast hne
      exact ⟨_, before, click, [], rfl, hclicks, hlast, by simp, by simp⟩
    | append_singleton between line ih =>
      obtain ⟨id, hwaits⟩ := ih fun other hother => hunused other (List.mem_append_left _ hother)
      have hassoc : before ++ click :: (between ++ [line]) =
          (before ++ click :: between) ++ [line] := by simp
      rw [hassoc]
      by_cases hline : (Line.ofText line).clicks = true
      -- a later `OnClick` line takes over: the element before the earlier one is before it too
      · have hlast := List.getLast?_eq_some_getLast hwaits.addressed_ne_nil
        exact ⟨_, Waits.append_singleton.mpr (by rw [if_pos hline]; exact hlast)⟩
      · refine ⟨id, Waits.append_singleton.mpr ?_⟩
        rw [if_neg hline]
        exact ⟨hunused line (List.mem_append_right _ List.mem_cons_self), hwaits⟩
  · rintro ⟨id, before, click, between, rfl, hbinds⟩
    refine ⟨before, click, between, rfl, hbinds.clicks, ?_, hbinds.unused⟩
    have hsome : (Session.addressed {} before).getLast?.isSome = true := by
      rw [hbinds.target]
      rfl
    exact Session.addressed_ne_nil_iff.mp (List.getLast?_isSome.mp hsome)

/-! ### What a line adds to the script -/

theorem head?_listenerText (id kind text : Text) :
    (listenerText id kind text).head? = some 'd' := rfl

/-- A statement that is written plain is no listener. -/
theorem Line.plain_ne_listenerText {line : Line} {st : Statement} (h : line.statement? = some st)
    (id kind text : Text) : st.plain ≠ listenerText id kind text := by
  obtain ⟨⟨c, args⟩, -, hst⟩ := Option.bind_eq_some_iff.mp h
  have hhead : st.plain.head? = some 'a' ∨ st.plain.head? = some '{' := by
    cases c with
    | alert =>
      cases hst
      exact .inl rfl
    | setText =>
      dsimp only [Command.statement?] at hst
      split at hst
      · cases hst
      · cases hst
        exact .inr rfl
    | _ => cases hst
  intro heq
  rw [heq, head?_listenerText] at hhead
  exact absurd hhead (by decide)

/-- An assignment is no listener. -/
theorem Line.assignment?_ne_listenerText (line : Line) (id kind text : Text) :
    line.assignment? ≠ some (listenerText id kind text) := by
  intro h
  obtain ⟨⟨c, args⟩, -, hassign⟩ := Option.bind_eq_some_iff.mp h
  cases c with
  | declare =>
    dsimp only [Command.assignment?] at hassign
    split at hassign
    · cases hassign
    · have hhead := congrArg List.head? (Option.some_inj.mp hassign)
      have hassigned : (assignmentText (args.param 0) (args.paramD 1 ['0'])).head? =
          some 'w' := rfl
      rw [head?_listenerText, hassigned] at hhead
      exact absurd hhead (by decide)
  | _ => cases hassign

namespace Session

/-- The script only grows. -/
theorem scripts_isPrefix_run (s : Session) (lines : List Text) :
    s.scripts <+: (s.run lines).1.scripts := by
  induction lines generalizing s with
  | nil => exact List.prefix_rfl
  | cons line rest ih =>
    refine List.IsPrefix.trans ?_ (ih (s.step line).1)
    rw [step, runLine_scripts]
    exact List.prefix_append _ _

theorem step_scripts_of_statement {s : Session} {line : Text} {st : Statement}
    (h : (Line.ofText line).statement? = some st) :
    (s.step line).1.scripts = s.scripts ++ [s.wrap st] := by
  rw [step, runLine_scripts, h]
  rfl

/-- Only a statement can become a listener. -/
theorem step_scripts_of_not_statement {s : Session} {line : Text}
    (h : (Line.ofText line).statement? = none) :
    ∃ entries, (s.step line).1.scripts = s.scripts ++ entries ∧
      ∀ entry ∈ entries, ∀ id kind text, entry ≠ listenerText id kind text := by
  refine ⟨(Line.ofText line).assignment?.toList, ?_, ?_⟩
  · rw [step, runLine_scripts, h]
    rfl
  · rintro entry hentry id kind text rfl
    exact (Line.ofText line).assignment?_ne_listenerText id kind text (Option.mem_toList.mp hentry)

/-- A statement behind some lines is bound to the binding that waits there. -/
theorem wrap_of_waits {lines : List Text} {id : Text} (h : Waits lines id) (st : Statement) :
    (Session.run {} lines).1.wrap st = listenerText id "click".toList st.text := by
  have hevent : (Session.run {} lines).1.event = some ⟨"click".toList, id⟩ :=
    run_event_iff.mpr ⟨rfl, h⟩
  rw [wrap, hevent]

/-- Without a binding a statement is written plain. -/
theorem wrap_of_not_bound {lines : List Text} (h : ¬ Bound lines) (st : Statement) :
    (Session.run {} lines).1.wrap st = st.plain := by
  cases hevent : (Session.run {} lines).1.event with
  | none => rw [wrap, hevent]
  | some event =>
    exact absurd (bound_iff_exists_waits.mpr ⟨_, (run_event_iff.mp hevent).2⟩) h

end Session

/-! ### The statements of a source -/

/-- How the statement behind some lines of a source got into the script. -/
inductive Written (source : Text) (lines : List Text) (st : Statement) (entry : Text) : Prop
  /-- A binding waits: the statement listens to the element that the latest `OnClick` line is
  bound to, the last one that can be addressed before that line; its id stands there in its
  opening tag, in the markup with which the body begins. -/
  | bound (before : List Text) (click : Text) (between : List Text) (id : Text) :
      Bound lines → lines = before ++ click :: between → Binds before click between id →
      entry = listenerText id "click".toList st.text → id ≠ [] → LastWritten before id →
      (Session.run {} before).2.markup <+: (compile source).body → Written source lines st entry
  /-- No binding waits: the statement is plain, which no listener is. -/
  | plain : ¬ Bound lines → entry = st.plain →
      (∀ id kind text, entry ≠ listenerText id kind text) → Written source lines st entry

theorem scripts_isPrefix_compile {source : Text} {before after : List Text}
    (h : logicalLines source = before ++ after) :
    (Session.run {} before).1.scripts <+: (compile source).scripts := by
  show _ <+: (Session.run {} (logicalLines source)).1.scripts
  rw [h, Session.run_append_fst]
  exact Session.scripts_isPrefix_run _ after

theorem markup_isPrefix_compile {source : Text} {before after : List Text}
    (h : logicalLines source = before ++ after) :
    (Session.run {} before).2.markup <+: (compile source).body := by
  show _ <+: (Session.run {} (logicalLines source)).2.markup ++ _
  rw [h, Session.run_append_markup, List.append_assoc]
  exact List.prefix_append _ _

theorem written_wrap {source : Text} {before after : List Text} {line : Text} {st : Statement}
    (h : logicalLines source = before ++ line :: after)
    (hst : (Line.ofText line).statement? = some st) :
    Written source before st ((Session.run {} before).1.wrap st) := by
  by_cases hbound : Bound before
  · obtain ⟨id, hwaits⟩ := bound_iff_exists_waits.mp hbound
    have hentry := Session.wrap_of_waits hwaits st
    obtain ⟨front, click, between, rfl, hbinds⟩ := hwaits
    have hmem : id ∈ Session.addressed {} front := List.mem_of_getLast? hbinds.target
    rw [List.append_assoc] at h
    exact .bound front click between id hbound rfl hbinds hentry
      (Session.ne_nil_of_mem_addressed hmem)
      (Session.lastWritten_of_getLast?_addressed hbinds.target) (markup_isPrefix_compile h)
  · have hentry := Session.wrap_of_not_bound hbound st
    refine .plain hbound hentry ?_
    rw [hentry]
    exact Line.plain_ne_listenerText hst

theorem takeWhile_unused {between after : List Text} {line : Text}
    (hunused : ∀ other ∈ between, (Line.ofText other).statement? = none)
    (hst : (Line.ofText line).statement? ≠ none) :
    (between ++ line :: after).takeWhile (fun other => (Line.ofText other).statement?.isNone) =
      between := by
  rw [List.takeWhile_append_of_pos (by simpa using hunused),
    List.takeWhile_cons_of_neg (by simpa using hst), List.append_nil]

/-- **Every statement of a source listens to what its `OnClick` lines say.** A statement adds one
entry to the script: a listener if a binding waits, and the plain statement otherwise. No other
line adds a listener, and an `OnClick` line binds one statement at most. -/
theorem statements_listen (source : Text) :
    (∀ (before : List Text) (line : Text) (after : List Text) (st : Statement),
        logicalLines source = before ++ line :: after →
        (Line.ofText line).statement? = some st →
        ∃ entry, (Session.run {} (before ++ [line])).1.scripts =
            (Session.run {} before).1.scripts ++ [entry] ∧
          (Session.run {} (before ++ [line])).1.scripts <+: (compile source).scripts ∧
          Written source before st entry) ∧
      (∀ (before : List Text) (line : Text) (after : List Text),
        logicalLines source = before ++ line :: after →
        (Line.ofText line).statement? = none →
        ∃ entries, (Session.run {} (before ++ [line])).1.scripts =
            (Session.run {} before).1.scripts ++ entries ∧
          ∀ entry ∈ entries, ∀ id kind text, entry ≠ listenerText id kind text) ∧
      ∀ (before : List Text) (click : Text) (between between' : List Text) (line line' : Text)
        (after after' : List Text) (id id' : Text),
        logicalLines source = before ++ click :: (between ++ line :: after) →
        logicalLines source = before ++ click :: (between' ++ line' :: after') →
        Binds before click between id → Binds before click between' id' →
        (Line.ofText line).statement? ≠ none → (Line.ofText line').statement? ≠ none →
        between = between' := by
  refine ⟨?_, ?_, ?_⟩
  · intro before line after st hlines hst
    refine ⟨(Session.run {} before).1.wrap st, ?_, ?_, written_wrap hlines hst⟩
    · rw [Session.run_append_singleton]
      exact Session.step_scripts_of_statement hst
    · rw [← List.singleton_append, ← List.append_assoc] at hlines
      exact scripts_isPrefix_compile hlines
  · intro before line after _ hst
    rw [Session.run_append_singleton]
    exact Session.step_scripts_of_not_statement hst
  · intro before click between between' line line' after after' id id' hlines hlines' hbinds hbinds'
      hst hst'
    -- both are the lines behind the `OnClick` line up to the first statement
    have hrest := List.append_cancel_left (hlines.symm.trans hlines')
    rw [List.cons_inj_right] at hrest
    rw [← takeWhile_unused hbinds.unused hst, hrest, takeWhile_unused hbinds'.unused hst']

/-- A button, an `OnClick` line and an alert, which listens to the button. -/
theorem statements_listen_button :
    (compile "Button id=go\nOnClick\nAlert hi".toList).body =
        ("<button id=\"go\" style=\"\" class=\"moe-element moe-button\"></button>\n" ++
          "<!-- Event: OnClick -->\n").toList ∧
      (∃ entry, (Session.run {}
          ["Button id=go".toList, "OnClick".toList, "Alert hi".toList]).1.scripts = [entry] ∧
        Written "Button id=go\nOnClick\nAlert hi".toList ["Button id=go".toList, "OnClick".toList]
          ⟨"alert(\"hi\");".toList, "alert(\"hi\");".toList⟩ entry ∧
        entry = ("document.getElementById(\"go\").addEventListener(\"click\", () => " ++
          "\x7b alert(\"hi\"); \x7d);").toList) ∧
      (∃ entries, (Session.run {} ["Button id=go".toList]).1.scripts = entries ∧
        ∀ entry ∈ entries, ∀ id kind text, entry ≠ listenerText id kind text) ∧
      Binds ["Button id=go".toList] "OnClick".toList [] "go".toList ∧
      ∀ (between : List Text) (line : Text) (after : List Text) (id : Text),
        logicalLines "Button id=go\nOnClick\nAlert hi".toList =
          ["Button id=go".toList] ++ "OnClick".toList :: (between ++ line :: after) →
        Binds ["Button id=go".toList] "OnClick".toList between id →
        (Line.ofText line).statement? ≠ none → [] = between := by
  obtain ⟨hlisten, hother, hone⟩ := statements_listen "Button id=go\nOnClick\nAlert hi".toList
  have hbinds : Binds ["Button id=go".toList] "OnClick".toList [] "go".toList :=
    ⟨by decide +kernel, by decide +kernel, by simp, by simp⟩
  have hrun : (Session.run {}
      ["Button id=go".toList, "OnClick".toList, "Alert hi".toList]).1.scripts =
        [("document.getElementById(\"go\").addEventListener(\"click\", () => " ++
          "\x7b alert(\"hi\"); \x7d);").toList] := by
    decide +kernel
  obtain ⟨entry, hscripts, -, hwritten⟩ := hlisten ["Button id=go".toList, "OnClick".toList]
    "Alert hi".toList [] ⟨"alert(\"hi\");".toList, "alert(\"hi\");".toList⟩ (by decide +kernel)
    (by decide +kernel)
  rw [show (Session.run {} ["Button id=go".toList, "OnClick".toList]).1.scripts = [] by
    decide +kernel] at hscripts
  refine ⟨by decide +kernel, ⟨entry, hscripts, hwritten, ?_⟩, ?_, hbinds, ?_⟩
  · exact List.singleton_inj.mp (hscripts.symm.trans hrun)
  · exact hother [] "Button id=go".toList ["OnClick".toList, "Alert hi".toList] (by decide +kernel)
      (by decide +kernel)
  · intro between line after id hlines hbinds' hst
    exact hone ["Button id=go".toList] "OnClick".toList [] between "Alert hi".toList line [] after
      _ id (by decide +kernel) hlines hbinds hbinds' (by decide +kernel) hst

end LivePage
