/-
The entries of the script.

Three kinds of lines add to the script: a `Var` with a name, a `Set` with a
target, and an `Alert`. Each adds one entry, and the entries stand in the
order of the source:

* `Adds` — the forms of an entry, by the line that it comes from;
* `Session.run_scripts` — the entries of a run are those of its lines;
* `Adds.values_of_isInfix` — an entry that is written plain declares no handle
  of its own, so the handles of several `Set` lines cannot clash;
* `scripts_of_source` — both, for a whole source.

Design notes: the statement of a `Set` declares the handle `el` of the element
that it shows its value in. All entries run in one block, where a second
declaration of the same name would be an error, so it matters that these
statements are always wrapped.
-/
import Mathlib.Data.List.Forall2
import LivePage.Proofs.Page.Listener

namespace LivePage

namespace Line

/-- Whether the line is a `Var` with a name, a `Set` with a target, or an `Alert`. -/
def scripting (line : Line) : Bool :=
  line.command?.any fun run =>
    match run.1 with
    | .declare | .setText => !(run.2.param 0).isEmpty
    | .alert => true
    | .element _ | .page | .background | .row | .column | .card | .onClick | .space => false

/-- The positional values of the command on the line. -/
def values (line : Line) : List Text :=
  (line.command?.map (·.2.params)).getD []

end Line

/-- A statement between braces: in a block of its own, or run at clicks on an element. -/
inductive Wrapped (statement : Text) : Text → Prop
  | inScope : Wrapped statement (scopeText statement)
  | listens (id : Text) : id ≠ [] →
      Wrapped statement (listenerText id "click".toList statement)

/-- An entry of the script that a line can add. -/
inductive Adds (line : Line) : Text → Prop
  | assignment (args : Arguments) : line.command? = some (.declare, args) → args.param 0 ≠ [] →
      Adds line (assignmentText (args.param 0) (args.paramD 1 ['0']))
  | alert (args : Arguments) : line.command? = some (.alert, args) →
      Adds line (alertText (args.param 0))
  | boundAlert (args : Arguments) (id : Text) : line.command? = some (.alert, args) → id ≠ [] →
      Adds line (listenerText id "click".toList (alertText (args.param 0)))
  | setText (args : Arguments) (entry : Text) : line.command? = some (.setText, args) →
      args.param 0 ≠ [] → Wrapped (Session.setStatement (args.param 0) args.raw[1]?) entry →
      Adds line entry

/-! ### One line -/

namespace Session

/-- What a line adds to the script. -/
def added? (s : Session) (line : Line) : Option Text :=
  (line.statement?.map s.wrap).or line.assignment?

theorem added?_isSome (s : Session) (line : Line) : (s.added? line).isSome = line.scripting := by
  unfold added? Line.statement? Line.assignment? Line.scripting
  cases line.command? with
  | none => rfl
  | some run =>
    obtain ⟨c, args⟩ := run
    cases c with
    | declare =>
      simp only [Option.bind_some, Command.statement?, Command.assignment?, Option.any_some]
      by_cases hname : (args.param 0).isEmpty = true <;> simp [hname]
    | setText =>
      simp only [Option.bind_some, Command.statement?, Command.assignment?, Option.any_some]
      by_cases htarget : (args.param 0).isEmpty = true <;> simp [htarget]
    | _ => rfl

/-- The event that waits, if there is one, is a click on an element with an id. -/
def WaitsForClick (s : Session) : Prop :=
  ∀ event, s.event = some event → event.kind = "click".toList ∧ event.target ≠ []

theorem WaitsForClick.wrap_cases {s : Session} (h : s.WaitsForClick) (st : Statement) :
    s.wrap st = st.plain ∨
      ∃ id, id ≠ [] ∧ s.wrap st = listenerText id "click".toList st.text := by
  unfold wrap
  cases hevent : s.event with
  | none => exact .inl rfl
  | some event =>
    obtain ⟨hkind, htarget⟩ := h event hevent
    exact .inr ⟨event.target, htarget, by rw [← hkind]⟩

theorem WaitsForClick.adds {s : Session} (h : s.WaitsForClick) {line : Line} {entry : Text}
    (hentry : s.added? line = some entry) : Adds line entry := by
  cases hcommand : line.command? with
  | none => simp [added?, Line.statement?, Line.assignment?, hcommand] at hentry
  | some run =>
    obtain ⟨c, args⟩ := run
    simp only [added?, Line.statement?, Line.assignment?, hcommand, Option.bind_some] at hentry
    cases c with
    | declare =>
      dsimp only [Command.statement?, Command.assignment?] at hentry
      split at hentry
      · cases hentry
      · rename_i hname
        cases hentry
        exact .assignment args hcommand (by simpa using hname)
    | alert =>
      cases hentry
      rcases h.wrap_cases ⟨alertText (args.param 0), alertText (args.param 0)⟩ with
        hplain | ⟨id, hid, hlistens⟩
      · rw [hplain]
        exact .alert args hcommand
      · rw [hlistens]
        exact .boundAlert args id hcommand hid
    | setText =>
      dsimp only [Command.statement?, Command.assignment?] at hentry
      split at hentry
      · cases hentry
      · rename_i htarget
        cases hentry
        refine .setText args _ hcommand (by simpa using htarget) ?_
        rcases h.wrap_cases ⟨setStatement (args.param 0) args.raw[1]?,
          scopeText (setStatement (args.param 0) args.raw[1]?)⟩ with
          hplain | ⟨id, hid, hlistens⟩
        · rw [hplain]
          exact .inScope
        · rw [hlistens]
          exact .listens id hid
    | _ => cases hentry

/-! ### A run -/

theorem waitsForClick_run (lines : List Text) : (Session.run {} lines).1.WaitsForClick := by
  intro event hevent
  obtain ⟨hkind, before, click, between, -, hbinds⟩ := run_event_iff.mp hevent
  exact ⟨hkind, ne_nil_of_mem_addressed (List.mem_of_getLast? hbinds.target)⟩

theorem run_scripts (lines : List Text) :
    List.Forall₂ Adds ((lines.map Line.ofText).filter Line.scripting)
      (Session.run {} lines).1.scripts := by
  induction lines using List.reverseRecOn with
  | nil => exact .nil
  | append_singleton lines line ih =>
    have hscripts : ((Session.run {} lines).1.step line).1.scripts =
        (Session.run {} lines).1.scripts ++
          ((Session.run {} lines).1.added? (.ofText line)).toList :=
      (Session.run {} lines).1.runLine_scripts (.ofText line)
    rw [run_append_singleton, hscripts, List.map_append, List.filter_append, List.map_singleton]
    refine List.rel_append ih ?_
    have hsome := (Session.run {} lines).1.added?_isSome (.ofText line)
    cases hadded : (Session.run {} lines).1.added? (.ofText line) with
    | none =>
      rw [hadded, Option.isSome_none] at hsome
      rw [List.filter_cons_of_neg (by simp [← hsome])]
      exact .nil
    | some entry =>
      rw [hadded, Option.isSome_some] at hsome
      rw [List.filter_cons_of_pos hsome.symm]
      exact .cons ((waitsForClick_run lines).adds hadded) .nil

end Session

/-! ### Declarations -/

/-- A text that is found in a longer one is found on one side of a character it does not hold. -/
theorem isInfix_append_cons {α : Type} {p a b : List α} {c : α} (hc : c ∉ p)
    (h : p <:+: a ++ c :: b) : p <:+: a ∨ p <:+: b := by
  obtain ⟨front, back, hsplit⟩ := h
  rw [List.append_assoc] at hsplit
  rcases List.append_eq_append_iff.mp hsplit with ⟨rest, rfl, hrest⟩ | ⟨rest, rfl, hrest⟩
  · -- it begins before the character, and so it ends there too
    rcases List.append_eq_append_iff.mp hrest with ⟨tail, rfl, -⟩ | ⟨tail, rfl, htail⟩
    · exact .inl ⟨front, tail, by simp⟩
    · cases tail with
      | nil => exact .inl ⟨front, [], by simp⟩
      | cons d tail =>
        rw [List.cons_append, List.cons.injEq] at htail
        exact absurd (List.mem_append_right _ (htail.1 ▸ List.mem_cons_self)) hc
  · cases rest with
    | nil =>
      cases p with
      | nil => exact .inl List.nil_infix
      | cons d p =>
        rw [List.nil_append, List.cons_append, List.cons.injEq] at hrest
        exact absurd (hrest.1 ▸ List.mem_cons_self) hc
    | cons d rest =>
      rw [List.cons_append, List.cons.injEq] at hrest
      exact .inr ⟨rest, back, by rw [List.append_assoc]; exact hrest.2.symm⟩

/-- The declaration of a handle. -/
def handleDeclaration : Text :=
  "const el".toList

theorem handleDeclaration_isInfix_setStatement (target : Text) (token : Option Token) :
    handleDeclaration <:+: Session.setStatement target token := by
  have hshow : ∀ value, handleDeclaration <:+: Script.showText target value := fun value =>
    List.IsPrefix.isInfix ⟨_, rfl⟩
  unfold Session.setStatement
  dsimp only
  split
  · exact (hshow _).trans (List.suffix_append _ _).isInfix
  · split
    · exact hshow _
    · exact hshow _

theorem handleDeclaration_isInfix_concat_blank {t : Text}
    (h : handleDeclaration <:+: t ++ [' ']) : handleDeclaration <:+: t := by
  rcases List.infix_concat_iff.mp h with h | h
  · rcases List.suffix_concat_iff.mp h with h | ⟨front, h, -⟩
    · exact absurd h (by decide)
    · have hlast := congrArg List.getLast? h
      rw [List.getLast?_concat] at hlast
      exact absurd hlast (by decide)
  · exact h

theorem handleDeclaration_isInfix_cons_blank {t : Text}
    (h : handleDeclaration <:+: ' ' :: t) : handleDeclaration <:+: t := by
  rcases List.infix_cons_iff.mp h with h | h
  · rcases List.prefix_cons_iff.mp h with h | ⟨back, h, -⟩
    · exact absurd h (by decide)
    · have hhead := congrArg List.head? h
      rw [List.head?_cons] at hhead
      exact absurd hhead (by decide)
  · exact h

theorem isInfix_of_isInfix_assignmentText {name value : Text}
    (h : handleDeclaration <:+: assignmentText name value) :
    handleDeclaration <:+: name ∨ handleDeclaration <:+: value := by
  have hsplit : assignmentText name value =
      ("window".toList ++ '.' :: name ++ [' ']) ++ '=' :: ((' ' :: value) ++ ';' :: []) := by
    unfold assignmentText
    simp
  rw [hsplit] at h
  rcases isInfix_append_cons (by decide) h with h | h
  · rcases isInfix_append_cons (by decide) (handleDeclaration_isInfix_concat_blank h) with h | h
    · exact absurd h (by decide +kernel)
    · exact .inl h
  · rcases isInfix_append_cons (by decide) h with h | h
    · exact .inr (handleDeclaration_isInfix_cons_blank h)
    · exact absurd h (by decide)

theorem isInfix_of_isInfix_alertText {message : Text}
    (h : handleDeclaration <:+: alertText message) : handleDeclaration <:+: message := by
  have hinside : ∀ front back : Text, ¬ handleDeclaration <:+: front →
      ¬ handleDeclaration <:+: back →
      handleDeclaration <:+: (front ++ ['"']) ++ message ++ '"' :: back →
      handleDeclaration <:+: message := by
    intro front back hfront hback h
    rw [List.append_assoc, List.append_assoc] at h
    rcases isInfix_append_cons (by decide) h with h | h
    · exact absurd h hfront
    · exact (isInfix_append_cons (by decide) h).resolve_right hback
  have hfront : "alert(\"".toList = "alert(".toList ++ ['"'] := by decide +kernel
  have hback : "\");".toList = '"' :: ");".toList := by decide +kernel
  refine hinside "alert(".toList ");".toList (by decide +kernel) (by decide +kernel) ?_
  rw [← hfront, ← hback]
  exact h

theorem Arguments.paramD_cases (args : Arguments) (index : Nat) (default : Text) :
    args.paramD index default ∈ args.params ∨ args.paramD index default = default := by
  unfold paramD
  split
  · rename_i hget
    exact .inl (List.mem_of_getElem? hget)
  · exact .inr rfl

/-- An entry that is not wrapped declares a handle only where the source writes the declaration
out as a value. -/
theorem Adds.values_of_isInfix {line : Line} {entry : Text} (h : Adds line entry)
    (hdeclares : handleDeclaration <:+: entry) :
    (∃ statement, Wrapped statement entry) ∨
      ∃ value ∈ line.values, handleDeclaration <:+: value := by
  have hvalues : ∀ {c args}, line.command? = some (c, args) → line.values = args.params := by
    intro c args hcommand
    rw [Line.values, hcommand]
    rfl
  have hparam : ∀ {c args} (index : Nat) (default : Text), line.command? = some (c, args) →
      ¬ handleDeclaration <:+: default → handleDeclaration <:+: args.paramD index default →
      ∃ value ∈ line.values, handleDeclaration <:+: value := by
    intro c args index default hcommand hdefault hinfix
    rw [hvalues hcommand]
    rcases args.paramD_cases index default with hmem | heq
    · exact ⟨_, hmem, hinfix⟩
    · exact absurd (heq ▸ hinfix) hdefault
  cases h with
  | assignment args hcommand hname =>
    rcases isInfix_of_isInfix_assignmentText hdeclares with h | h
    · exact .inr (hparam 0 [] hcommand (by decide) h)
    · exact .inr (hparam 1 ['0'] hcommand (by decide) h)
  | alert args hcommand =>
    exact .inr (hparam 0 [] hcommand (by decide) (isInfix_of_isInfix_alertText hdeclares))
  | boundAlert args id hcommand hid => exact .inl ⟨_, .listens id hid⟩
  | setText args entry hcommand htarget hwrapped => exact .inl ⟨_, hwrapped⟩

/-- **The script has one entry for each line that adds to it**, in the order of the source and in
one of the forms of its line. The statement of a `Set` declares a handle and is always wrapped, and
no entry that is not wrapped declares one, unless the source itself writes the declaration out. -/
theorem scripts_of_source (source : Text) :
    List.Forall₂ Adds (((logicalLines source).map Line.ofText).filter Line.scripting)
        (compile source).scripts ∧
      (∀ (target : Text) (token : Option Token),
        handleDeclaration <:+: Session.setStatement target token) ∧
      ∀ (line : Line) (entry : Text), Adds line entry → handleDeclaration <:+: entry →
        (∃ statement, Wrapped statement entry) ∨
          ∃ value ∈ line.values, handleDeclaration <:+: value :=
  ⟨Session.run_scripts (logicalLines source), handleDeclaration_isInfix_setStatement,
    fun _ _ h hdeclares => h.values_of_isInfix hdeclares⟩

end LivePage
