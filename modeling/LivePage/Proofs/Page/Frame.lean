/-
What each kind of line may touch.

A session has six registers, and a line changes only those of its kind. The
table of what may change is written out here, one row for each kind of line
and for each command, and every line is shown to follow its row:

* `Session.Performs` — the rows of the commands, the open blocks apart;
* `Session.Pushes` — what a brace at the end of a line does to the open blocks;
* `Session.Follows` — the rows of all lines;
* `step_follows` — one line, run on any session, follows its row.

Design notes: a row is an equation between the sessions before and after, so
that a register which it does not name is unchanged.
-/
import LivePage.Proofs.Page.Numbering

namespace LivePage

namespace Session

/-- The markup begins with the opening tag of an element that has the id: the one that the
arguments give, or the next number. -/
structure Emits (s : Session) (args : Arguments) (tag id markup : Text) : Prop where
  id_eq : id = (args.attr? "id".toList).getD (numberedId (s.ids + 1))
  id_ne_nil : id ≠ []
  front : "<".toList ++ tag ++ " id=\"".toList ++ id ++ "\"".toList <+: markup
  opening : ∃ o : Opening, o.markup <+: markup ∧ o.attribute? "id".toList = some id

/-- The session behind an element that can be addressed. -/
def addressing (s : Session) (args : Arguments) (id : Text) : Session :=
  { s with
    styles := []
    last := some id
    ids := if (args.attr? "id".toList).isNone then s.ids + 1 else s.ids }

/-- What a command with its arguments may change from `s` to `t`, `markup` being what it puts on
the page. An unknown command is `none`. -/
inductive Performs (s t : Session) (args : Arguments) (markup : Text) : Option Command → Prop
  | unknown : t = s → Performs s t args markup none
  | page : t = s → Performs s t args markup (some .page)
  | background : t = s → Performs s t args markup (some .background)
  | space : t = s → Performs s t args markup (some .space)
  | element (e : Element) (id : Text) : s.Emits args (e.tagWith args) id markup →
      t = s.addressing args id → Performs s t args markup (some (.element e))
  | card (id : Text) : s.Emits args "div".toList id markup → t = s.addressing args id →
      Performs s t args markup (some .card)
  | row : t = { s with styles := [], ids := s.ids + 1 } → Performs s t args markup (some .row)
  | column : t = { s with styles := [], ids := s.ids + 1 } →
      Performs s t args markup (some .column)
  | declare (added : List Text) : added.length ≤ 1 → t = { s with scripts := s.scripts ++ added } →
      Performs s t args markup (some .declare)
  | onClick (event : Option PendingEvent) : t = { s with event := event } →
      Performs s t args markup (some .onClick)
  | alert (entry : Text) : t = { s with scripts := s.scripts ++ [entry], event := none } →
      Performs s t args markup (some .alert)
  | setText (entry : Text) : args.param 0 ≠ [] →
      t = { s with scripts := s.scripts ++ [entry], event := none } →
      Performs s t args markup (some .setText)
  | targetless : args.param 0 = [] → t = s → Performs s t args markup (some .setText)

/-- A line that opens a block pushes one block, and any other leaves the open blocks alone. -/
inductive Pushes (s t : Session) : Bool → Prop
  | kept : t = s → Pushes s t false
  | pushed (block : Block) : t = { s with blocks := block :: s.blocks } → Pushes s t true

end Session

/-- A line that is neither blank nor a comment, a style line or a lone closing brace. -/
structure IsCommandLine (line : Text) : Prop where
  ne_nil : line ≠ []
  not_comment : isComment line = false
  not_style : styleLine? line = none
  ne_close : line ≠ ['}']

/-- What a line may change from `s` to `t`. -/
inductive Session.Follows (s t : Session) (line markup : Text) : Prop
  | idle : line = [] ∨ isComment line = true → t = s → Follows s t line markup
  | style (property value : Text) : styleLine? line = some (property, value) →
      t = { s with styles := s.styles.insert property value } → Follows s t line markup
  | close : line = ['}'] → t = { s with blocks := s.blocks.tail } → Follows s t line markup
  | bare : IsCommandLine line → tokenize (commandPart line) = [] →
      s.Pushes t (opensBlock line) → Follows s t line markup
  | command (name : Token) (rest : List Token) (done : Session) : IsCommandLine line →
      tokenize (commandPart line) = name :: rest →
      s.Performs done (.ofTokens rest) markup (Command.ofName? name.text) →
      done.Pushes t (opensBlock line) → Follows s t line markup

theorem IsCommandLine.ofText {line : Text} (h : IsCommandLine line) :
    Line.ofText line = .ofTokens (opensBlock line) (tokenize (commandPart line)) := by
  have hskip : ¬ (line.isEmpty || isComment line) = true := by
    simp [h.ne_nil, h.not_comment]
  rw [Line.ofText, if_neg hskip, h.not_style]
  exact if_neg h.ne_close

namespace Session

/-! ### Commands -/

theorem emits_of_addresses (s : Session) {name tag : Text} {args : Arguments} {c : Command}
    (hname : Command.ofName? name = some c) (hc : c.addresses = true) (htag : c.tag? args = some tag)
    (opens : Bool) :
    s.Emits args tag (s.chooseId args).2 (s.runLine (.command name args opens)).2.markup := by
  have hcommand : (Line.command name args opens).command? = some (c, args) := by
    rw [Line.command?, hname]
    rfl
  have hgiven : (Line.command name args opens).givenId? = args.attr? "id".toList := by
    rw [Line.givenId?, hcommand]
    cases c with
    | element e => rfl
    | card => rfl
    | _ => cases hc
  have hid : (s.chooseId args).2 = s.ownId (.command name args opens) := by
    rw [chooseId_snd, ownId, hgiven]
  have hline : (Line.command name args opens).tag? = some tag := by
    rw [Line.tag?, hcommand]
    exact htag
  have hopens : (s.opening? (.command name args opens)).isSome = true := by
    rw [opening?_isSome, ← Line.tag?_isSome, hline]
    rfl
  obtain ⟨rest, hrest⟩ := (s.tagFront_runLine hline).exists_rest
  obtain ⟨o, ho⟩ := Option.isSome_iff_exists.mp hopens
  refine ⟨s.chooseId_snd args, hid ▸ s.ownId_ne_nil _, ?_, o, opening_isPrefix_markup ho, ?_⟩
  · rw [hid, hrest]
    exact List.prefix_append _ _
  · rw [hid]
    exact attribute?_id_eq ho

/-- The session behind a known command, its own entry of the script included. -/
def done (s : Session) (c : Command) (args : Arguments) : Session :=
  { s.after c args with scripts := s.scripts ++ (s.entry? args c).toList }

theorem done_of_no_entry {s : Session} {c : Command} {args : Arguments}
    (h : s.entry? args c = none) : s.done c args = s.after c args := by
  rw [done, h, Option.toList_none, List.append_nil]
  rfl

theorem performs_done (s : Session) (c : Command) (args : Arguments) {markup : Text}
    (hmarkup : ∀ tag, c.addresses = true → c.tag? args = some tag →
      s.Emits args tag (s.chooseId args).2 markup) :
    s.Performs (s.done c args) args markup (some c) := by
  cases c with
  | element e =>
    refine .element e _ (hmarkup _ rfl rfl) ?_
    rw [done_of_no_entry rfl, addressing, ← chooseId_ids]
    rfl
  | card =>
    refine .card _ (hmarkup _ rfl rfl) ?_
    rw [done_of_no_entry rfl, addressing, ← chooseId_ids]
    rfl
  | page => exact .page (done_of_no_entry rfl)
  | background => exact .background (done_of_no_entry rfl)
  | space => exact .space (done_of_no_entry rfl)
  | row => exact .row (done_of_no_entry rfl)
  | column => exact .column (done_of_no_entry rfl)
  | declare =>
    refine .declare (s.entry? args .declare).toList ?_ rfl
    cases s.entry? args .declare <;> simp
  | onClick => exact .onClick _ (done_of_no_entry rfl)
  | alert => exact .alert _ rfl
  | setText =>
    by_cases htarget : args.param 0 = []
    · -- neither an entry nor a change of the pending event
      have hentry : s.entry? args .setText = none := by
        simp [Command.statement?, Command.assignment?, entry?, htarget]
      refine .targetless htarget ?_
      rw [done_of_no_entry hentry]
      simp [after, Command.addresses, Command.places, idsAfter, eventAfter, htarget]
    · obtain ⟨entry, hentry⟩ : ∃ entry, s.entry? args .setText = some entry := by
        simp [Command.statement?, entry?, htarget]
      refine .setText entry htarget ?_
      rw [done, hentry]
      simp [after, Command.addresses, Command.places, idsAfter, eventAfter, htarget]

theorem performs_enact (s : Session) (name : Text) (args : Arguments) (opens : Bool) :
    s.Performs (s.enact (.command name args opens)).1 args
      (s.runLine (.command name args opens)).2.markup (Command.ofName? name) := by
  cases hname : Command.ofName? name with
  | none =>
    refine .unknown ?_
    rw [enact_command_fst, perform_script, perform_fst, hname]
    simp
  | some c =>
    have hdone : (s.enact (.command name args opens)).1 = s.done c args := by
      rw [enact_command_fst, perform_script, perform_fst, hname]
      rfl
    rw [hdone]
    exact s.performs_done c args fun tag hc htag => s.emits_of_addresses hname hc htag opens

/-! ### Lines -/

theorem pushes_runLine (s : Session) {line : Line} (h : line ≠ .close) :
    (s.enact line).1.Pushes (s.runLine line).1 line.opens := by
  rw [runLine_fst, blocksAfter_of_ne_close s h]
  cases line.opens with
  | false =>
    refine .kept ?_
    rw [if_neg Bool.false_ne_true, ← s.enact_blocks line]
  | true =>
    refine .pushed (s.enact line).2.2 ?_
    rw [if_pos rfl, ← s.enact_blocks line]

end Session

/-- **A line touches only the registers of its kind.** Whatever the session is, the line leaves it
as the row of the table says: blank lines, comments and lines without tokens change nothing, a
style line the styles, a closing brace the innermost block, a command the registers of its kind,
and a brace at the end of a line pushes one block. -/
theorem step_follows (s : Session) (line : Text) :
    s.Follows (s.step line).1 line (s.step line).2.markup := by
  by_cases hidle : line = [] ∨ isComment line = true
  · have hskip : (line.isEmpty || isComment line) = true := by simpa using hidle
    rw [Session.step_of_skip hskip]
    exact .idle hidle rfl
  rw [not_or, Bool.not_eq_true] at hidle
  cases hstyle : styleLine? line with
  | some entry =>
    refine .style entry.1 entry.2 hstyle ?_
    rw [Session.step, Line.ofText_eq_style_iff.mpr hstyle]
    rfl
  | none =>
    by_cases hclose : line = ['}']
    · refine .close hclose ?_
      rw [Session.step, Line.ofText_eq_close_iff.mpr hclose, Session.runLine_fst]
      rfl
    · have hcommand : IsCommandLine line := ⟨hidle.1, hidle.2, hstyle, hclose⟩
      have hne : Line.ofText line ≠ .close := fun h => hclose (Line.ofText_eq_close_iff.mp h)
      have hpushes := s.pushes_runLine hne
      rw [hcommand.ofText, Line.opens_ofTokens] at hpushes
      rw [Session.step, hcommand.ofText]
      cases htokens : tokenize (commandPart line) with
      | nil =>
        rw [htokens] at hpushes
        exact .bare hcommand htokens hpushes
      | cons name rest =>
        rw [htokens] at hpushes
        exact .command name rest _ hcommand htokens (s.performs_enact _ _ _) hpushes

end LivePage
