/-
The layout of a source does not matter.

Blanks at the ends of lines, lines that say nothing, and whether a block is
written on one line or on several have no influence on what a source compiles
to:

* `Relaid` — the lines of a source in another layout;
* `Session.run_of_relaid` — a run of lines in another layout;
* `compile_of_relaid` — a source in another layout is the same page;
* `compile_unlines_logicalLines` — so is the source with its inline blocks
  unfolded.

Design notes: `Relaid` speaks of lines and not of the text, since no edit of
the layout reaches across a line break. It lets idle lines be put in on one
side only; the two runs then go on from the same session, and this is what
the induction carries.
-/
import LivePage.Page.Document
import LivePage.Proofs.Page.Run
import LivePage.Proofs.Source.Normal

namespace LivePage

/-! ### Idle lines -/

/-- Whether a line says nothing: it is blank, or its first character that is not blank is `#`. -/
def isIdle (line : Text) : Bool :=
  (line.dropWhile isBlank).isEmpty || (line.dropWhile isBlank).head? == some '#'

theorem isComment_trim {line : Text} (h : (line.dropWhile isBlank).head? = some '#') :
    isComment line.trim = true := by
  obtain ⟨rest, hrest⟩ := List.head?_eq_some_iff.mp h
  have htrim : line.trim = '#' :: Text.trimEnd rest := by
    rw [Text.trim, hrest, Text.trimEnd, List.reverse_cons,
      Text.dropWhile_append_of_not_blank (by decide), List.reverse_append]
    rfl
  rw [htrim]
  rfl

theorem skip_of_isIdle {line : Text} (h : isIdle line = true) :
    (line.trim.isEmpty || isComment line.trim) = true := by
  rw [isIdle, Bool.or_eq_true, List.isEmpty_iff, beq_iff_eq] at h
  rcases h with hblank | hcomment
  · rw [Text.trim, hblank]
    rfl
  · rw [isComment_trim hcomment, Bool.or_true]

/-- An idle line is kept whole, so no brace in it is ever read. -/
theorem unfoldLine_of_skip {line : Text} (h : (line.isEmpty || isComment line) = true) :
    unfoldLine line = [line] := by
  rcases Bool.or_eq_true_iff.mp h with hempty | hcomment
  · rw [List.isEmpty_iff.mp hempty]
    rfl
  · rw [unfoldLine, hcomment, Bool.true_or, if_pos rfl]

/-! ### Other layouts -/

/-- The second list has the lines of the first one in another layout: other blanks at the ends of
lines, and idle lines between them. -/
inductive Relaid : List Text → List Text → Prop
  /-- No line is left. -/
  | nil : Relaid [] []
  /-- A line has other blanks around it. -/
  | line {lead core trail lead' trail' : Text} {ls ms : List Text} :
      (∀ c ∈ lead ++ trail ++ lead' ++ trail', isBlank c = true) → Relaid ls ms →
      Relaid ((lead ++ core ++ trail) :: ls) ((lead' ++ core ++ trail') :: ms)
  /-- An idle line is put in. -/
  | insert {idle : Text} {ls ms : List Text} :
      isIdle idle = true → Relaid ls ms → Relaid ls (idle :: ms)

/-- Lines in another layout do what they did. -/
theorem Session.run_of_relaid {ls ms : List Text} (h : Relaid ls ms) (s : Session) :
    s.run (ms.flatMap fun line => unfoldLine line.trim) =
      s.run (ls.flatMap fun line => unfoldLine line.trim) := by
  induction h generalizing s with
  | nil => rfl
  | @line lead core trail lead' trail' ls ms hblank _ ih =>
    have hlead : ∀ c ∈ lead, isBlank c = true := fun c hc => hblank c (by simp [hc])
    have htrail : ∀ c ∈ trail, isBlank c = true := fun c hc => hblank c (by simp [hc])
    have hlead' : ∀ c ∈ lead', isBlank c = true := fun c hc => hblank c (by simp [hc])
    have htrail' : ∀ c ∈ trail', isBlank c = true := fun c hc => hblank c (by simp [hc])
    rw [List.flatMap_cons, List.flatMap_cons, Text.trim_blanks hlead htrail,
      Text.trim_blanks hlead' htrail', run_append, run_append, ih]
  | @insert idle ls ms hidle _ ih =>
    have hskip := skip_of_isIdle hidle
    rw [List.flatMap_cons, unfoldLine_of_skip hskip, List.singleton_append, run_cons,
      step_of_skip hskip, ih]
    rfl

/-- The text with a carriage return in front of every line break. -/
def crlf (t : Text) : Text :=
  t.flatMap fun c => if c = '\n' then ['\r', '\n'] else [c]

/-- Lines with a carriage return at the end of each but the last. -/
def withReturns : List Text → List Text
  | [] => []
  | [last] => [last]
  | line :: next :: rest => (line ++ ['\r']) :: withReturns (next :: rest)

theorem lines_crlf (t : Text) : (crlf t).lines = withReturns t.lines := by
  unfold Text.lines
  induction t with
  | nil => rfl
  | cons c t ih =>
    obtain ⟨first, rest, hcut, hcons⟩ := exists_cut_cons (· == '\n') t
    rw [hcut] at ih
    by_cases hc : c = '\n'
    · subst hc
      have hcrlf : crlf ('\n' :: t) = '\r' :: '\n' :: crlf t := rfl
      rw [hcrlf, cut_cons_of_not_sep (by decide) (cut_cons_of_sep (by decide) _), ih,
        cut_cons_of_sep (by decide), hcut]
      rfl
    · have hcrlf : crlf (c :: t) = c :: crlf t := by
        simp [crlf, hc]
      rw [hcrlf, hcons c (by simpa using hc)]
      cases rest with
      | nil => exact cut_cons_of_not_sep (by simpa using hc) ih
      | cons next rest => exact cut_cons_of_not_sep (by simpa using hc) ih

theorem relaid_withReturns (ls : List Text) : Relaid ls (withReturns ls) := by
  have hreturn : isBlank '\r' = true := by decide
  induction ls with
  | nil => exact .nil
  | cons line rest ih =>
    cases rest with
    | nil =>
      have hsame : Relaid (([] ++ line ++ []) :: []) (([] ++ line ++ []) :: []) :=
        .line (by simp) .nil
      simpa [withReturns] using hsame
    | cons next rest =>
      have hreturns : Relaid (([] ++ line ++ []) :: next :: rest)
          (([] ++ line ++ ['\r']) :: withReturns (next :: rest)) :=
        .line (by simp [hreturn]) ih
      simpa [withReturns] using hreturns

/-! ### Pages -/

theorem compile_eq_of_run {source other : Text}
    (h : Session.run {} (logicalLines other) = Session.run {} (logicalLines source)) :
    compile other = compile source := by
  unfold compile
  rw [h]

/-- **A source in another layout is the same page.** Blanks at the ends of lines, blank lines and
comments, whatever braces and quotes these hold, change neither the body nor the script nor what is
remarked on, and nor do other line ends. -/
theorem compile_of_relaid (source : Text) :
    (∀ other : Text, Relaid source.lines other.lines → compile other = compile source) ∧
      compile (crlf source) = compile source := by
  have hrelaid : ∀ other : Text, Relaid source.lines other.lines →
      compile other = compile source :=
    fun other h => compile_eq_of_run (Session.run_of_relaid h {})
  refine ⟨hrelaid, hrelaid _ ?_⟩
  rw [lines_crlf]
  exact relaid_withReturns source.lines

/-- A row between other blanks, with a blank line and a comment that has a brace and a quote. -/
theorem compile_of_relaid_row :
    Relaid (Text.lines "Row \x7b\n\x7d".toList)
        (Text.lines "\t# \x7b \"\n Row \x7b\r\n\n\x7d ".toList) ∧
      compile "\t# \x7b \"\n Row \x7b\r\n\n\x7d ".toList = compile "Row \x7b\n\x7d".toList := by
  have hspace : isBlank ' ' = true := by decide
  have hreturn : isBlank '\r' = true := by decide
  have hlines : Text.lines "Row \x7b\n\x7d".toList =
      [[] ++ "Row \x7b".toList ++ [], [] ++ "\x7d".toList ++ []] := by decide
  have hother : Text.lines "\t# \x7b \"\n Row \x7b\r\n\n\x7d ".toList =
      ["\t# \x7b \"".toList, [' '] ++ "Row \x7b".toList ++ ['\r'], [],
        [] ++ "\x7d".toList ++ [' ']] := by decide
  have hrelaid : Relaid (Text.lines "Row \x7b\n\x7d".toList)
      (Text.lines "\t# \x7b \"\n Row \x7b\r\n\n\x7d ".toList) := by
    rw [hlines, hother]
    refine .insert (by decide) (.line ?_ (.insert (by decide) (.line ?_ .nil)))
    · simp [hspace, hreturn]
    · simp [hspace]
  exact ⟨hrelaid, (compile_of_relaid "Row \x7b\n\x7d".toList).1 _ hrelaid⟩

/-- **An inline block means its multi-line form.** Unfolding a source a second time changes
nothing, so the unfolded source has the same logical lines, is the same page, and gives the same
document in every frame. -/
theorem compile_unlines_logicalLines (source : Text) :
    logicalLines (Text.unlines (logicalLines source)) = logicalLines source ∧
      compile (Text.unlines (logicalLines source)) = compile source ∧
      ∀ frame : Frame,
        frame.compile (Text.unlines (logicalLines source)) = frame.compile source := by
  have hlines := logicalLines_unlines_logicalLines source
  have hpage : compile (Text.unlines (logicalLines source)) = compile source :=
    compile_eq_of_run (by rw [hlines])
  refine ⟨hlines, hpage, fun frame => ?_⟩
  unfold Frame.compile
  rw [hpage]

end LivePage
