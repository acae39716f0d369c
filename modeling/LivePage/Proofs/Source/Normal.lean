/-
Logical lines are their own logical lines.

Breaking a line at its bare braces leaves nothing to break: the quotes of a
piece are paired within it, so its braces are quoted or bare as they were in
the line, and the only bare brace of a piece stands at its end or is the
whole piece.

* `IsPlain.of_blanks` — a plain text is plain without the blanks around it;
* `Broken.cases_of_mem` — what a piece can be;
* `Broken.unfoldBraces_of_mem` — a piece is its own only piece;
* `unfoldBraces_ne_nil` — a line with a brace has a piece;
* `unfoldLine_of_mem` — a logical line is its own only logical line;
* `logicalLines_unlines_logicalLines` — so the logical lines of a source,
  written one a line, are logical lines of the same source.

Design notes: a piece that begins with `#` or has no brace is kept whole for
another reason than the others. This is settled last, so the induction on the
parts of a line speaks of `unfoldBraces` only.
-/
import LivePage.Proofs.Source.Piece

namespace LivePage

/-! ### Pieces of pieces -/

/-- Blanks are neither quotes nor braces, so a plain text without the blanks around it is plain. -/
theorem IsPlain.of_blanks {lead t trail : Text} (hlead : ∀ c ∈ lead, isBlank c = true)
    (htrail : ∀ c ∈ trail, isBlank c = true) (h : IsPlain (lead ++ t ++ trail)) : IsPlain t := by
  have hcount : ∀ s : Text, (∀ c ∈ s, isBlank c = true) → s.count '"' = 0 := by
    intro s hs
    refine List.count_eq_zero.mpr fun hmem => ?_
    exact ne_quote_of_isBlank (hs _ hmem) rfl
  have heven := h.even
  rw [List.count_append, List.count_append, hcount lead hlead, hcount trail htrail] at heven
  have ht : t.count '"' % 2 = 0 := by omega
  refine ⟨ht, ?_⟩
  have hbare := h.braceless
  rw [List.append_assoc, glyphs_append (.inl (by rw [hcount lead hlead])), glyphs_append (.inl ht),
    bareBraces_append, bareBraces_append] at hbare
  exact (List.append_eq_nil_iff.mp (List.append_eq_nil_iff.mp hbare).2).1

theorem IsPlain.trim {t : Text} (h : IsPlain t) : IsPlain t.trim := by
  obtain ⟨lead, trail, ht, hlead, htrail⟩ := Text.exists_eq_trim t
  rw [ht] at h
  exact h.of_blanks hlead htrail

theorem IsPlain.dropWhile_blank {t : Text} (h : IsPlain t) : IsPlain (t.dropWhile isBlank) := by
  have ht : t = t.takeWhile isBlank ++ t.dropWhile isBlank ++ [] := by
    rw [List.append_nil, List.takeWhile_append_dropWhile]
  rw [ht] at h
  refine h.of_blanks (fun c hc => ?_) (by simp)
  exact List.all_eq_true.mp List.all_takeWhile c hc

theorem mem_plainPiece {part piece : Text} (h : piece ∈ plainPiece part) :
    piece = part.trim ∧ piece ≠ [] := by
  obtain ⟨hmem, hne⟩ := List.mem_filter.mp h
  exact ⟨List.mem_singleton.mp hmem, by simpa using hne⟩

theorem trim_of_mem_unfoldBraces {line piece : Text} (h : piece ∈ unfoldBraces line) :
    piece.trim = piece := by
  obtain ⟨part, -, rfl⟩ := List.mem_map.mp (List.mem_of_mem_filter h)
  exact part.trim_trim

/-- A piece is plain, a lone closing brace, or plain but for an opening brace at its end. -/
theorem Broken.cases_of_mem {line piece : Text} (h : Broken line)
    (hpiece : piece ∈ unfoldBraces line) :
    (IsPlain piece ∨ piece = ['}'] ∨ ∃ part, IsPlain part ∧ piece = part ++ ['{']) ∧
      ∀ c ∈ piece, c ∈ line := by
  have hplain : ∀ part : Text, IsPlain part → piece ∈ plainPiece part →
      IsPlain piece ∧ ∀ c ∈ piece, c ∈ part := by
    intro part hpart hmem
    obtain ⟨rfl, -⟩ := mem_plainPiece hmem
    exact ⟨hpart.trim, fun c hc => Text.mem_of_mem_trim hc⟩
  induction h with
  | plain hline =>
    rw [unfoldBraces_of_plain hline] at hpiece
    obtain ⟨hself, hchars⟩ := hplain _ hline hpiece
    exact ⟨.inl hself, hchars⟩
  | @brace part b rest hpart hb hrest ih =>
    rcases hb with rfl | rfl
    · rw [unfoldBraces_open hpart, List.mem_cons] at hpiece
      rcases hpiece with rfl | hpiece
      · rw [Text.trim_append_of_not_blank (by decide)]
        refine ⟨.inr (.inr ⟨_, hpart.dropWhile_blank, rfl⟩), fun c hc => ?_⟩
        rw [List.mem_append, List.mem_singleton] at hc
        rcases hc with hc | rfl
        · exact List.mem_append_left _ ((List.dropWhile_sublist isBlank).subset hc)
        · simp
      · obtain ⟨hkind, hchars⟩ := ih hpiece
        exact ⟨hkind, fun c hc => by simp [hchars c hc]⟩
    · rw [unfoldBraces_close hpart, List.mem_append, List.mem_cons] at hpiece
      rcases hpiece with hpiece | rfl | hpiece
      · obtain ⟨hself, hchars⟩ := hplain part hpart hpiece
        exact ⟨.inl hself, fun c hc => List.mem_append_left _ (hchars c hc)⟩
      · exact ⟨.inr (.inl rfl), by simp⟩
      · obtain ⟨hkind, hchars⟩ := ih hpiece
        exact ⟨hkind, fun c hc => by simp [hchars c hc]⟩

/-- A piece is its own only piece. -/
theorem Broken.unfoldBraces_of_mem {line piece : Text} (h : Broken line)
    (hpiece : piece ∈ unfoldBraces line) : unfoldBraces piece = [piece] := by
  have htrim := trim_of_mem_unfoldBraces hpiece
  rcases (h.cases_of_mem hpiece).1 with hplain | rfl | ⟨part, hpart, rfl⟩
  · have hne : piece ≠ [] := by simpa using (List.mem_filter.mp hpiece).2
    rw [unfoldBraces_of_plain hplain, plainPiece, htrim]
    simp [hne]
  · decide
  · rw [unfoldBraces_open hpart, htrim]
    rfl

theorem mem_of_mem_dropStray {line : Text} {c : Char} (h : c ∈ dropStray line) : c ∈ line := by
  unfold dropStray at h
  split at h
  · exact List.mem_reverse.mp (List.mem_of_mem_erase (List.mem_reverse.mp h))
  · exact h

theorem mem_dropStray {line : Text} {c : Char} (h : c ∈ line) (hc : c ≠ '"') :
    c ∈ dropStray line := by
  unfold dropStray
  split
  · exact List.mem_reverse.mpr ((List.mem_erase_of_ne hc).mpr (List.mem_reverse.mpr h))
  · exact h

theorem Broken.unfoldBraces_ne_nil {line : Text} (h : Broken line) {c : Char} (hc : c ∈ line)
    (hblank : isBlank c = false) : unfoldBraces line ≠ [] := by
  cases h with
  | plain hplain =>
    have htrim : line.trim ≠ [] := List.ne_nil_of_mem (Text.mem_trim hc hblank)
    rw [unfoldBraces_of_plain hplain, plainPiece]
    simp [htrim]
  | brace hpart hb hrest =>
    rcases hb with rfl | rfl
    · rw [unfoldBraces_open hpart]
      exact List.cons_ne_nil _ _
    · rw [unfoldBraces_close hpart]
      exact List.append_ne_nil_of_right_ne_nil _ (List.cons_ne_nil _ _)

/-- A line with a brace has a piece, be the brace bare or quoted. -/
theorem unfoldBraces_ne_nil {line : Text} {b : Char} (hb : b = '{' ∨ b = '}') (h : b ∈ line) :
    unfoldBraces line ≠ [] := by
  have hquote : b ≠ '"' := by
    rintro rfl
    exact absurd hb (by decide)
  have hblank : isBlank b = false := by
    rcases hb with rfl | rfl <;> decide
  rw [← unfoldBraces_dropStray]
  exact (broken_of_even (count_dropStray line)).unfoldBraces_ne_nil (mem_dropStray h hquote) hblank

/-! ### Logical lines of logical lines -/

theorem unfoldLine_ne_nil (line : Text) : unfoldLine line ≠ [] := by
  unfold unfoldLine
  split
  · exact List.cons_ne_nil _ _
  · rename_i hbroken
    rw [Bool.not_eq_true, Bool.or_eq_false_iff, Bool.not_eq_false', Bool.or_eq_true] at hbroken
    rcases hbroken.2 with hbrace | hbrace
    · exact unfoldBraces_ne_nil (.inl rfl) (by simpa using hbrace)
    · exact unfoldBraces_ne_nil (.inr rfl) (by simpa using hbrace)

/-- A logical line of a trimmed line is trimmed and its own only logical line. -/
theorem unfoldLine_of_mem {line piece : Text} (hline : line.trim = line)
    (hpiece : piece ∈ unfoldLine line) :
    piece.trim = piece ∧ unfoldLine piece = [piece] ∧ ∀ c ∈ piece, c ∈ line := by
  by_cases hwhole : (isComment line || !(line.contains '{' || line.contains '}')) = true
  · have hunfold : unfoldLine line = [line] := if_pos hwhole
    rw [hunfold, List.mem_singleton] at hpiece
    subst hpiece
    exact ⟨hline, hunfold, fun c hc => hc⟩
  · have hunfold : unfoldLine line = unfoldBraces line := if_neg hwhole
    rw [hunfold] at hpiece
    have htrim := trim_of_mem_unfoldBraces hpiece
    rw [← unfoldBraces_dropStray] at hpiece
    have hbroken := broken_of_even (count_dropStray line)
    have hself := hbroken.unfoldBraces_of_mem hpiece
    have hchars := (hbroken.cases_of_mem hpiece).2
    refine ⟨htrim, ?_, fun c hc => mem_of_mem_dropStray (hchars c hc)⟩
    -- whether the piece is kept whole or broken again, it is all there is
    unfold unfoldLine
    split
    · rfl
    · exact hself

theorem logicalLines_ne_nil (source : Text) : logicalLines source ≠ [] := by
  obtain ⟨first, rest, hlines, -⟩ := exists_cut_cons (· == '\n') source
  rw [logicalLines, Text.lines, hlines, List.flatMap_cons]
  exact List.append_ne_nil_of_left_ne_nil (unfoldLine_ne_nil _) _

theorem unfoldLine_of_mem_logicalLines {source line : Text} (h : line ∈ logicalLines source) :
    '\n' ∉ line ∧ unfoldLine line.trim = [line] := by
  obtain ⟨whole, hwhole, hline⟩ := List.mem_flatMap.mp h
  obtain ⟨htrim, hself, hchars⟩ := unfoldLine_of_mem whole.trim_trim hline
  refine ⟨fun hnewline => ?_, by rw [htrim, hself]⟩
  exact Text.newline_not_mem_of_mem_lines hwhole (Text.mem_of_mem_trim (hchars _ hnewline))

/-- Logical lines that are written one a line are the logical lines of what is written. -/
theorem logicalLines_unlines_logicalLines (source : Text) :
    logicalLines (Text.unlines (logicalLines source)) = logicalLines source := by
  have hlines : (Text.unlines (logicalLines source)).lines = logicalLines source := by
    refine Text.lines_unlines (logicalLines_ne_nil source) fun line hline => ?_
    exact (unfoldLine_of_mem_logicalLines hline).1
  calc logicalLines (Text.unlines (logicalLines source))
      = (logicalLines source).flatMap fun line => unfoldLine line.trim := by
        rw [logicalLines, hlines]
    _ = (logicalLines source).flatMap fun line => [line] := by
        refine List.flatMap_congr fun line hline => ?_
        exact (unfoldLine_of_mem_logicalLines hline).2
    _ = logicalLines source := List.flatMap_singleton' _

end LivePage
