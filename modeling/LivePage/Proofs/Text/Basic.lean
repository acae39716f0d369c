/-
Pieces of lists, trimmed texts and blanks.

* `cut_cons_of_sep`, `exists_cut_cons` — what one more element does to the
  pieces of a list;
* `cut_eq_splitOnP`, `exists_cut_append` — the pieces of two lists that are joined;
* `sep_of_mem_cut`, `flatten_cut` — the pieces hold all elements but the separators;
* `exists_next`, `append_singleton_eq_split` — where an element stands next, and
  where a list can be split at one;
* `Text.trim_append_blank`, `Text.trim_append_of_not_blank` — what one more
  character does to a trimmed text;
* `Text.trim_eq_self`, `Text.lines_eq_singleton` — texts that are one trimmed line;
* `Text.exists_eq_trim`, `Text.trim_blanks` — what trimming takes away, and that it
  takes away all blanks at the ends;
* `Text.isBlank_of_head?_trim`, `Text.isBlank_of_getLast?_trim` — no blank is left there;
* `Text.lines_unlines` — lines that were joined are found again;
* `isWord_of_isBlank` — a blank ends a word.
-/
import LivePage.Text.Basic
import LivePage.Text.Word

namespace LivePage

/-! ### Pieces -/

theorem cut_cons_of_sep {α : Type} {sep : α → Bool} {a : α} (h : sep a = true) (l : List α) :
    cut sep (a :: l) = [] :: cut sep l := by
  rw [cut, if_pos h]

/-- There is always a first piece, and an element that does not separate goes in front of it. -/
theorem exists_cut_cons {α : Type} (sep : α → Bool) (l : List α) :
    ∃ piece pieces, cut sep l = piece :: pieces ∧
      ∀ a, sep a = false → cut sep (a :: l) = (a :: piece) :: pieces := by
  cases hcut : cut sep l with
  | nil =>
    cases l with
    | nil => exact absurd hcut (by simp [cut])
    | cons b l =>
      rw [cut] at hcut
      split at hcut
      · exact absurd hcut (by simp)
      · split at hcut <;> exact absurd hcut (by simp)
  | cons piece pieces =>
    refine ⟨piece, pieces, rfl, fun a ha => ?_⟩
    rw [cut, ha, hcut]
    rfl

theorem cut_cons_of_not_sep {α : Type} {sep : α → Bool} {a : α} (h : sep a = false) {l : List α}
    {first : List α} {rest : List (List α)} (hcut : cut sep l = first :: rest) :
    cut sep (a :: l) = (a :: first) :: rest := by
  obtain ⟨piece, pieces, hpieces, hcons⟩ := exists_cut_cons sep l
  rw [hpieces, List.cons.injEq] at hcut
  rw [hcons a h, hcut.1, hcut.2]

theorem cut_eq_splitOnP {α : Type} (sep : α → Bool) (l : List α) :
    cut sep l = l.splitOnP sep := by
  induction l with
  | nil => rfl
  | cons a l ih =>
    rw [List.splitOnP_cons_eq_if_modifyHead, ← ih]
    by_cases ha : sep a = true
    · rw [cut_cons_of_sep ha, if_pos ha]
    · obtain ⟨piece, pieces, hcut, hcons⟩ := exists_cut_cons sep l
      rw [hcons a (by simpa using ha), if_neg ha, hcut, List.modifyHead_cons]

/-- Where two lists meet, the last piece of the first goes on with the first piece of the
second. -/
theorem exists_cut_append {α : Type} (sep : α → Bool) (l : List α) :
    ∃ init last, cut sep l = init ++ [last] ∧
      (∀ a, l.getLast? = some a → sep a = false → last ≠ []) ∧
      ∀ m head tail, cut sep m = head :: tail →
        cut sep (l ++ m) = init ++ (last ++ head) :: tail := by
  induction l with
  | nil => exact ⟨[], [], rfl, by simp, fun m head tail hm => hm⟩
  | cons a l ih =>
    obtain ⟨init, last, hcut, hlast, happend⟩ := ih
    by_cases ha : sep a = true
    · refine ⟨[] :: init, last, by rw [cut_cons_of_sep ha, hcut, List.cons_append], ?_, ?_⟩
      · intro b hb hsep
        cases l with
        | nil =>
          rw [List.getLast?_singleton, Option.some_inj] at hb
          rw [hb, hsep] at ha
          exact absurd ha (by simp)
        | cons c l => exact hlast b (by rwa [List.getLast?_cons_cons] at hb) hsep
      · intro m head tail hm
        rw [List.cons_append, cut_cons_of_sep ha, happend m head tail hm, List.cons_append]
    · have hfalse : sep a = false := by simpa using ha
      cases init with
      | nil =>
        refine ⟨[], a :: last, cut_cons_of_not_sep hfalse hcut, by simp, fun m head tail hm => ?_⟩
        exact cut_cons_of_not_sep hfalse (happend m head tail hm)
      | cons first init =>
        refine ⟨(a :: first) :: init, last, cut_cons_of_not_sep hfalse hcut, ?_,
          fun m head tail hm => cut_cons_of_not_sep hfalse (happend m head tail hm)⟩
        intro b hb hsep
        cases l with
        | nil => exact absurd hcut (by simp [cut])
        | cons c l => exact hlast b (by rwa [List.getLast?_cons_cons] at hb) hsep

/-- A separator is in no piece. -/
theorem sep_of_mem_cut {α : Type} {sep : α → Bool} {l piece : List α} (h : piece ∈ cut sep l)
    {a : α} (ha : a ∈ piece) : sep a = false := by
  induction l generalizing piece with
  | nil =>
    rw [List.mem_singleton.mp h] at ha
    exact absurd ha List.not_mem_nil
  | cons b l ih =>
    by_cases hb : sep b = true
    · rw [cut_cons_of_sep hb] at h
      rcases List.mem_cons.mp h with rfl | h
      · exact absurd ha List.not_mem_nil
      · exact ih h ha
    · obtain ⟨first, pieces, hcut, hcons⟩ := exists_cut_cons sep l
      rw [hcons b (by simpa using hb)] at h
      rw [hcut] at ih
      rcases List.mem_cons.mp h with rfl | h
      · rcases List.mem_cons.mp ha with rfl | ha
        · simpa using hb
        · exact ih List.mem_cons_self ha
      · exact ih (List.mem_cons_of_mem first h) ha

/-- The pieces together are the list without its separators. -/
theorem flatten_cut {α : Type} (sep : α → Bool) (l : List α) :
    (cut sep l).flatten = l.filter (!sep ·) := by
  induction l with
  | nil => rfl
  | cons a l ih =>
    by_cases ha : sep a = true
    · rw [cut_cons_of_sep ha, List.flatten_cons, List.nil_append, ih,
        List.filter_cons_of_neg (by simp [ha])]
    · obtain ⟨first, pieces, hcut, hcons⟩ := exists_cut_cons sep l
      rw [hcut, List.flatten_cons] at ih
      rw [hcons a (by simpa using ha), List.flatten_cons, List.cons_append, ih,
        List.filter_cons_of_pos (by simp [ha])]

/-- The next place behind a position at which an element stands. -/
theorem exists_next {α : Type} {l : List α} {k : Nat} {a : α} (h : a ∈ l.drop (k + 1)) :
    ∃ j, k < j ∧ l[j]? = some a ∧ ∀ m, k < m → m < j → l[m]? ≠ some a := by
  obtain ⟨before, after, hsplit, hnot⟩ := List.eq_append_cons_of_mem h
  have hget : ∀ m, l[k + 1 + m]? = (before ++ a :: after)[m]? := by
    intro m
    rw [← hsplit, List.getElem?_drop]
  refine ⟨k + 1 + before.length, by omega, by simp [hget], fun m hkm hmj hm => ?_⟩
  rw [show m = k + 1 + (m - (k + 1)) by omega, hget, List.getElem?_append_left (by omega)] at hm
  exact hnot (List.mem_of_getElem? hm)

theorem mem_drop_succ {α : Type} {l : List α} {k j : Nat} {a : α} (hkj : k < j)
    (hj : l[j]? = some a) : a ∈ l.drop (k + 1) := by
  refine List.mem_iff_getElem?.mpr ⟨j - (k + 1), ?_⟩
  rw [List.getElem?_drop, show k + 1 + (j - (k + 1)) = j by omega]
  exact hj

/-- Where a list with one more element at its end can be split: at that element, or before it. -/
theorem append_singleton_eq_split {α : Type} {l before between : List α} {a b : α}
    (h : l ++ [a] = before ++ b :: between) :
    (between = [] ∧ before = l ∧ b = a) ∨
      ∃ front, between = front ++ [a] ∧ l = before ++ b :: front := by
  rcases List.eq_nil_or_concat between with rfl | ⟨front, last, rfl⟩
  · obtain ⟨hl, ha⟩ := List.append_inj' h rfl
    exact .inl ⟨rfl, hl.symm, (List.singleton_inj.mp ha).symm⟩
  · rw [List.concat_eq_append, ← List.cons_append, ← List.append_assoc] at h
    obtain ⟨hl, ha⟩ := List.append_inj' h rfl
    rw [List.singleton_inj.mp ha]
    exact .inr ⟨front, List.concat_eq_append, hl⟩

/-! ### Trimmed texts -/

namespace Text

/-- A blank at the end is trimmed away. -/
theorem trim_append_blank {c : Char} (h : isBlank c = true) (t : Text) :
    trim (t ++ [c]) = trim t := by
  unfold trim trimEnd
  rw [List.dropWhile_append]
  split
  · rename_i hempty
    rw [List.isEmpty_iff.mp hempty, List.dropWhile_cons_of_pos h]
    rfl
  · rw [List.reverse_append, List.reverse_singleton, List.singleton_append,
      List.dropWhile_cons_of_pos h]

theorem dropWhile_append_of_not_blank {c : Char} (h : isBlank c = false) (t : Text) :
    (t ++ [c]).dropWhile isBlank = t.dropWhile isBlank ++ [c] := by
  rw [List.dropWhile_append]
  split
  · rename_i hempty
    rw [List.isEmpty_iff.mp hempty, List.dropWhile_cons_of_neg (by simp [h])]
    rfl
  · rfl

/-- A character that is not blank stays at the end, and only blanks in front are trimmed away. -/
theorem trim_append_of_not_blank {c : Char} (h : isBlank c = false) (t : Text) :
    trim (t ++ [c]) = t.dropWhile isBlank ++ [c] := by
  unfold trim trimEnd
  rw [dropWhile_append_of_not_blank h, List.reverse_append, List.reverse_singleton,
    List.singleton_append, List.dropWhile_cons_of_neg (by simp [h]), List.reverse_cons,
    List.reverse_reverse]

theorem getLast?_trim_append {c : Char} (h : isBlank c = false) (t : Text) :
    (trim (t ++ [c])).getLast? = some c := by
  rw [trim_append_of_not_blank h, List.getLast?_append, List.getLast?_singleton]
  rfl

/-- Nothing is trimmed from a text whose ends are not blank. -/
theorem trim_eq_self {t : Text} {c d : Char} (hhead : t.head? = some c) (hc : isBlank c = false)
    (hlast : t.getLast? = some d) (hd : isBlank d = false) : t.trim = t := by
  obtain ⟨s, rfl⟩ := List.getLast?_eq_some_iff.mp hlast
  rw [trim_append_of_not_blank hd]
  cases s with
  | nil => rfl
  | cons first s =>
    rw [List.cons_append, List.head?_cons, Option.some_inj] at hhead
    rw [List.dropWhile_cons_of_neg (by simp [hhead, hc])]

theorem trim_append_blanks (t : Text) {trail : Text} (h : ∀ c ∈ trail, isBlank c = true) :
    trim (t ++ trail) = trim t := by
  induction trail generalizing t with
  | nil => rw [List.append_nil]
  | cons c trail ih =>
    have hsplit : t ++ c :: trail = (t ++ [c]) ++ trail := by simp
    rw [hsplit, ih (t ++ [c]) fun d hd => h d (List.mem_cons_of_mem c hd),
      trim_append_blank (h c List.mem_cons_self)]

theorem trim_blanks_append {lead : Text} (h : ∀ c ∈ lead, isBlank c = true) (t : Text) :
    trim (lead ++ t) = trim t := by
  unfold trim
  rw [List.dropWhile_append_of_pos h]

/-- Blanks around a text are trimmed away. -/
theorem trim_blanks {lead trail : Text} (hlead : ∀ c ∈ lead, isBlank c = true)
    (htrail : ∀ c ∈ trail, isBlank c = true) (t : Text) :
    trim (lead ++ t ++ trail) = trim t := by
  rw [trim_append_blanks _ htrail, trim_blanks_append hlead]

/-- A text is what is left of it between the blanks that were trimmed away. -/
theorem exists_eq_trim (t : Text) :
    ∃ lead trail, t = lead ++ t.trim ++ trail ∧ (∀ c ∈ lead, isBlank c = true) ∧
      ∀ c ∈ trail, isBlank c = true := by
  have hsplit : ∀ u : Text, u.trimEnd ++ (u.reverse.takeWhile isBlank).reverse = u := by
    intro u
    rw [trimEnd, ← List.reverse_append, List.takeWhile_append_dropWhile, List.reverse_reverse]
  refine ⟨t.takeWhile isBlank, ((t.dropWhile isBlank).reverse.takeWhile isBlank).reverse,
    ?_, ?_, ?_⟩
  · rw [List.append_assoc, trim, hsplit, List.takeWhile_append_dropWhile]
  · intro c hc
    exact List.all_eq_true.mp List.all_takeWhile c hc
  · intro c hc
    exact List.all_eq_true.mp List.all_takeWhile c (List.mem_reverse.mp hc)

theorem trim_trim (t : Text) : t.trim.trim = t.trim := by
  obtain ⟨lead, trail, ht, hlead, htrail⟩ := exists_eq_trim t
  calc t.trim.trim = (lead ++ t.trim ++ trail).trim := (trim_blanks hlead htrail t.trim).symm
    _ = t.trim := by rw [← ht]

theorem isBlank_of_getLast?_trim {t : Text} {c : Char} (h : t.trim.getLast? = some c) :
    isBlank c = false := by
  rw [trim, trimEnd, List.getLast?_reverse] at h
  have hhead := List.head?_dropWhile_not isBlank (t.dropWhile isBlank).reverse
  rw [h] at hhead
  exact hhead

theorem isBlank_of_head?_trim {t : Text} {c : Char} (h : t.trim.head? = some c) :
    isBlank c = false := by
  -- what is trimmed at the end stands behind the first character
  have hsplit : t.trim ++ ((t.dropWhile isBlank).reverse.takeWhile isBlank).reverse =
      t.dropWhile isBlank := by
    rw [trim, trimEnd, ← List.reverse_append, List.takeWhile_append_dropWhile,
      List.reverse_reverse]
  have hhead := List.head?_dropWhile_not isBlank t
  rw [← hsplit, List.head?_append, h] at hhead
  exact hhead

theorem mem_of_mem_trim {t : Text} {c : Char} (h : c ∈ t.trim) : c ∈ t := by
  obtain ⟨lead, trail, ht, -, -⟩ := exists_eq_trim t
  rw [ht]
  simp [h]

/-- A character that is not blank is not trimmed away. -/
theorem mem_trim {t : Text} {c : Char} (h : c ∈ t) (hc : isBlank c = false) : c ∈ t.trim := by
  obtain ⟨lead, trail, ht, hlead, htrail⟩ := exists_eq_trim t
  rw [ht, List.mem_append, List.mem_append] at h
  rcases h with (h | h) | h
  · exact absurd (hlead c h) (by simp [hc])
  · exact h
  · exact absurd (htrail c h) (by simp [hc])

/-- Lines that were joined are found again. -/
theorem lines_unlines {ls : List Text} (hne : ls ≠ []) (h : ∀ l ∈ ls, '\n' ∉ l) :
    (unlines ls).lines = ls := by
  rw [lines, cut_eq_splitOnP]
  exact List.splitOn_intercalate '\n' h hne

theorem newline_not_mem_of_mem_lines {t l : Text} (h : l ∈ t.lines) : '\n' ∉ l := by
  intro hnewline
  exact absurd (sep_of_mem_cut h hnewline) (by simp)

theorem lines_eq_singleton {t : Text} (h : '\n' ∉ t) : t.lines = [t] := by
  rw [lines, cut_eq_splitOnP, List.splitOnP_eq_singleton]
  intro c hc
  refine beq_false_of_ne ?_
  rintro rfl
  exact h hc

end Text

/-! ### Blanks and words -/

theorem isWord_of_isBlank {c : Char} (h : isBlank c = true) : isWord c = false := by
  have htable : ∀ band ∈ (9, 13) :: (28, 32) :: blankBands, ∀ k ≤ band.2 - band.1,
      isWord (Char.ofNat (band.1 + k)) = false := by
    decide +kernel
  obtain ⟨band, hband, hlow, hhigh⟩ : ∃ band ∈ (9, 13) :: (28, 32) :: blankBands,
      band.1 ≤ c.toNat ∧ c.toNat ≤ band.2 := by
    simp only [isBlank, inBands, Bool.or_eq_true, Bool.and_eq_true, decide_eq_true_eq,
      List.any_eq_true] at h
    rcases h with (h | h) | ⟨-, band, hband, h⟩
    · exact ⟨(9, 13), by simp, h⟩
    · exact ⟨(28, 32), by simp, h⟩
    · exact ⟨band, by simp [hband], h⟩
  have hc := htable band hband (c.toNat - band.1) (by omega)
  rwa [Nat.add_sub_cancel' hlow, Char.ofNat_toNat] at hc

end LivePage
