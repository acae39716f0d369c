/-
How the quotes of a line pair up, and what that does to its tokens.

Whether a character is quoted can be told from the two sides of it: an odd
number of quotes stand before it, and one more behind it. So the glyphs of
two texts that are joined are those of each, unless a pair of quotes lies
across the place where they meet:

* `glyphsFrom_cons` — the standing of a character by its two sides;
* `glyphs_append` — the glyphs of two texts that are joined;
* `standing_ne_stray` — no quote is stray among an even number of quotes;
* `tokenize_append_blank`, `tokenize_trim` — what blanks do to tokens;
* `tokenize_append_iff` — two texts that are joined have the tokens of both
  unless a token of one goes on in the other.
-/
import Mathlib.Data.List.Basic
import Mathlib.Data.List.Induction
import LivePage.Source.Token
import LivePage.Proofs.Text.Basic

namespace LivePage

/-! ### Standing by position -/

/-- The place between two parts of a line lies between a quote and its partner: quotes pair up from
left to right, so an odd number of them stands before it, and the partner is still to come. -/
def betweenQuotes (before after : Text) : Bool :=
  before.count '"' % 2 == 1 && after.contains '"'

/-- The standing of a character by what stands before it and behind it. -/
def standingAt (before : Text) (c : Char) (after : Text) : Standing :=
  if c = '"' then
    if before.count '"' % 2 == 1 || after.contains '"' then .quoted else .stray
  else if betweenQuotes before after then .quoted else .bare

/-- Glyphs are characters with their standing by position. -/
theorem glyphsFrom_cons (before : Text) (c : Char) (after : Text) :
    glyphsFrom (betweenQuotes before (c :: after)) (c :: after) =
      ⟨c, standingAt before c after⟩ ::
        glyphsFrom (betweenQuotes (before ++ [c]) after) after := by
  by_cases hc : c = '"'
  · subst hc
    have hnow : betweenQuotes before ('"' :: after) = (before.count '"' % 2 == 1) := by
      simp [betweenQuotes]
    have hnext : betweenQuotes (before ++ ['"']) after =
        ((before.count '"' + 1) % 2 == 1 && after.contains '"') := by
      simp [betweenQuotes]
    rw [hnow, hnext, standingAt, if_pos rfl, glyphsFrom, if_pos rfl]
    rcases Nat.mod_two_eq_zero_or_one (before.count '"') with hparity | hparity
    · have hsucc : (before.count '"' + 1) % 2 = 1 := by omega
      rw [hparity, hsucc]
      cases after.contains '"' <;> rfl
    · have hsucc : (before.count '"' + 1) % 2 = 0 := by omega
      rw [hparity, hsucc]
      cases after.contains '"' <;> rfl
  · have hne : ('"' == c) = false := beq_false_of_ne (Ne.symm hc)
    have hnow : betweenQuotes before (c :: after) = betweenQuotes before after := by
      simp only [betweenQuotes, List.contains_cons, hne, Bool.false_or]
    have hnext : betweenQuotes (before ++ [c]) after = betweenQuotes before after := by
      simp [betweenQuotes, hc]
    rw [hnow, hnext, standingAt, if_neg hc, glyphsFrom, if_neg hc]

/-! ### Glyphs of joined texts -/

theorem quote_mem_of_odd {t : Text} (h : t.count '"' % 2 = 1) : '"' ∈ t := by
  refine List.count_pos_iff.mp ?_
  omega

/-- In a text that ends outside its pairs, a quote at the front has a partner, or is one. -/
theorem partner_of_even {inside : Bool} {t : Text}
    (h : (t.count '"' + 1 + inside.toNat) % 2 = 0) : (inside || t.contains '"') = true := by
  cases inside with
  | true => rfl
  | false =>
    have hmem : '"' ∈ t := quote_mem_of_odd (by rw [Bool.toNat_false] at h; omega)
    simpa using hmem

/-- Behind a quote the rest ends outside its pairs too. -/
theorem even_not_toNat {inside : Bool} {n : Nat} (h : (n + 1 + inside.toNat) % 2 = 0) :
    (n + (!inside).toNat) % 2 = 0 := by
  cases inside with
  | true =>
    rw [Bool.toNat_true] at h
    rw [Bool.not_true, Bool.toNat_false]
    omega
  | false =>
    rw [Bool.toNat_false] at h
    rw [Bool.not_false, Bool.toNat_true]
    omega

theorem map_char_glyphsFrom (inside : Bool) (t : Text) :
    (glyphsFrom inside t).map Glyph.char = t := by
  induction t generalizing inside with
  | nil => rfl
  | cons c t ih =>
    rw [glyphsFrom]
    split
    · split <;> rw [List.map_cons, ih]
    · rw [List.map_cons, ih]

theorem map_char_glyphs (t : Text) : (glyphs t).map Glyph.char = t :=
  map_char_glyphsFrom false t

theorem length_glyphs (t : Text) : (glyphs t).length = t.length := by
  rw [← List.length_map (f := Glyph.char), map_char_glyphs]

/-- No pair of quotes lies across the place where two texts meet: either the first text ends
outside its pairs, or the second one has no quotes. -/
theorem glyphsFrom_append {inside : Bool} {s t : Text}
    (h : (s.count '"' + inside.toNat) % 2 = 0 ∨ '"' ∉ t ∧ (inside = true → '"' ∈ s)) :
    glyphsFrom inside (s ++ t) = glyphsFrom inside s ++ glyphs t := by
  induction s generalizing inside with
  | nil =>
    have hinside : inside = false := by
      cases inside with
      | false => rfl
      | true => simp at h
    rw [hinside]
    rfl
  | cons c s ih =>
    rw [List.cons_append, glyphsFrom, glyphsFrom]
    by_cases hc : c = '"'
    · subst hc
      rw [if_pos rfl, if_pos rfl]
      rw [List.count_cons_self] at h
      -- the quote has a partner in both texts or in none
      have hpartner : (inside || (s ++ t).contains '"') = (inside || s.contains '"') := by
        rcases h with heven | ⟨hnot, -⟩
        · have hpair := partner_of_even heven
          rw [hpair]
          cases inside with
          | true => rfl
          | false =>
            have hmem : '"' ∈ s := by simpa using hpair
            simp [hmem]
        · simp [hnot]
      rw [hpartner]
      split
      · rename_i hpair
        rw [ih, List.cons_append]
        refine h.imp even_not_toNat fun hright => ⟨hright.1, fun hnext => ?_⟩
        simpa [show inside = false by simpa using hnext] using hpair
      · rename_i hstray
        have hboth : inside = false ∧ '"' ∉ s := by simpa using hstray
        rw [ih, List.cons_append]
        rcases h with heven | ⟨hnot, -⟩
        · exact absurd (partner_of_even heven) hstray
        · exact .inr ⟨hnot, by simp [hboth.1]⟩
    · rw [if_neg hc, if_neg hc, ih, List.cons_append]
      rw [List.count_cons_of_ne hc] at h
      refine h.imp_right fun hright => ⟨hright.1, fun hinside => ?_⟩
      exact (List.mem_cons.mp (hright.2 hinside)).resolve_left fun heq => hc heq.symm

theorem glyphs_append {s t : Text} (h : s.count '"' % 2 = 0 ∨ '"' ∉ t) :
    glyphs (s ++ t) = glyphs s ++ glyphs t :=
  glyphsFrom_append (h.imp_right fun hnot => ⟨hnot, by simp⟩)

theorem glyphs_cons_of_ne {c : Char} (hc : c ≠ '"') (t : Text) :
    glyphs (c :: t) = ⟨c, .bare⟩ :: glyphs t := by
  rw [glyphs, glyphsFrom, if_neg hc]
  rfl

theorem glyphs_of_not_mem {t : Text} (h : '"' ∉ t) : glyphs t = t.map (⟨·, .bare⟩) := by
  induction t with
  | nil => rfl
  | cons c t ih =>
    rw [List.mem_cons, not_or] at h
    rw [glyphs_cons_of_ne (Ne.symm h.1), ih h.2]
    rfl

theorem glyphs_cons_stray {t : Text} (h : '"' ∉ t) :
    glyphs ('"' :: t) = ⟨'"', .stray⟩ :: glyphs t := by
  rw [glyphs, glyphsFrom, if_pos rfl, if_neg (by simpa using h)]
  rfl

/-- A text between two quotes is quoted, with its quotes. -/
theorem glyphs_quotation {t : Text} (h : '"' ∉ t) :
    glyphs ('"' :: t ++ ['"']) = ('"' :: t ++ ['"']).map (⟨·, .quoted⟩) := by
  have hinner : glyphsFrom true (t ++ ['"']) = (t ++ ['"']).map (⟨·, .quoted⟩) := by
    induction t with
    | nil => rfl
    | cons c t ih =>
      rw [List.mem_cons, not_or] at h
      rw [List.cons_append, glyphsFrom, if_neg (Ne.symm h.1), ih h.2]
      rfl
  rw [List.cons_append, glyphs, glyphsFrom, if_pos rfl, if_pos (by simp), Bool.not_false, hinner]
  rfl

/-- Among an even number of quotes every one has a partner. -/
theorem standing_ne_stray_from {inside : Bool} {t : Text}
    (h : (t.count '"' + inside.toNat) % 2 = 0) {g : Glyph} (hg : g ∈ glyphsFrom inside t) :
    g.standing ≠ .stray := by
  induction t generalizing inside with
  | nil => exact absurd hg (by simp [glyphsFrom])
  | cons c t ih =>
    rw [glyphsFrom] at hg
    by_cases hc : c = '"'
    · subst hc
      rw [List.count_cons_self] at h
      rw [if_pos rfl, if_pos (partner_of_even h)] at hg
      rcases List.mem_cons.mp hg with rfl | hrest
      · simp
      · exact ih (even_not_toNat h) hrest
    · rw [if_neg hc] at hg
      rw [List.count_cons_of_ne hc] at h
      rcases List.mem_cons.mp hg with rfl | hrest
      · dsimp only
        split <;> simp
      · exact ih h hrest

theorem standing_ne_stray {t : Text} (h : t.count '"' % 2 = 0) {g : Glyph} (hg : g ∈ glyphs t) :
    g.standing ≠ .stray := by
  refine standing_ne_stray_from ?_ hg
  rw [Bool.toNat_false]
  exact h

/-- A text with an odd number of quotes has a stray one, behind which no quote stands. -/
theorem exists_stray {t : Text} (h : t.count '"' % 2 = 1) :
    ∃ before after, t = before ++ '"' :: after ∧ before.count '"' % 2 = 0 ∧ '"' ∉ after := by
  obtain ⟨after, before, hsplit, hnot⟩ :=
    List.eq_append_cons_of_mem (List.mem_reverse.mpr (quote_mem_of_odd h))
  have ht : t = before.reverse ++ '"' :: after.reverse := by
    rw [← List.reverse_reverse t, hsplit]
    simp
  have hafter : '"' ∉ after.reverse := by simpa using hnot
  have heven : before.reverse.count '"' % 2 = 0 := by
    rw [ht, List.count_append, List.count_cons_self, List.count_eq_zero.mpr hafter] at h
    omega
  exact ⟨before.reverse, after.reverse, ht, heven, hafter⟩

/-! ### Tokens of joined texts -/

/-- The tokens of some glyphs. -/
def tokensOf (gs : List Glyph) : List Token :=
  ((cut Glyph.separates gs).filter (!·.isEmpty)).map fun piece => ⟨piece.map Glyph.char⟩

theorem tokenize_eq (t : Text) : tokenize t = tokensOf (glyphs t) := rfl

theorem tokensOf_append_cons {g : Glyph} (h : g.separates = true) (gs hs : List Glyph) :
    tokensOf (gs ++ g :: hs) = tokensOf gs ++ tokensOf hs := by
  unfold tokensOf
  rw [cut_eq_splitOnP, cut_eq_splitOnP, cut_eq_splitOnP, List.splitOnP_append_cons gs hs h,
    List.filter_append, List.map_append]

/-- A text in which no glyph separates is one token. -/
theorem tokenize_of_not_separates {t : Text} (hne : t ≠ [])
    (h : ∀ g ∈ glyphs t, g.separates = false) : tokenize t = [⟨t⟩] := by
  have hchars := map_char_glyphs t
  have hglyphs : glyphs t ≠ [] := by
    intro hnil
    rw [hnil] at hchars
    exact hne hchars.symm
  rw [tokenize_eq, tokensOf, cut_eq_splitOnP, List.splitOnP_eq_singleton h]
  simp [hglyphs, hchars]

/-- Where neither neighbour separates, two tokens become one. -/
theorem length_tokensOf_append {gs hs : List Glyph} {g h : Glyph} (hlast : gs.getLast? = some g)
    (hg : g.separates = false) (hhead : hs.head? = some h) (hh : h.separates = false) :
    (tokensOf (gs ++ hs)).length + 1 = (tokensOf gs).length + (tokensOf hs).length := by
  obtain ⟨init, last, hcut, hne, happend⟩ := exists_cut_append Glyph.separates gs
  obtain ⟨hs, rfl⟩ : ∃ tail, hs = h :: tail := by
    cases hs with
    | nil => exact absurd hhead (by simp)
    | cons first tail => exact ⟨tail, by rw [List.head?_cons, Option.some_inj] at hhead; rw [hhead]⟩
  obtain ⟨piece, pieces, -, hcons⟩ := exists_cut_cons Glyph.separates hs
  have hcuts := happend _ _ _ (hcons h hh)
  have hlastNe : last ≠ [] := hne g hlast hg
  unfold tokensOf
  rw [hcuts, hcut, hcons h hh]
  simp only [List.length_map, List.filter_append, List.length_append]
  simp [hlastNe]
  omega

theorem ne_quote_of_isBlank {c : Char} (h : isBlank c = true) : c ≠ '"' := by
  rintro rfl
  exact absurd h (by decide)

/-- A blank outside quotes ends the tokens before it. -/
theorem tokenize_append_blank {s : Text} {c : Char} (hc : isBlank c = true) {t : Text}
    (h : s.count '"' % 2 = 0 ∨ '"' ∉ t) : tokenize (s ++ c :: t) = tokenize s ++ tokenize t := by
  have hquote := ne_quote_of_isBlank hc
  have hacross : s.count '"' % 2 = 0 ∨ '"' ∉ c :: t :=
    h.imp_right fun hnot => by simp [Ne.symm hquote, hnot]
  have hseparates : Glyph.separates ⟨c, .bare⟩ = true := hc
  rw [tokenize_eq, glyphs_append hacross, glyphs_cons_of_ne hquote,
    tokensOf_append_cons hseparates]
  rfl

/-- A stray quote ends the token it interrupts. -/
theorem tokenize_append_stray {s t : Text} (hs : s.count '"' % 2 = 0) (ht : '"' ∉ t) :
    tokenize (s ++ '"' :: t) = tokenize s ++ tokenize t := by
  have hseparates : Glyph.separates ⟨'"', .stray⟩ = true := rfl
  rw [tokenize_eq, glyphs_append (.inl hs), glyphs_cons_stray ht, tokensOf_append_cons hseparates]
  rfl

theorem tokenize_cons_blank {c : Char} (hc : isBlank c = true) (t : Text) :
    tokenize (c :: t) = tokenize t :=
  @tokenize_append_blank [] c hc t (.inl rfl)

theorem tokenize_dropWhile_blank (t : Text) : tokenize (t.dropWhile isBlank) = tokenize t := by
  induction t with
  | nil => rfl
  | cons c t ih =>
    by_cases hc : isBlank c = true
    · rw [List.dropWhile_cons_of_pos hc, ih, tokenize_cons_blank hc]
    · rw [List.dropWhile_cons_of_neg hc]

/-- Blanks at the ends belong to no token. -/
theorem tokenize_trim (t : Text) : tokenize t.trim = tokenize t := by
  induction t using List.reverseRecOn with
  | nil => rfl
  | append_singleton t c ih =>
    by_cases hc : isBlank c = true
    · rw [Text.trim_append_blank hc, ih, tokenize_append_blank hc (.inr (by simp))]
      exact (List.append_nil _).symm
    · have hfalse : isBlank c = false := by simpa using hc
      rw [Text.trim_append_of_not_blank hfalse, ← Text.dropWhile_append_of_not_blank hfalse,
        tokenize_dropWhile_blank]

/-- Two texts that are joined have the tokens of both, unless a token of the first one goes on in
the second. -/
theorem tokenize_append_iff {s t : Text} (hs : s.count '"' % 2 = 0) (ht : '"' ∉ t) :
    tokenize (s ++ t) = tokenize s ++ tokenize t ↔
      ¬ ∃ a b, s.getLast? = some a ∧ isBlank a = false ∧ t.head? = some b ∧ isBlank b = false := by
  constructor
  · rintro heq ⟨a, b, ha, hablank, hb, hbblank⟩
    obtain ⟨s, rfl⟩ := List.getLast?_eq_some_iff.mp ha
    obtain ⟨t, rfl⟩ := List.head?_eq_some_iff.mp hb
    -- neither glyph separates: the quotes are paired, and the others are not blank
    have hlast : ∃ g, (glyphs (s ++ [a])).getLast? = some g ∧ g.separates = false := by
      have hchar : (glyphs (s ++ [a])).getLast?.map Glyph.char = some a := by
        rw [← List.getLast?_map, map_char_glyphs, List.getLast?_concat]
      obtain ⟨g, hg, hga⟩ := Option.map_eq_some_iff.mp hchar
      refine ⟨g, hg, ?_⟩
      have hstray := standing_ne_stray hs (List.mem_of_getLast? hg)
      rcases g with ⟨c, _ | _ | _⟩
      · rw [← hga] at hablank
        exact hablank
      · rfl
      · exact absurd rfl hstray
    have hhead : (glyphs (b :: t)).head? = some ⟨b, .bare⟩ := by
      rw [glyphs_of_not_mem ht]
      rfl
    obtain ⟨g, hg, hgsep⟩ := hlast
    have hlength := length_tokensOf_append hg hgsep hhead hbblank
    rw [← glyphs_append (.inl hs), ← tokenize_eq, heq, List.length_append] at hlength
    simp only [tokenize_eq] at hlength
    omega
  · intro hnot
    rcases List.eq_nil_or_concat' s with rfl | ⟨s, a, rfl⟩
    · rfl
    cases t with
    | nil =>
      rw [List.append_nil]
      exact (List.append_nil _).symm
    | cons b t =>
      by_cases ha : isBlank a = true
      · rw [List.append_assoc, List.singleton_append, tokenize_append_blank ha (.inr ht),
          tokenize_append_blank ha (.inr (by simp))]
        rw [show tokenize [] = [] from rfl, List.append_nil]
      · by_cases hb : isBlank b = true
        · rw [tokenize_append_blank hb (.inl hs), tokenize_cons_blank hb]
        · refine absurd ⟨a, b, ?_, by simpa using ha, rfl, by simpa using hb⟩ hnot
          exact List.getLast?_concat

end LivePage
