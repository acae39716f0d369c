/-
The tokens of a line are its maximal runs between separators.

Outside the pairs of quotes a blank separates tokens, and so does the quote
that has no partner. A run is a stretch of positions without a separator
that cannot be made longer at either end:

* `exists_runs` — the non-empty pieces of a list are its runs, from left to
  right;
* `glyphs_of_mem_cut` — the quotes of a token pair up within it as they do in
  the line, since no pair lies across a separator;
* `tokenize_eq_runs` — tokens are the runs of the line, each is a run of its
  own, and together they are the line without its separators;
* `tokenize_spaced_tokenize` — tokens that are written again, with single spaces
  between them, are read back.
-/
import LivePage.Proofs.Source.Pairing

namespace LivePage

/-! ### Runs -/

/-- A stretch of positions without a separator that goes on at neither end. -/
structure IsRun (sep : Nat → Prop) (length start stop : Nat) : Prop where
  lt : start < stop
  le : stop ≤ length
  unbroken : ∀ k, start ≤ k → k < stop → ¬ sep k
  left : start = 0 ∨ sep (start - 1)
  right : stop = length ∨ sep stop

theorem isRun_of_unbroken {sep : Nat → Prop} {n : Nat} (h : ∀ k, k < n → ¬ sep k)
    {start stop : Nat} : IsRun sep n start stop ↔ 0 < n ∧ start = 0 ∧ stop = n := by
  constructor
  · intro hrun
    have hlt := hrun.lt
    have hle := hrun.le
    have hstart : start = 0 := hrun.left.resolve_right (h _ (by omega))
    have hstop : stop = n := by
      rcases hrun.right with hstop | hsep
      · exact hstop
      · have hge : ¬ stop < n := fun hlt => h stop hlt hsep
        omega
    exact ⟨by omega, hstart, hstop⟩
  · rintro ⟨hpos, rfl, rfl⟩
    exact ⟨hpos, Nat.le_refl _, fun k _ hk => h k hk, .inl rfl, .inl rfl⟩

/-- The first separator cuts the runs in two: the stretch before it, and the runs behind it. -/
theorem isRun_of_first {sep behind : Nat → Prop} {d n : Nat} (hbefore : ∀ k, k < d → ¬ sep k)
    (hsep : sep d) (hbehind : ∀ k, sep (d + 1 + k) ↔ behind k) {start stop : Nat} :
    IsRun sep (d + 1 + n) start stop ↔ (0 < d ∧ start = 0 ∧ stop = d) ∨
      ∃ s e, start = d + 1 + s ∧ stop = d + 1 + e ∧ IsRun behind n s e := by
  constructor
  · intro hrun
    have hlt := hrun.lt
    have hle := hrun.le
    -- no run holds the separator, so a run ends before it or begins behind it
    have hside : stop ≤ d ∨ d < start := by
      by_contra hacross
      exact hrun.unbroken d (by omega) (by omega) hsep
    rcases hside with hstop | hstart
    · have hzero : start = 0 := hrun.left.resolve_right (hbefore _ (by omega))
      have hd : stop = d := by
        by_contra hne
        exact hbefore stop (by omega) (hrun.right.resolve_left (by omega))
      exact .inl ⟨by omega, hzero, hd⟩
    · refine .inr ⟨start - (d + 1), stop - (d + 1), by omega, by omega, ?_⟩
      have hshift : ∀ k, d + 1 ≤ k → (sep k ↔ behind (k - (d + 1))) := by
        intro k hk
        rw [← hbehind, show d + 1 + (k - (d + 1)) = k by omega]
      refine ⟨by omega, by omega, fun k hsk hke => ?_, ?_, ?_⟩
      · rw [← hbehind]
        exact hrun.unbroken _ (by omega) (by omega)
      · by_cases hfirst : start = d + 1
        · exact .inl (by omega)
        · have hleft := hrun.left.resolve_left (by omega)
          rw [hshift _ (by omega)] at hleft
          exact .inr (by rwa [show start - (d + 1) - 1 = start - 1 - (d + 1) by omega])
      · rcases hrun.right with hstop | hright
        · exact .inl (by omega)
        · exact .inr ((hshift _ (by omega)).mp hright)
  · rintro (⟨hd, rfl, rfl⟩ | ⟨s, e, rfl, rfl, hrun⟩)
    · exact ⟨hd, by omega, fun k _ hk => hbefore k hk, .inl rfl, .inr hsep⟩
    · have hlt := hrun.lt
      have hle := hrun.le
      refine ⟨by omega, by omega, fun k hsk hke => ?_, ?_, ?_⟩
      · rw [show k = d + 1 + (k - (d + 1)) by omega, hbehind]
        exact hrun.unbroken _ (by omega) (by omega)
      · refine .inr ?_
        rcases hrun.left with rfl | hleft
        · exact hsep
        · by_cases hzero : s = 0
          · rw [hzero]
            exact hsep
          · rw [show d + 1 + s - 1 = d + 1 + (s - 1) by omega, hbehind]
            exact hleft
      · rcases hrun.right with rfl | hright
        · exact .inl rfl
        · exact .inr ((hbehind e).mpr hright)

/-- The run that a stretch without separators gives: none if it is empty. -/
def runOf (length : Nat) : List (Nat × Nat) :=
  if length = 0 then [] else [(0, length)]

theorem mem_runOf {n start stop : Nat} :
    (start, stop) ∈ runOf n ↔ 0 < n ∧ start = 0 ∧ stop = n := by
  unfold runOf
  split
  · simp
    omega
  · simp
    omega

theorem map_runOf {α : Type} (piece rest : List α) :
    [piece].filter (!·.isEmpty) =
      (runOf piece.length).map fun r => ((piece ++ rest).take r.2).drop r.1 := by
  cases piece with
  | nil => rfl
  | cons a piece => simp [runOf]

/-- The non-empty pieces of a list are its runs, from left to right. -/
theorem exists_runs {α : Type} (sep : α → Bool) (l : List α) :
    ∃ runs : List (Nat × Nat), runs.Pairwise (fun r s => r.2 < s.1) ∧
      (∀ start stop, (start, stop) ∈ runs ↔
        IsRun (fun k => l[k]?.any sep = true) l.length start stop) ∧
      (cut sep l).filter (!·.isEmpty) = runs.map fun r => (l.take r.2).drop r.1 := by
  induction hn : l.length using Nat.strongRecOn generalizing l with
  | ind n ih =>
    subst hn
    -- the stretch before the first separator is a piece, and `ih` speaks of what is behind it
    obtain ⟨piece, rest, hl, hpiece, hrest⟩ : ∃ piece rest, l = piece ++ rest ∧
        (∀ a ∈ piece, sep a = false) ∧ ∀ a, rest.head? = some a → sep a = true := by
      refine ⟨l.takeWhile (!sep ·), l.dropWhile (!sep ·), ?_, fun a ha => ?_, fun a ha => ?_⟩
      · exact List.takeWhile_append_dropWhile.symm
      · simpa using List.all_eq_true.mp List.all_takeWhile a ha
      · have hhead := List.head?_dropWhile_not (!sep ·) l
        rw [ha] at hhead
        simpa using hhead
    subst hl
    have hbefore : ∀ k, k < piece.length → ¬ (piece ++ rest)[k]?.any sep = true := by
      intro k hk
      rw [List.getElem?_append_left hk, List.getElem?_eq_getElem hk]
      simpa using hpiece _ (List.getElem_mem hk)
    have hsingle : cut sep piece = [piece] := by
      rw [cut_eq_splitOnP, List.splitOnP_eq_singleton hpiece]
    cases rest with
    | nil =>
      refine ⟨runOf piece.length, ?_, fun start stop => ?_, ?_⟩
      · unfold runOf
        split <;> simp
      · rw [mem_runOf, List.append_nil] at *
        exact (isRun_of_unbroken hbefore).symm
      · rw [← map_runOf, List.append_nil, hsingle]
    | cons a rest =>
      have ha : sep a = true := hrest a rfl
      obtain ⟨runs, hsorted, hmem, hcut⟩ := ih rest.length (by simp; omega) rest rfl
      have hsep : (piece ++ a :: rest)[piece.length]?.any sep = true := by simp [ha]
      have hbehind : ∀ k, (piece ++ a :: rest)[piece.length + 1 + k]?.any sep = true ↔
          rest[k]?.any sep = true := by
        intro k
        rw [List.getElem?_append_right (by omega),
          show piece.length + 1 + k - piece.length = k + 1 by omega, List.getElem?_cons_succ]
      refine ⟨runOf piece.length ++
        runs.map fun r => (piece.length + 1 + r.1, piece.length + 1 + r.2), ?_, ?_, ?_⟩
      · rw [List.pairwise_append, List.pairwise_map]
        refine ⟨?_, hsorted.imp fun h => by omega, ?_⟩
        · unfold runOf
          split <;> simp
        · rintro ⟨start, stop⟩ hr s hs
          obtain ⟨-, -, rfl⟩ := mem_runOf.mp hr
          obtain ⟨r, -, rfl⟩ := List.mem_map.mp hs
          dsimp only
          omega
      · intro start stop
        rw [List.length_append, List.length_cons, ← Nat.add_assoc, Nat.add_right_comm,
          isRun_of_first hbefore hsep hbehind, List.mem_append, mem_runOf, List.mem_map]
        refine or_congr_right ⟨?_, ?_⟩
        · rintro ⟨⟨s, e⟩, hr, heq⟩
          rw [Prod.mk.injEq] at heq
          exact ⟨s, e, heq.1.symm, heq.2.symm, (hmem s e).mp hr⟩
        · rintro ⟨s, e, rfl, rfl, hrun⟩
          exact ⟨(s, e), (hmem s e).mpr hrun, rfl⟩
      · rw [cut_eq_splitOnP, List.splitOnP_append_cons piece rest ha, ← cut_eq_splitOnP,
          ← cut_eq_splitOnP, hsingle, List.filter_append, hcut, List.map_append, List.map_map,
          ← map_runOf]
        congr 2
        funext r
        have hlength : piece.length + 1 = (piece ++ [a]).length := by simp
        have hsplit : piece ++ a :: rest = (piece ++ [a]) ++ rest := by simp
        rw [Function.comp_apply, hsplit, hlength, List.take_length_add_append,
          List.drop_length_add_append]

/-! ### The quotes of a token -/

/-- Outside the pairs of quotes, blanks and quotes separate tokens. -/
def isSeparator (c : Char) : Bool :=
  isBlank c || c == '"'

theorem separates_eq_isOutside {line : Text} {g : Glyph} (hg : g ∈ glyphs line) :
    g.separates = g.isOutside isSeparator := by
  rcases g with ⟨c, _ | _ | _⟩
  · show isBlank c = (isBlank c || c == '"')
    rw [beq_false_of_ne (ne_quote_of_bare hg rfl), Bool.or_false]
  · rfl
  · have hc : c = '"' := eq_quote_of_stray hg rfl
    simp [Glyph.separates, Glyph.isOutside, isSeparator, hc]

theorem separates_iff {line : Text} {k : Nat} :
    Unquoted isSeparator line k ↔ (glyphs line)[k]?.any Glyph.separates = true := by
  rw [unquoted_iff]
  cases hg : (glyphs line)[k]? with
  | none => rfl
  | some g =>
    rw [Option.any_some, Option.any_some,
      separates_eq_isOutside (List.mem_of_getElem? hg)]

/-- The pieces of a line have the glyphs of their own text; the first piece of a line that begins
inside a pair of quotes has them as a text that begins there. -/
theorem glyphs_of_cut_eq {t : Text} {inside : Bool} (hquote : inside = true → '"' ∈ t)
    {first : List Glyph} {rest : List (List Glyph)}
    (hcut : cut Glyph.separates (glyphsFrom inside t) = first :: rest) :
    glyphsFrom inside (first.map Glyph.char) = first ∧
      (inside = true → '"' ∈ first.map Glyph.char) ∧
      ∀ piece ∈ rest, glyphs (piece.map Glyph.char) = piece := by
  induction t generalizing inside first rest with
  | nil =>
    have hinside : inside = false := by
      cases inside with
      | false => rfl
      | true => exact absurd (hquote rfl) List.not_mem_nil
    simp only [glyphsFrom, cut, List.cons.injEq] at hcut
    obtain ⟨rfl, rfl⟩ := hcut
    simp [glyphsFrom, hinside]
  | cons c t ih =>
    -- where the glyph of `c` separates, the first piece is empty and the next one begins outside
    have hends : ∀ g : Glyph, g.separates = true → inside = false →
        glyphsFrom inside (c :: t) = g :: glyphsFrom false t →
        glyphsFrom inside (first.map Glyph.char) = first ∧
          (inside = true → '"' ∈ first.map Glyph.char) ∧
          ∀ piece ∈ rest, glyphs (piece.map Glyph.char) = piece := by
      intro g hsep hinside hglyphs
      obtain ⟨piece, pieces, hnext, -⟩ := exists_cut_cons Glyph.separates (glyphsFrom false t)
      obtain ⟨hfirst, -, hrest⟩ := ih (by simp) hnext
      rw [hglyphs, cut_cons_of_sep hsep, hnext, List.cons.injEq] at hcut
      obtain ⟨rfl, rfl⟩ := hcut
      refine ⟨rfl, by simp [hinside], fun other hother => ?_⟩
      rcases List.mem_cons.mp hother with rfl | hother
      · exact hfirst
      · exact hrest other hother
    by_cases hc : c = '"'
    · subst hc
      by_cases hpair : (inside || t.contains '"') = true
      · have hglyphs : glyphsFrom inside ('"' :: t) =
            ⟨'"', .quoted⟩ :: glyphsFrom (!inside) t := by
          rw [glyphsFrom, if_pos rfl, if_pos hpair]
        obtain ⟨piece, pieces, hnext, -⟩ :=
          exists_cut_cons Glyph.separates (glyphsFrom (!inside) t)
        rw [hglyphs, cut_cons_of_not_sep rfl hnext, List.cons.injEq] at hcut
        obtain ⟨rfl, rfl⟩ := hcut
        obtain ⟨hfirst, hmem, hrest⟩ := ih (fun hnot => by simp_all) hnext
        refine ⟨?_, fun _ => List.mem_cons_self, hrest⟩
        -- the partner of an opening quote is still in the piece
        have hpartner : (inside || (piece.map Glyph.char).contains '"') = true := by
          cases inside with
          | true => rfl
          | false => simpa using hmem rfl
        rw [List.map_cons, glyphsFrom, if_pos rfl, if_pos hpartner, hfirst]
      · obtain ⟨hinside, hnot⟩ : inside = false ∧ '"' ∉ t := by simpa using hpair
        refine hends ⟨'"', .stray⟩ rfl hinside ?_
        rw [glyphsFrom, if_pos rfl, if_neg hpair, hinside]
    · have hglyphs : glyphsFrom inside (c :: t) =
          ⟨c, if inside then .quoted else .bare⟩ :: glyphsFrom inside t := by
        rw [glyphsFrom, if_neg hc]
      by_cases hsep : Glyph.separates ⟨c, if inside then .quoted else .bare⟩ = true
      · have hinside : inside = false := by
          cases inside with
          | false => rfl
          | true => exact absurd hsep (by simp [Glyph.separates])
        refine hends _ hsep hinside ?_
        rw [hglyphs, hinside]
      · obtain ⟨piece, pieces, hnext, -⟩ := exists_cut_cons Glyph.separates (glyphsFrom inside t)
        rw [hglyphs, cut_cons_of_not_sep (by simpa using hsep) hnext, List.cons.injEq] at hcut
        obtain ⟨rfl, rfl⟩ := hcut
        have hquote' : inside = true → '"' ∈ t := fun hinside =>
          (List.mem_cons.mp (hquote hinside)).resolve_left fun heq => hc heq.symm
        obtain ⟨hfirst, hmem, hrest⟩ := ih hquote' hnext
        refine ⟨?_, fun hinside => List.mem_cons_of_mem _ (hmem hinside), hrest⟩
        rw [List.map_cons, glyphsFrom, if_neg hc, hfirst]

/-- The quotes of a token pair up within it as they do in the line. -/
theorem glyphs_of_mem_cut {line : Text} {piece : List Glyph}
    (hpiece : piece ∈ cut Glyph.separates (glyphs line)) :
    glyphs (piece.map Glyph.char) = piece := by
  obtain ⟨first, rest, hcut, -⟩ := exists_cut_cons Glyph.separates (glyphs line)
  obtain ⟨hfirst, -, hrest⟩ := glyphs_of_cut_eq (by simp) hcut
  rw [hcut] at hpiece
  rcases List.mem_cons.mp hpiece with rfl | hpiece
  · exact hfirst
  · exact hrest piece hpiece

/-- No glyph of a token separates. -/
theorem separates_of_mem_tokenize {line : Text} {token : Token} (h : token ∈ tokenize line) :
    token.text ≠ [] ∧ ∀ g ∈ glyphs token.text, g.separates = false := by
  obtain ⟨piece, hpiece, rfl⟩ := List.mem_map.mp h
  obtain ⟨hcut, hne⟩ := List.mem_filter.mp hpiece
  refine ⟨by simpa using hne, fun g hg => ?_⟩
  rw [glyphs_of_mem_cut hcut] at hg
  exact sep_of_mem_cut hcut hg

theorem even_of_mem_tokenize {line : Text} {token : Token} (h : token ∈ tokenize line) :
    token.text.count '"' % 2 = 0 := by
  by_contra hodd
  obtain ⟨before, after, htext, hbefore, hafter⟩ := exists_stray (t := token.text) (by omega)
  have hstray : (⟨'"', .stray⟩ : Glyph) ∈ glyphs token.text := by
    rw [htext, glyphs_append (.inl hbefore), glyphs_cons_stray hafter]
    simp
  exact absurd ((separates_of_mem_tokenize h).2 _ hstray) (by decide)

/-- The tokens of a line are all there is in it but separators. -/
theorem flatMap_text_tokenize (line : Text) :
    (tokenize line).flatMap Token.text = without isSeparator line := by
  have hfilter : (glyphs line).filter (!·.separates) =
      (glyphs line).filter (!·.isOutside isSeparator) := by
    refine List.filter_congr fun g hg => ?_
    rw [separates_eq_isOutside hg]
  have hpieces : ((cut Glyph.separates (glyphs line)).filter (!·.isEmpty)).flatten =
      (glyphs line).filter (!·.separates) := by
    rw [List.flatten_filter_not_isEmpty, flatten_cut]
  rw [without_eq, ← hfilter, ← hpieces, List.map_flatten, tokenize, List.flatMap_map]
  rfl

/-- **The tokens of a line are its maximal runs between separators**, from left to right, where a
blank outside the pairs of quotes separates, and so does the quote without a partner. Each token has
its quotes paired and no separator of its own, and all tokens together are the line without its
separators. -/
theorem tokenize_eq_runs (line : Text) :
    (∃ runs : List (Nat × Nat), runs.Pairwise (fun r s => r.2 < s.1) ∧
        (∀ start stop, (start, stop) ∈ runs ↔
          IsRun (Unquoted isSeparator line) line.length start stop) ∧
        tokenize line = runs.map fun r => ⟨(line.take r.2).drop r.1⟩) ∧
      (∀ token ∈ tokenize line, token.text ≠ [] ∧ token.text.count '"' % 2 = 0 ∧
        ∀ k, ¬ Unquoted isSeparator token.text k) ∧
      (tokenize line).flatMap Token.text = without isSeparator line := by
  refine ⟨?_, fun token htoken => ?_, flatMap_text_tokenize line⟩
  · obtain ⟨runs, hsorted, hmem, hcut⟩ := exists_runs Glyph.separates (glyphs line)
    have hsep : (fun k => (glyphs line)[k]?.any Glyph.separates = true) =
        Unquoted isSeparator line := funext fun k => propext separates_iff.symm
    refine ⟨runs, hsorted, fun start stop => ?_, ?_⟩
    · rw [hmem, length_glyphs, hsep]
    · rw [tokenize, hcut, List.map_map]
      refine List.map_congr_left fun r _ => ?_
      rw [Function.comp_apply, List.map_drop, List.map_take, map_char_glyphs]
  · obtain ⟨hne, hsep⟩ := separates_of_mem_tokenize htoken
    refine ⟨hne, even_of_mem_tokenize htoken, fun k hk => ?_⟩
    obtain ⟨g, hg, hgsep⟩ := (Option.any_eq_true _ _).mp (separates_iff.mp hk)
    exact absurd hgsep (by simp [hsep g (List.mem_of_getElem? hg)])

/-! ### Tokens that are written again -/

/-- Tokens on one line, with single spaces between them. -/
def spaced (tokens : List Token) : Text :=
  List.intercalate [' '] (tokens.map Token.text)

theorem spaced_cons_cons (token next : Token) (rest : List Token) :
    spaced (token :: next :: rest) = token.text ++ ' ' :: spaced (next :: rest) := by
  rw [spaced, spaced, List.map_cons, List.map_cons, List.intercalate_cons_cons, List.append_assoc,
    List.singleton_append]

/-- A token is its own only token. -/
theorem tokenize_text_of_mem {line : Text} {token : Token} (h : token ∈ tokenize line) :
    tokenize token.text = [token] := by
  obtain ⟨hne, hsep⟩ := separates_of_mem_tokenize h
  exact tokenize_of_not_separates hne hsep

/-- No quote is stray among tokens that have their quotes paired. -/
theorem even_spaced {tokens : List Token} (h : ∀ token ∈ tokens, token.text.count '"' % 2 = 0) :
    (spaced tokens).count '"' % 2 = 0 := by
  induction tokens with
  | nil => rfl
  | cons token rest ih =>
    have htoken := h token List.mem_cons_self
    have hrest := ih fun other hother => h other (List.mem_cons_of_mem token hother)
    cases rest with
    | nil => simpa [spaced] using htoken
    | cons next rest =>
      rw [spaced_cons_cons, List.count_append, List.count_cons_of_ne (by decide)]
      omega

/-- Tokens that are their own only tokens are read back. The quotes of each are paired within it, so
no pair lies across the space behind it. -/
theorem tokenize_spaced {tokens : List Token}
    (h : ∀ token ∈ tokens, tokenize token.text = [token]) : tokenize (spaced tokens) = tokens := by
  induction tokens with
  | nil => rfl
  | cons token rest ih =>
    have htoken := h token List.mem_cons_self
    have hrest := ih fun other hother => h other (List.mem_cons_of_mem token hother)
    cases rest with
    | nil => simpa [spaced] using htoken
    | cons next rest =>
      have heven : token.text.count '"' % 2 = 0 :=
        even_of_mem_tokenize (htoken ▸ List.mem_singleton_self token)
      rw [spaced_cons_cons, tokenize_append_blank (by decide) (.inl heven), htoken, hrest,
        List.singleton_append]

/-- **Tokens that are written again are read back.** The tokens of a line, written with single
spaces between them, are the tokens of what is written, with the same texts and the same flags; and
no quote is stray there, also if one was in the line. -/
theorem tokenize_spaced_tokenize (line : Text) :
    tokenize (spaced (tokenize line)) = tokenize line ∧
      (tokenize (spaced (tokenize line))).map Token.quoted =
        (tokenize line).map Token.quoted ∧
      (spaced (tokenize line)).count '"' % 2 = 0 := by
  have hself : tokenize (spaced (tokenize line)) = tokenize line :=
    tokenize_spaced fun _ htoken => tokenize_text_of_mem htoken
  exact ⟨hself, by rw [hself], even_spaced fun _ htoken => even_of_mem_tokenize htoken⟩

end LivePage
