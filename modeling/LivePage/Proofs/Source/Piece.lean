/-
The pieces of a line and their tokens.

A line whose quotes are all paired falls into plain parts, with a bare brace
between each two of them, and its pieces can be read off these parts:

* `broken_of_even` — every such line has this form;
* `unfoldBraces_of_plain`, `unfoldBraces_open`, `unfoldBraces_close` — the
  pieces of a plain part, and of a part with a brace behind it;
* `unfoldBraces_dropStray` — a stray quote is in no piece;
* `pieceTokens_eq_tokenize_iff` — the pieces have the tokens of the line,
  its bare braces read as blanks, exactly if no stray quote stands inside a
  token. A stray quote that does is left out, and the token goes on.

Design notes: the parts are those between bare braces and not the pieces
themselves, since a piece is trimmed and may be dropped. Whatever is said of
pieces is proved by induction on the parts.
-/
import LivePage.Proofs.Source.Brace
import LivePage.Proofs.Source.Quote

namespace LivePage

/-! ### Plain parts -/

/-- A text whose quotes are paired and whose braces are quoted. -/
structure IsPlain (t : Text) : Prop where
  /-- Every quote has a partner. -/
  even : t.count '"' % 2 = 0
  /-- Every brace is quoted. -/
  braceless : bareBraces (glyphs t) = []

theorem bareBraces_append (gs hs : List Glyph) :
    bareBraces (gs ++ hs) = bareBraces gs ++ bareBraces hs := by
  simp [bareBraces]

namespace IsPlain

theorem nil : IsPlain [] :=
  ⟨rfl, rfl⟩

theorem append {s t : Text} (hs : IsPlain s) (ht : IsPlain t) : IsPlain (s ++ t) := by
  constructor
  · have hseven := hs.even
    have hteven := ht.even
    rw [List.count_append]
    omega
  · rw [glyphs_append (.inl hs.even), bareBraces_append, hs.braceless, ht.braceless,
      List.append_nil]

theorem of_not_mem {t : Text} (hquote : '"' ∉ t) (hopen : '{' ∉ t) (hclose : '}' ∉ t) :
    IsPlain t := by
  refine ⟨by rw [List.count_eq_zero.mpr hquote], ?_⟩
  exact bareBraces_of_not_contains (by simp [hopen, hclose])

/-- Between quotes a text may hold any braces. -/
theorem quotation {t : Text} (h : '"' ∉ t) : IsPlain ('"' :: t ++ ['"']) := by
  constructor
  · rw [List.cons_append, List.count_cons_self, List.count_append, List.count_eq_zero.mpr h]
    rfl
  · unfold bareBraces
    rw [glyphs_quotation h, List.filter_eq_nil_iff.mpr, List.map_nil]
    intro g hg
    obtain ⟨c, -, rfl⟩ := List.mem_map.mp hg
    simp [Glyph.isBare]

/-- No glyph of a plain text is a bare brace or a stray quote. -/
theorem inert {t : Text} (h : IsPlain t) {g : Glyph} (hg : g ∈ glyphs t) :
    g.isBare '{' = false ∧ g.isBare '}' = false ∧ g.standing ≠ .stray := by
  have hbare := h.braceless
  unfold bareBraces at hbare
  have hnot := List.filter_eq_nil_iff.mp (List.map_eq_nil_iff.mp hbare) g hg
  rw [Bool.or_eq_true, not_or, Bool.not_eq_true, Bool.not_eq_true] at hnot
  exact ⟨hnot.1, hnot.2, standing_ne_stray h.even hg⟩

end IsPlain

/-- A line taken apart at its bare braces. -/
inductive Broken : Text → Prop
  /-- No bare brace is left. -/
  | plain {line : Text} : IsPlain line → Broken line
  /-- The first bare brace stands behind a plain part. -/
  | brace {part : Text} {b : Char} {rest : Text} :
      IsPlain part → b = '{' ∨ b = '}' → Broken rest → Broken (part ++ b :: rest)

theorem Broken.prepend {s line : Text} (hs : IsPlain s) (h : Broken line) : Broken (s ++ line) := by
  cases h with
  | plain hplain => exact .plain (hs.append hplain)
  | brace hpart hb hrest =>
    rw [← List.append_assoc]
    exact .brace (hs.append hpart) hb hrest

theorem broken_of_even {line : Text} (h : line.count '"' % 2 = 0) : Broken line := by
  -- the induction is on the length: behind a quote it goes on behind the partner
  induction hn : line.length using Nat.strongRecOn generalizing line with
  | ind n ih =>
    cases line with
    | nil => exact .plain .nil
    | cons c rest =>
      subst hn
      by_cases hquote : c = '"'
      · subst hquote
        rw [List.count_cons_self] at h
        obtain ⟨inner, rest, rfl, hnot⟩ :=
          List.eq_append_cons_of_mem (quote_mem_of_odd (show rest.count '"' % 2 = 1 by omega))
        have heven : rest.count '"' % 2 = 0 := by
          rw [List.count_append, List.count_cons_self, List.count_eq_zero.mpr hnot] at h
          omega
        have hrest : Broken rest := by
          refine ih rest.length ?_ heven rfl
          simp only [List.length_cons, List.length_append]
          omega
        have hsplit : '"' :: (inner ++ '"' :: rest) = ('"' :: inner ++ ['"']) ++ rest := by simp
        rw [hsplit]
        exact hrest.prepend (.quotation hnot)
      · rw [List.count_cons_of_ne hquote] at h
        have hrest : Broken rest := ih rest.length (by simp) h rfl
        by_cases hbrace : c = '{' ∨ c = '}'
        · exact .brace .nil hbrace hrest
        · rw [not_or] at hbrace
          refine hrest.prepend (s := [c]) (.of_not_mem ?_ ?_ ?_)
          · simpa using Ne.symm hquote
          · simpa using Ne.symm hbrace.1
          · simpa using Ne.symm hbrace.2

/-! ### Pieces -/

theorem bracePieces_append_of_inert {gs : List Glyph}
    (h : ∀ g ∈ gs, g.isBare '{' = false ∧ g.isBare '}' = false ∧ g.standing ≠ .stray)
    (hs : List Glyph) :
    bracePieces (gs ++ hs) = prependHead (gs.map Glyph.char) (bracePieces hs) := by
  induction gs with
  | nil => exact (prependHead_nil_bracePieces hs).symm
  | cons g gs ih =>
    obtain ⟨hopen, hclose, hstray⟩ := h g List.mem_cons_self
    rw [List.cons_append, bracePieces_cons_of_inert hopen hclose hstray,
      ih fun other hother => h other (List.mem_cons_of_mem g hother)]
    cases bracePieces hs <;> rfl

theorem bracePieces_append_of_plain {t : Text} (h : IsPlain t) (gs : List Glyph) :
    bracePieces (glyphs t ++ gs) = prependHead t (bracePieces gs) := by
  rw [bracePieces_append_of_inert fun g hg => h.inert hg, map_char_glyphs]

theorem bracePieces_of_plain {t : Text} (h : IsPlain t) : bracePieces (glyphs t) = [t] := by
  have hpieces := bracePieces_append_of_plain h []
  rw [List.append_nil] at hpieces
  rw [hpieces]
  simp [bracePieces, prependHead]

/-- A plain text ends with no brace. -/
theorem IsPlain.pieceBrace?_trim {t : Text} (h : IsPlain t) : pieceBrace? t.trim = none := by
  have hscan := filterMap_pieceBrace?_prependHead t false [] (by simp) fun _ => endsPlain_nil
  have hnil := h.braceless
  rw [glyphs] at hnil
  rw [prependHead_nil_bracePieces, hnil, ← glyphs, bracePieces_of_plain h] at hscan
  simpa using hscan

theorem IsPlain.opensBlock_trim {t : Text} (h : IsPlain t) : opensBlock t.trim = false := by
  by_contra hopens
  have hbrace := h.pieceBrace?_trim
  rw [pieceBrace?, braceBy?, if_pos (by simpa using hopens)] at hbrace
  exact absurd hbrace (by simp)

theorem IsPlain.trim_ne_close {t : Text} (h : IsPlain t) : t.trim ≠ ['}'] := by
  intro hclose
  have hbrace := h.pieceBrace?_trim
  rw [hclose] at hbrace
  exact absurd hbrace (by decide)

/-- The piece that a plain part gives: none if it is blank. -/
def plainPiece (part : Text) : List Text :=
  [part.trim].filter (!·.isEmpty)

theorem unfoldBraces_of_plain {t : Text} (h : IsPlain t) : unfoldBraces t = plainPiece t := by
  rw [unfoldBraces, bracePieces_of_plain h, List.map_singleton, plainPiece]

theorem glyphs_append_brace {part : Text} (h : IsPlain part) {b : Char} (hb : b ≠ '"')
    (rest : Text) : glyphs (part ++ b :: rest) = glyphs part ++ ⟨b, .bare⟩ :: glyphs rest := by
  rw [glyphs_append (.inl h.even), glyphs_cons_of_ne hb]

/-- A bare opening brace ends its piece. -/
theorem unfoldBraces_open {part : Text} (h : IsPlain part) (rest : Text) :
    unfoldBraces (part ++ '{' :: rest) = (part ++ ['{']).trim :: unfoldBraces rest := by
  have hbrace : bracePieces (⟨'{', .bare⟩ :: glyphs rest) = ['{'] :: bracePieces (glyphs rest) :=
    rfl
  have hne : (part ++ ['{']).trim ≠ [] := by
    rw [Text.trim_append_of_not_blank (by decide)]
    exact List.append_ne_nil_of_right_ne_nil _ (List.cons_ne_nil _ _)
  rw [unfoldBraces, glyphs_append_brace h (by decide), bracePieces_append_of_plain h, hbrace,
    prependHead, List.map_cons, List.filter_cons_of_pos (by simpa using hne)]
  rfl

/-- A bare closing brace is a piece of its own. -/
theorem unfoldBraces_close {part : Text} (h : IsPlain part) (rest : Text) :
    unfoldBraces (part ++ '}' :: rest) = plainPiece part ++ ['}'] :: unfoldBraces rest := by
  have hbrace : bracePieces (⟨'}', .bare⟩ :: glyphs rest) =
      [] :: ['}'] :: bracePieces (glyphs rest) := rfl
  have htrim : Text.trim ['}'] = ['}'] := by decide
  rw [unfoldBraces, glyphs_append_brace h (by decide), bracePieces_append_of_plain h, hbrace,
    prependHead, List.append_nil, List.map_cons, List.map_cons, htrim, ← List.singleton_append,
    List.filter_append]
  rfl

/-! ### Stray quotes -/

/-- The line without its stray quote, which is the last of an odd number of quotes. -/
def dropStray (line : Text) : Text :=
  if line.count '"' % 2 = 1 then (line.reverse.erase '"').reverse else line

theorem dropStray_of_even {line : Text} (h : line.count '"' % 2 = 0) : dropStray line = line := by
  rw [dropStray, if_neg (by omega)]

theorem dropStray_append {before after : Text} (hbefore : before.count '"' % 2 = 0)
    (hafter : '"' ∉ after) : dropStray (before ++ '"' :: after) = before ++ after := by
  have hodd : (before ++ '"' :: after).count '"' % 2 = 1 := by
    rw [List.count_append, List.count_cons_self, List.count_eq_zero.mpr hafter]
    omega
  have hnot : '"' ∉ after.reverse := by simpa using hafter
  rw [dropStray, if_pos hodd, List.reverse_append, List.reverse_cons, List.append_assoc,
    List.erase_append_right _ hnot]
  simp

theorem count_dropStray (line : Text) : (dropStray line).count '"' % 2 = 0 := by
  rcases Nat.mod_two_eq_zero_or_one (line.count '"') with heven | hodd
  · rw [dropStray_of_even heven]
    exact heven
  · obtain ⟨before, after, rfl, hbefore, hafter⟩ := exists_stray hodd
    rw [dropStray_append hbefore hafter, List.count_append, List.count_eq_zero.mpr hafter]
    exact hbefore

theorem bracePieces_append_stray (gs hs : List Glyph) {g : Glyph} (hg : g.standing = .stray) :
    bracePieces (gs ++ g :: hs) = bracePieces (gs ++ hs) := by
  induction gs with
  | nil =>
    have hbare : ∀ c, g.isBare c = false := by
      intro c
      simp [Glyph.isBare, hg]
    rw [List.nil_append, List.nil_append, bracePieces, hbare, hbare, if_neg (by simp),
      if_neg (by simp), if_pos hg]
  | cons first gs ih =>
    rw [List.cons_append, List.cons_append, bracePieces, bracePieces, ih]

/-- A stray quote is in no piece. -/
theorem unfoldBraces_dropStray (line : Text) :
    unfoldBraces (dropStray line) = unfoldBraces line := by
  rcases Nat.mod_two_eq_zero_or_one (line.count '"') with heven | hodd
  · rw [dropStray_of_even heven]
  · obtain ⟨before, after, rfl, hbefore, hafter⟩ := exists_stray hodd
    rw [dropStray_append hbefore hafter, unfoldBraces, unfoldBraces,
      glyphs_append (.inl hbefore), glyphs_append (.inl hbefore), glyphs_cons_stray hafter,
      bracePieces_append_stray _ _ rfl]

/-! ### Braces read as blanks -/

/-- The two braces. -/
def isBrace (c : Char) : Bool :=
  c == '{' || c == '}'

/-- The rest of a line with a space in the place of every brace that is not between quotes. -/
def spaceBracesFrom (before : Text) : Text → Text
  | [] => []
  | c :: after =>
    (if isBrace c && !betweenQuotes before after then ' ' else c) ::
      spaceBracesFrom (before ++ [c]) after

/-- The line with a space in the place of every brace that is not between quotes. -/
def spaceBraces (line : Text) : Text :=
  spaceBracesFrom [] line

/-- The character that stands for a glyph once bare braces are read as blanks. -/
def Glyph.spaced (g : Glyph) : Char :=
  if g.isBare '{' || g.isBare '}' then ' ' else g.char

theorem spaceBracesFrom_eq (before line : Text) :
    spaceBracesFrom before line =
      (glyphsFrom (betweenQuotes before line) line).map Glyph.spaced := by
  induction line generalizing before with
  | nil => rfl
  | cons c after ih =>
    rw [glyphsFrom_cons, List.map_cons, ← ih, spaceBracesFrom]
    congr 1
    unfold Glyph.spaced Glyph.isBare isBrace standingAt
    by_cases hc : c = '"'
    · subst hc
      simp
    · cases betweenQuotes before after <;> simp [hc]

theorem spaceBraces_eq (line : Text) : spaceBraces line = (glyphs line).map Glyph.spaced :=
  spaceBracesFrom_eq [] line

theorem spaceBraces_append {s t : Text} (h : s.count '"' % 2 = 0 ∨ '"' ∉ t) :
    spaceBraces (s ++ t) = spaceBraces s ++ spaceBraces t := by
  rw [spaceBraces_eq, spaceBraces_eq, spaceBraces_eq, glyphs_append h, List.map_append]

theorem spaceBraces_of_plain {t : Text} (h : IsPlain t) : spaceBraces t = t := by
  have hchars : (glyphs t).map Glyph.spaced = (glyphs t).map Glyph.char := by
    refine List.map_congr_left fun g hg => ?_
    obtain ⟨hopen, hclose, -⟩ := h.inert hg
    rw [Glyph.spaced, hopen, hclose]
    rfl
  rw [spaceBraces_eq, hchars, map_char_glyphs]

theorem spaceBraces_append_brace {part : Text} (h : IsPlain part) {b : Char}
    (hb : b = '{' ∨ b = '}') (rest : Text) :
    spaceBraces (part ++ b :: rest) = part ++ ' ' :: spaceBraces rest := by
  have hquote : b ≠ '"' := by
    rintro rfl
    exact absurd hb (by decide)
  have hspaced : Glyph.spaced ⟨b, .bare⟩ = ' ' := by
    rcases hb with rfl | rfl <;> rfl
  rw [spaceBraces_append (.inl h.even), spaceBraces_of_plain h, spaceBraces_eq (b :: rest),
    glyphs_cons_of_ne hquote, List.map_cons, hspaced, ← spaceBraces_eq]

theorem spaceBraces_cons_stray {t : Text} (h : '"' ∉ t) :
    spaceBraces ('"' :: t) = '"' :: spaceBraces t := by
  rw [spaceBraces_eq, glyphs_cons_stray h, List.map_cons, ← spaceBraces_eq]
  rfl

theorem count_quote_spaceBracesFrom (before line : Text) :
    (spaceBracesFrom before line).count '"' = line.count '"' := by
  induction line generalizing before with
  | nil => rfl
  | cons c after ih =>
    rw [spaceBracesFrom, List.count_cons, List.count_cons, ih]
    congr 1
    by_cases hbrace : isBrace c = true
    · have hc : c ≠ '"' := by
        rintro rfl
        exact absurd hbrace (by decide)
      cases betweenQuotes before after <;> simp [hbrace, hc]
    · simp [hbrace]

/-! ### Tokens of the pieces -/

/-- The tokens of pieces, one piece after the other: an opening brace at the end of a piece is left
out, and so are the pieces that are nothing but a closing brace. -/
def tokensOfPieces (pieces : List Text) : List Token :=
  (pieces.filter (· ≠ ['}'])).flatMap fun piece =>
    tokenize (if opensBlock piece then piece.dropLast else piece)

/-- The tokens of the pieces of a line. -/
def pieceTokens (line : Text) : List Token :=
  tokensOfPieces (unfoldBraces line)

theorem tokensOfPieces_append (pieces others : List Text) :
    tokensOfPieces (pieces ++ others) = tokensOfPieces pieces ++ tokensOfPieces others := by
  unfold tokensOfPieces
  rw [List.filter_append, List.flatMap_append]

theorem tokensOfPieces_plainPiece {part : Text} (h : IsPlain part) :
    tokensOfPieces (plainPiece part) = tokenize part := by
  -- a plain part ends with no brace, so the piece is neither cut short nor left out
  have hopens := h.opensBlock_trim
  have hclose := h.trim_ne_close
  rw [← tokenize_trim part]
  cases htrim : part.trim with
  | nil =>
    rw [plainPiece, htrim]
    rfl
  | cons c rest =>
    rw [htrim] at hopens hclose
    simp [plainPiece, tokensOfPieces, htrim, hopens, hclose]

theorem tokensOfPieces_open (part : Text) (pieces : List Text) :
    tokensOfPieces ((part ++ ['{']).trim :: pieces) = tokenize part ++ tokensOfPieces pieces := by
  have htrim : (part ++ ['{']).trim = part.dropWhile isBlank ++ ['{'] :=
    Text.trim_append_of_not_blank (by decide) part
  have hopens : opensBlock (part.dropWhile isBlank ++ ['{']) = true := by
    rw [opensBlock, List.getLast?_concat]
    decide
  have hclose : part.dropWhile isBlank ++ ['{'] ≠ ['}'] := by
    intro hclose
    rw [hclose] at hopens
    exact absurd hopens (by decide)
  rw [← tokenize_dropWhile_blank part, htrim, tokensOfPieces, List.filter_cons_of_pos (by simpa
    using hclose), List.flatMap_cons, if_pos hopens, List.dropLast_concat]
  rfl

/-- With all quotes paired, the tokens of the pieces are those of the line. -/
theorem pieceTokens_of_broken {line : Text} (h : Broken line) :
    pieceTokens line = tokenize (spaceBraces line) := by
  induction h with
  | plain hplain =>
    rw [spaceBraces_of_plain hplain, pieceTokens, unfoldBraces_of_plain hplain,
      tokensOfPieces_plainPiece hplain]
  | @brace part b rest hpart hb hrest ih =>
    have hspace : isBlank ' ' = true := by decide
    rw [spaceBraces_append_brace hpart hb, tokenize_append_blank hspace (.inl hpart.even), ← ih]
    rcases hb with rfl | rfl
    · rw [pieceTokens, unfoldBraces_open hpart, tokensOfPieces_open]
      rfl
    · have hclose : tokensOfPieces (['}'] :: unfoldBraces rest) = pieceTokens rest := rfl
      rw [pieceTokens, unfoldBraces_close hpart, tokensOfPieces_append,
        tokensOfPieces_plainPiece hpart, hclose]

/-! ### Stray quotes inside tokens -/

/-- A character belongs to a token wherever it stands outside quotes. -/
def isTokenChar (c : Char) : Bool :=
  !(isBlank c || isBrace c)

/-- A stray quote stands inside a token: the characters at its two sides would belong to one token
without it. -/
def StraySplits (line : Text) : Prop :=
  ∃ before a b after, line = before ++ a :: '"' :: b :: after ∧
    (before ++ [a]).count '"' % 2 = 0 ∧ '"' ∉ b :: after ∧
    isTokenChar a = true ∧ isTokenChar b = true

theorem isBlank_space_brace (c : Char) :
    isBlank (if isBrace c then ' ' else c) = !isTokenChar c := by
  have hspace : isBlank ' ' = true := by decide
  unfold isTokenChar
  cases isBrace c <;> simp [hspace]

/-- The first character of a line is not between quotes. -/
theorem head?_spaceBraces (line : Text) :
    (spaceBraces line).head? = line.head?.map fun c => if isBrace c then ' ' else c := by
  cases line with
  | nil => rfl
  | cons c after => simp [spaceBraces, spaceBracesFrom, betweenQuotes]

/-- The last character of a line is not between quotes. -/
theorem getLast?_spaceBracesFrom (before line : Text) :
    (spaceBracesFrom before line).getLast? =
      line.getLast?.map fun c => if isBrace c then ' ' else c := by
  induction line generalizing before with
  | nil => rfl
  | cons c after ih =>
    cases after with
    | nil => simp [spaceBracesFrom, betweenQuotes]
    | cons d after =>
      rw [List.getLast?_cons_cons, ← ih (before ++ [c]), spaceBracesFrom, spaceBracesFrom,
        List.getLast?_cons_cons]

/-- There is one last quote. -/
theorem append_quote_inj {before after before' after' : Text} (hafter : '"' ∉ after)
    (hafter' : '"' ∉ after') (h : before ++ '"' :: after = before' ++ '"' :: after') :
    before = before' ∧ after = after' := by
  rcases List.append_eq_append_iff.mp h with ⟨between, rfl, hbetween⟩ | ⟨between, rfl, hbetween⟩
  · cases between with
    | nil => simpa using hbetween
    | cons c between =>
      rw [List.cons_append, List.cons.injEq] at hbetween
      exact absurd (hbetween.2 ▸ by simp) hafter
  · cases between with
    | nil => simpa using hbetween.symm
    | cons c between =>
      rw [List.cons_append, List.cons.injEq] at hbetween
      exact absurd (hbetween.2 ▸ by simp) hafter'

theorem not_straySplits_of_even {line : Text} (h : line.count '"' % 2 = 0) :
    ¬ StraySplits line := by
  rintro ⟨before, a, b, after, rfl, heven, hnot, -⟩
  have hsplit : before ++ a :: '"' :: b :: after = (before ++ [a]) ++ '"' :: b :: after := by simp
  rw [hsplit, List.count_append, List.count_cons_self, List.count_eq_zero.mpr hnot] at h
  omega

theorem straySplits_append_iff {before after : Text} (hbefore : before.count '"' % 2 = 0)
    (hafter : '"' ∉ after) :
    StraySplits (before ++ '"' :: after) ↔
      ∃ a b, (spaceBraces before).getLast? = some a ∧ isBlank a = false ∧
        (spaceBraces after).head? = some b ∧ isBlank b = false := by
  rw [spaceBraces, getLast?_spaceBracesFrom, head?_spaceBraces]
  constructor
  · rintro ⟨front, a, b, back, hline, -, hback, ha, hb⟩
    have hsplit : front ++ a :: '"' :: b :: back = (front ++ [a]) ++ '"' :: b :: back := by simp
    obtain ⟨rfl, rfl⟩ := append_quote_inj hafter hback (hline.trans hsplit)
    refine ⟨_, _, by rw [List.getLast?_concat, Option.map_some], ?_, rfl, ?_⟩
    · rw [isBlank_space_brace, ha]
      rfl
    · rw [isBlank_space_brace, hb]
      rfl
  · rintro ⟨_, _, hlast, hablank, hhead, hbblank⟩
    obtain ⟨a, ha, rfl⟩ := Option.map_eq_some_iff.mp hlast
    obtain ⟨b, hb, rfl⟩ := Option.map_eq_some_iff.mp hhead
    obtain ⟨front, rfl⟩ := List.getLast?_eq_some_iff.mp ha
    obtain ⟨back, rfl⟩ := List.head?_eq_some_iff.mp hb
    rw [isBlank_space_brace, Bool.not_eq_false'] at hablank hbblank
    exact ⟨front, a, b, back, by simp, hbefore, hafter, hablank, hbblank⟩

/-- **The pieces of a line have the tokens of the line, but for a stray quote.** They have the
tokens of the line without its stray quote, bare braces read as blanks. A stray quote ends the token
it interrupts when the line is read whole, so the two agree exactly if it stands inside no token. -/
theorem pieceTokens_eq_tokenize_iff (line : Text) :
    pieceTokens line = tokenize (spaceBraces (dropStray line)) ∧
      (pieceTokens line = tokenize (spaceBraces line) ↔ ¬ StraySplits line) := by
  have hpieces : pieceTokens line = tokenize (spaceBraces (dropStray line)) := by
    rw [pieceTokens, ← unfoldBraces_dropStray]
    exact pieceTokens_of_broken (broken_of_even (count_dropStray line))
  refine ⟨hpieces, ?_⟩
  rw [hpieces]
  rcases Nat.mod_two_eq_zero_or_one (line.count '"') with heven | hodd
  · rw [dropStray_of_even heven]
    exact iff_of_true rfl (not_straySplits_of_even heven)
  · obtain ⟨before, after, rfl, hbefore, hafter⟩ := exists_stray hodd
    have heven : (spaceBraces before).count '"' % 2 = 0 := by
      rw [spaceBraces, count_quote_spaceBracesFrom]
      exact hbefore
    have hnot : '"' ∉ spaceBraces after := by
      rw [← List.count_eq_zero, spaceBraces, count_quote_spaceBracesFrom]
      exact List.count_eq_zero.mpr hafter
    rw [dropStray_append hbefore hafter, straySplits_append_iff hbefore hafter,
      spaceBraces_append (.inl hbefore), spaceBraces_append (.inl hbefore),
      spaceBraces_cons_stray hafter, tokenize_append_stray heven hnot]
    exact tokenize_append_iff heven hnot

/-- A stray quote between two letters: the line has three tokens, and its piece has two. -/
theorem pieceTokens_ne_tokenize :
    pieceTokens "Text x\"y \x7b".toList ≠ tokenize (spaceBraces "Text x\"y \x7b".toList) := by
  decide +kernel

end LivePage
