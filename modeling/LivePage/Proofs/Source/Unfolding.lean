/-
What breaking a line at its braces makes of it.

Every logical line has one of three forms: a comment, a lone closing brace,
or a text with no brace outside its quotes but an opening one at its end.
And a line that is taken apart loses nothing but blanks and the quote that
has no partner, while each of its bare braces ends a piece of its own:

* `Broken.flatMap_without_unfoldBraces` — the pieces hold what the line holds;
* `outside_isBrace_eq_bareBraces` — the braces outside the pairs of quotes are
  the bare ones;
* `isLogical_of_mem` — the form of a logical line;
* `logicalLines_form` — the logical lines of a source, line by line.

Design notes: what is kept of a line is said of positions (`without`,
`outside`), as it is for tokens. It is what the tokens of the line hold, so
blanks at its ends and a stray quote are settled by what is known of tokens.
-/
import Mathlib.Data.List.Forall2
import LivePage.Proofs.Source.Normal
import LivePage.Proofs.Source.Tokens

namespace LivePage

/-- A logical line: trimmed, on one line, and a comment, a lone closing brace or a text whose only
brace outside its quotes, if it has one, is an opening brace at its end. -/
structure IsLogical (piece : Text) : Prop where
  oneLine : '\n' ∉ piece
  trimmed : ∀ c, piece.head? = some c ∨ piece.getLast? = some c → isBlank c = false
  braces : isComment piece = true ∨ piece = ['}'] ∨
    ∀ k, Unquoted isBrace piece k → piece[k]? = some '{' ∧ k + 1 = piece.length

/-- A line is taken apart into pieces. Every quote of a piece has its partner there, the pieces end
with the braces that stand outside the quotes of the line, in order, and only blanks outside quotes
and the quote without a partner are lost. -/
structure TakenApart (line : Text) (pieces : List Text) : Prop where
  even : ∀ piece ∈ pieces, piece.count '"' % 2 = 0
  braces : pieces.filterMap pieceBrace? = outside isBrace line
  kept : pieces.flatMap (without isBlank) = without isSeparator line

/-- What a line of the source gives: its pieces, if it has a brace and is no comment, and otherwise
the trimmed line. -/
def Gives (line : Text) (pieces : List Text) : Prop :=
  if isComment line.trim = false ∧ line.any isBrace = true then TakenApart line pieces
  else pieces = [line.trim]

/-! ### What is kept of a line -/

theorem without_append (kind : Char → Bool) {s t : Text} (h : s.count '"' % 2 = 0 ∨ '"' ∉ t) :
    without kind (s ++ t) = without kind s ++ without kind t := by
  rw [without_eq, without_eq, without_eq, glyphs_append h, List.filter_append, List.map_append]

theorem without_isSeparator_trim (t : Text) :
    without isSeparator t.trim = without isSeparator t := by
  rw [← flatMap_text_tokenize, tokenize_trim, flatMap_text_tokenize]

theorem without_isSeparator_dropStray (line : Text) :
    without isSeparator (dropStray line) = without isSeparator line := by
  rcases Nat.mod_two_eq_zero_or_one (line.count '"') with heven | hodd
  · rw [dropStray_of_even heven]
  · obtain ⟨before, after, rfl, hbefore, hafter⟩ := exists_stray hodd
    rw [dropStray_append hbefore hafter, without_append _ (.inl hbefore),
      ← flatMap_text_tokenize (before ++ '"' :: after), tokenize_append_stray hbefore hafter,
      List.flatMap_append, flatMap_text_tokenize, flatMap_text_tokenize]

/-- Where every quote has a partner, blanks are the only separators. -/
theorem without_isBlank_of_even {t : Text} (h : t.count '"' % 2 = 0) :
    without isBlank t = without isSeparator t := by
  rw [without_eq, without_eq]
  congr 1
  refine List.filter_congr fun g hg => ?_
  rcases g with ⟨c, _ | _ | _⟩
  · show (!isBlank c) = !(isBlank c || c == '"')
    rw [beq_false_of_ne (ne_quote_of_bare hg rfl), Bool.or_false]
  · rfl
  · exact absurd rfl (standing_ne_stray h hg)

theorem flatMap_without_plainPiece (part : Text) :
    (plainPiece part).flatMap (without isSeparator) = without isSeparator part := by
  rw [← without_isSeparator_trim part, plainPiece]
  cases part.trim with
  | nil => rfl
  | cons c rest => simp

/-- The pieces of a line hold all that the line holds, but for separators. -/
theorem Broken.flatMap_without_unfoldBraces {line : Text} (h : Broken line) :
    (unfoldBraces line).flatMap (without isSeparator) = without isSeparator line := by
  induction h with
  | plain hplain => rw [unfoldBraces_of_plain hplain, flatMap_without_plainPiece]
  | @brace part b rest hpart hb hrest ih =>
    have hsplit : part ++ b :: rest = (part ++ [b]) ++ rest := by simp
    have heven : (part ++ [b]).count '"' % 2 = 0 := by
      have hpartEven := hpart.even
      rcases hb with rfl | rfl <;> simpa using hpartEven
    rw [hsplit, without_append _ (.inl heven), ← ih, ← hsplit]
    rcases hb with rfl | rfl
    · rw [unfoldBraces_open hpart, List.flatMap_cons, without_isSeparator_trim]
    · have hclose : without isSeparator ['}'] = ['}'] := by decide
      rw [unfoldBraces_close hpart, List.flatMap_append, flatMap_without_plainPiece,
        List.flatMap_cons, without_append _ (.inl hpart.even), hclose, List.append_assoc]

/-! ### Braces outside the quotes -/

theorem isOutside_isBrace {line : Text} {g : Glyph} (hg : g ∈ glyphs line) :
    g.isOutside isBrace = (g.isBare '{' || g.isBare '}') := by
  rcases g with ⟨c, _ | _ | _⟩
  · rfl
  · rfl
  · rw [show c = '"' from eq_quote_of_stray hg rfl]
    rfl

theorem outside_isBrace_eq_bareBraces (line : Text) :
    outside isBrace line = bareBraces (glyphs line) := by
  rw [outside_eq, bareBraces]
  congr 1
  exact List.filter_congr fun g hg => isOutside_isBrace hg

-- the quoted brace is not outside, and a quote without a partner does not shelter the last one
example : outside isBrace "Row \x7b \"\x7d\" \x7d \" \x7b".toList = ['{', '}', '{'] := by
  decide

theorem bareBraces_glyphs_trim (line : Text) :
    bareBraces (glyphs line.trim) = bareBraces (glyphs line) := by
  have hblanks : ∀ t : Text, (∀ c ∈ t, isBlank c = true) →
      '"' ∉ t ∧ bareBraces (glyphs t) = [] := by
    intro t ht
    have hnot : ∀ c : Char, isBlank c = false → c ∉ t := by
      intro c hc hmem
      exact absurd (ht c hmem) (by simp [hc])
    refine ⟨hnot _ (by decide), bareBraces_of_not_contains ?_⟩
    simp [hnot '{' (by decide), hnot '}' (by decide)]
  obtain ⟨lead, trail, hline, hlead, htrail⟩ := line.exists_eq_trim
  obtain ⟨hleadQuote, hleadBare⟩ := hblanks lead hlead
  obtain ⟨htrailQuote, htrailBare⟩ := hblanks trail htrail
  conv_rhs => rw [hline]
  rw [glyphs_append (.inr htrailQuote),
    glyphs_append (.inl (by rw [List.count_eq_zero.mpr hleadQuote])), bareBraces_append,
    bareBraces_append, hleadBare, htrailBare, List.nil_append, List.append_nil]

theorem IsPlain.not_unquoted {t : Text} (h : IsPlain t) (k : Nat) : ¬ Unquoted isBrace t k := by
  intro hk
  obtain ⟨g, hg, hbrace⟩ := (Option.any_eq_true _ _).mp (unquoted_iff.mp hk)
  have hmem := List.mem_of_getElem? hg
  obtain ⟨hopen, hclose, -⟩ := h.inert hmem
  rw [isOutside_isBrace hmem, hopen, hclose] at hbrace
  exact absurd hbrace (by simp)

theorem IsPlain.unquoted_append_brace {t : Text} (h : IsPlain t) {k : Nat}
    (hk : Unquoted isBrace (t ++ ['{']) k) : k = t.length := by
  have hglyphs : glyphs (t ++ ['{']) = glyphs t ++ [⟨'{', .bare⟩] :=
    glyphs_append_brace h (by decide) []
  rcases Nat.lt_trichotomy k t.length with hlt | heq | hgt
  · refine absurd ?_ (h.not_unquoted k)
    rw [unquoted_iff, hglyphs, List.getElem?_append_left (by rwa [length_glyphs])] at hk
    exact unquoted_iff.mpr hk
  · exact heq
  · obtain ⟨c, hc, -⟩ := hk
    have hbound := (List.getElem?_eq_some_iff.mp hc).choose
    rw [List.length_append, List.length_singleton] at hbound
    omega

/-! ### Logical lines -/

/-- A line of the source is broken exactly if it has a brace and is no comment. -/
theorem unfoldLine_trim (line : Text) :
    unfoldLine line.trim = if isComment line.trim = false ∧ line.any isBrace = true
      then unfoldBraces line.trim else [line.trim] := by
  have hbraces : (line.trim.contains '{' || line.trim.contains '}') = line.any isBrace := by
    rw [Bool.eq_iff_iff, Bool.or_eq_true, List.contains_iff_mem, List.contains_iff_mem,
      List.any_eq_true]
    constructor
    · rintro (hmem | hmem)
      · exact ⟨'{', Text.mem_of_mem_trim hmem, rfl⟩
      · exact ⟨'}', Text.mem_of_mem_trim hmem, rfl⟩
    · rintro ⟨b, hmem, hb⟩
      have hb : b = '{' ∨ b = '}' := by simpa [isBrace] using hb
      rcases hb with rfl | rfl
      · exact .inl (Text.mem_trim hmem (by decide))
      · exact .inr (Text.mem_trim hmem (by decide))
  unfold unfoldLine
  rw [hbraces]
  cases isComment line.trim <;> cases line.any isBrace <;> rfl

/-- The kinds of piece that a line is broken into. -/
theorem cases_of_mem_unfoldBraces {line piece : Text} (h : piece ∈ unfoldBraces line) :
    IsPlain piece ∨ piece = ['}'] ∨ ∃ part, IsPlain part ∧ piece = part ++ ['{'] := by
  rw [← unfoldBraces_dropStray] at h
  exact ((broken_of_even (count_dropStray line)).cases_of_mem h).1

theorem takenApart_of_braces {line : Text} (hcomment : isComment line.trim = false)
    (hbrace : line.any isBrace = true) : TakenApart line (unfoldBraces line.trim) := by
  have heven : ∀ piece ∈ unfoldBraces line.trim, piece.count '"' % 2 = 0 := by
    intro piece hpiece
    rcases cases_of_mem_unfoldBraces hpiece with hplain | rfl | ⟨part, hpart, rfl⟩
    · exact hplain.even
    · decide
    · simpa using hpart.even
  refine ⟨heven, ?_, ?_⟩
  · have hunfold := unfoldLine_trim line
    rw [if_pos ⟨hcomment, hbrace⟩] at hunfold
    rw [← hunfold, filterMap_pieceBrace?_unfoldLine hcomment, bareBraces_glyphs_trim,
      outside_isBrace_eq_bareBraces]
  · calc (unfoldBraces line.trim).flatMap (without isBlank)
        = (unfoldBraces (dropStray line.trim)).flatMap (without isSeparator) := by
          rw [unfoldBraces_dropStray]
          exact List.flatMap_congr fun piece hpiece => without_isBlank_of_even (heven piece hpiece)
      _ = without isSeparator (dropStray line.trim) :=
          (broken_of_even (count_dropStray line.trim)).flatMap_without_unfoldBraces
      _ = without isSeparator line := by
          rw [without_isSeparator_dropStray, without_isSeparator_trim]

theorem isLogical_of_mem {source piece : Text} (h : piece ∈ logicalLines source) :
    IsLogical piece := by
  obtain ⟨line, -, hpiece⟩ := List.mem_flatMap.mp h
  obtain ⟨htrim, -, -⟩ := unfoldLine_of_mem line.trim_trim hpiece
  refine ⟨(unfoldLine_of_mem_logicalLines h).1, fun c hc => ?_, ?_⟩
  · rw [← htrim] at hc
    rcases hc with hhead | hlast
    · exact Text.isBlank_of_head?_trim hhead
    · exact Text.isBlank_of_getLast?_trim hlast
  · rw [unfoldLine_trim] at hpiece
    split at hpiece
    · rcases cases_of_mem_unfoldBraces hpiece with hplain | hclose | ⟨part, hpart, rfl⟩
      · exact .inr (.inr fun k hk => absurd hk (hplain.not_unquoted k))
      · exact .inr (.inl hclose)
      · refine .inr (.inr fun k hk => ?_)
        rw [hpart.unquoted_append_brace hk]
        simp
    · rename_i hwhole
      rw [List.mem_singleton.mp hpiece]
      cases hcomment : isComment line.trim with
      | true => exact .inl rfl
      | false =>
        -- a line without a brace has none outside its quotes
        refine .inr (.inr fun k hk => ?_)
        obtain ⟨c, hc, hbrace, -⟩ := hk
        have hmem := Text.mem_of_mem_trim (List.mem_of_getElem? hc)
        exact absurd ⟨hcomment, List.any_eq_true.mpr ⟨c, hmem, hbrace⟩⟩ hwhole

/-- **The form of logical lines, and what becomes of a line.** Every logical line of a source is
trimmed and on one line, and is a comment, a lone closing brace, or has no brace outside its quotes
but an opening one at its end. A line with a brace that is no comment is taken apart and loses only
blanks and a quote without a partner; every other line gives its trimmed text. -/
theorem logicalLines_form (source : Text) :
    (∀ piece ∈ logicalLines source, IsLogical piece) ∧
      ∃ parts : List (List Text), logicalLines source = parts.flatten ∧
        List.Forall₂ Gives source.lines parts := by
  refine ⟨fun piece hpiece => isLogical_of_mem hpiece,
    source.lines.map fun line => unfoldLine line.trim, ?_, ?_⟩
  · rw [logicalLines, List.flatMap]
  · rw [List.forall₂_map_right_iff, List.forall₂_same]
    intro line _
    rw [Gives, unfoldLine_trim]
    split
    · rename_i hbroken
      exact takenApart_of_braces hbroken.1 hbroken.2
    · rfl

end LivePage
