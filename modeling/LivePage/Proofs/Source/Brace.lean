/-
The bare braces of a source and its logical lines.

A line is broken at its bare braces. Each bare brace then ends a logical
line in the same order: an opening brace as the last character of its line,
a closing brace as a line of its own. No quoted brace does, since the quote
that follows it stays on its line.

* `filterMap_pieceBrace?_unfoldLine` — the braces that the logical lines of a
  line end with are its bare braces;
* `sourceBraces_eq` — the same for the lines of a source that are broken;
* `lineBrace?_eq` — a logical line is read as the brace that it ends with,
  unless it is a comment or a style line and keeps it.

Design notes: a line is scanned with the text of the current piece beside
it. What the induction carries is that this text, once trimmed, ends with no
brace while the scan is outside quotes, and that a quote is still to come
while it is inside.
-/
import Mathlib.Data.List.Basic
import LivePage.Proofs.Source.Reading
import LivePage.Proofs.Text.Basic

namespace LivePage

/-- The bare braces among some glyphs. -/
def bareBraces (gs : List Glyph) : List Char :=
  (gs.filter fun g => g.isBare '{' || g.isBare '}').map Glyph.char

/-- The bare braces of a source, those of comment lines apart. -/
def sourceBraces (source : Text) : List Char :=
  source.lines.flatMap fun line =>
    if isComment line.trim then [] else bareBraces (glyphs line.trim)

/-- The logical lines of a source that come from lines which are not comments. -/
def brokenLines (source : Text) : List Text :=
  source.lines.flatMap fun line => if isComment line.trim then [] else unfoldLine line.trim

/-- The brace that a line stands for: an opening one if `opens` holds of it, a closing one if it
is nothing but that. -/
def braceBy? (opens : Text → Bool) (line : Text) : Option Char :=
  if opens line then some '{' else if line = ['}'] then some '}' else none

/-- The brace that a piece of a line ends with. -/
def pieceBrace? : Text → Option Char :=
  braceBy? opensBlock

/-- The brace that a logical line is read as: the beginning or the end of a block. -/
def lineBrace? : Text → Option Char :=
  braceBy? startsBlock

/-! ### Pieces of a line -/

/-- Puts a text in front of the first piece. -/
def prependHead (t : Text) : List Text → List Text
  | [] => [t]
  | piece :: pieces => (t ++ piece) :: pieces

theorem prependHead_consHead (t : Text) (c : Char) (pieces : List Text) :
    prependHead t (consHead c pieces) = prependHead (t ++ [c]) pieces := by
  cases pieces with
  | nil => rfl
  | cons piece pieces => simp [prependHead, consHead]

/-- The text ends with no brace, up to blanks. -/
def EndsPlain (t : Text) : Prop :=
  t.trim.getLast? ≠ some '{' ∧ t.trim.getLast? ≠ some '}'

theorem endsPlain_nil : EndsPlain [] :=
  ⟨by decide, by decide⟩

theorem EndsPlain.append {t : Text} (h : EndsPlain t) {c : Char} (hopen : c ≠ '{')
    (hclose : c ≠ '}') : EndsPlain (t ++ [c]) := by
  by_cases hblank : isBlank c = true
  · unfold EndsPlain
    rw [Text.trim_append_blank hblank]
    exact h
  · unfold EndsPlain
    rw [Text.getLast?_trim_append (by simpa using hblank)]
    simp [hopen, hclose]

theorem endsPlain_append_quote (t : Text) : EndsPlain (t ++ ['"']) := by
  unfold EndsPlain
  rw [Text.getLast?_trim_append (by decide)]
  decide

theorem EndsPlain.pieceBrace?_trim {t : Text} (h : EndsPlain t) : pieceBrace? t.trim = none := by
  have hopens : opensBlock t.trim = false := by simpa [opensBlock] using h.1
  have hclose : t.trim ≠ ['}'] := by
    intro heq
    exact h.2 (by rw [heq]; rfl)
  rw [pieceBrace?, braceBy?, hopens, if_neg (by simp), if_neg hclose]

theorem pieceBrace?_trim_open (t : Text) : pieceBrace? (t ++ ['{']).trim = some '{' := by
  have hopens : opensBlock (t ++ ['{']).trim = true := by
    rw [opensBlock, Text.getLast?_trim_append (by decide)]
    decide
  rw [pieceBrace?, braceBy?, if_pos hopens]

theorem prependHead_nil_bracePieces (gs : List Glyph) :
    prependHead [] (bracePieces gs) = bracePieces gs := by
  cases h : bracePieces gs with
  | nil =>
    -- there is always a last piece
    induction gs with
    | nil => exact absurd h (by simp [bracePieces])
    | cons g rest ih =>
      unfold bracePieces at h
      split at h
      · exact absurd h (by simp)
      · split at h
        · exact absurd h (by simp)
        · split at h
          · exact ih h
          · cases hrest : bracePieces rest <;> simp [hrest, consHead] at h
  | cons piece pieces => rfl

/-! ### The braces of a line -/

/-- A glyph that is neither a bare brace nor a stray quote goes to the first piece. -/
theorem bracePieces_cons_of_inert {g : Glyph} (hopen : g.isBare '{' = false)
    (hclose : g.isBare '}' = false) (hstray : g.standing ≠ .stray) (gs : List Glyph) :
    bracePieces (g :: gs) = consHead g.char (bracePieces gs) := by
  rw [bracePieces, hopen, hclose, if_neg (by simp), if_neg (by simp), if_neg hstray]

theorem bareBraces_cons_of_inert {g : Glyph} (hopen : g.isBare '{' = false)
    (hclose : g.isBare '}' = false) (gs : List Glyph) :
    bareBraces (g :: gs) = bareBraces gs := by
  simp [bareBraces, hopen, hclose]

theorem bareBraces_cons_of_brace {g : Glyph} (h : (g.isBare '{' || g.isBare '}') = true)
    (gs : List Glyph) : bareBraces (g :: gs) = g.char :: bareBraces gs := by
  simp [bareBraces, h]

/-- A scan of the rest of a line with the text of the current piece in front: the pieces end with
the bare braces of the rest. -/
theorem filterMap_pieceBrace?_prependHead (rest : Text) (inside : Bool) (current : Text)
    (hquote : inside = true → '"' ∈ rest) (hplain : inside = false → EndsPlain current) :
    (prependHead current (bracePieces (glyphsFrom inside rest))).filterMap
        (fun piece => pieceBrace? piece.trim) =
      bareBraces (glyphsFrom inside rest) := by
  induction rest generalizing inside current with
  | nil =>
    cases inside with
    | true => exact absurd (hquote rfl) (by simp)
    | false =>
      simp [glyphsFrom, bracePieces, prependHead, bareBraces, (hplain rfl).pieceBrace?_trim]
  | cons c rest ih =>
    by_cases hc : c = '"'
    · subst hc
      by_cases hpair : (inside || rest.contains '"') = true
      -- a quote of a pair: the scan goes on at the other side of it
      · have hglyphs : glyphsFrom inside ('"' :: rest) =
            ⟨'"', .quoted⟩ :: glyphsFrom (!inside) rest := by
          rw [glyphsFrom, if_pos rfl, if_pos hpair]
        rw [hglyphs, bracePieces_cons_of_inert rfl rfl (by simp), prependHead_consHead,
          bareBraces_cons_of_inert rfl rfl]
        refine ih (!inside) _ (fun h => ?_) fun _ => endsPlain_append_quote current
        simpa [show inside = false by simpa using h] using hpair
      -- a stray quote is in no piece
      · have hinside : inside = false := by
          cases inside with
          | true => exact absurd rfl hpair
          | false => rfl
        have hglyphs : glyphsFrom inside ('"' :: rest) =
            ⟨'"', .stray⟩ :: glyphsFrom inside rest := by
          rw [glyphsFrom, if_pos rfl, if_neg hpair]
        rw [hglyphs, bareBraces_cons_of_inert rfl rfl]
        exact ih inside current (by simp [hinside]) hplain
    · have hglyphs : glyphsFrom inside (c :: rest) =
          ⟨c, if inside then .quoted else .bare⟩ :: glyphsFrom inside rest := by
        rw [glyphsFrom, if_neg hc]
      rw [hglyphs]
      cases inside with
      | true =>
        rw [bracePieces_cons_of_inert rfl rfl (by simp), prependHead_consHead,
          bareBraces_cons_of_inert rfl rfl]
        refine ih true _ (fun _ => ?_) (by simp)
        exact (List.mem_cons.mp (hquote rfl)).resolve_left fun h => hc h.symm
      | false =>
        rw [if_neg (by simp)]
        -- behind a brace the scan begins again with an empty piece
        have hnext := ih false [] (by simp) fun _ => endsPlain_nil
        rw [prependHead_nil_bracePieces] at hnext
        by_cases hopen : c = '{'
        · subst hopen
          rw [bareBraces_cons_of_brace rfl, ← hnext]
          exact List.filterMap_cons_some (pieceBrace?_trim_open current)
        · by_cases hclose : c = '}'
          · subst hclose
            have hcurrent : pieceBrace? (current ++ []).trim = none := by
              rw [List.append_nil]
              exact (hplain rfl).pieceBrace?_trim
            have hbrace : pieceBrace? (Text.trim ['}']) = some '}' := by decide
            rw [bareBraces_cons_of_brace rfl, ← hnext]
            show ((current ++ []) :: ['}'] :: bracePieces (glyphsFrom false rest)).filterMap _ = _
            simp only [List.filterMap_cons, hcurrent, hbrace]
          · have hnotOpen : Glyph.isBare '{' ⟨c, .bare⟩ = false := by simp [Glyph.isBare, hopen]
            have hnotClose : Glyph.isBare '}' ⟨c, .bare⟩ = false := by simp [Glyph.isBare, hclose]
            rw [bracePieces_cons_of_inert hnotOpen hnotClose (by simp), prependHead_consHead,
              bareBraces_cons_of_inert hnotOpen hnotClose]
            exact ih false _ (by simp) fun h => (hplain h).append hopen hclose

theorem Glyph.char_eq_of_isBare {g : Glyph} {c : Char} (h : g.isBare c = true) : g.char = c := by
  simp only [Glyph.isBare, Bool.and_eq_true, beq_iff_eq] at h
  exact h.2

theorem char_mem_of_mem_glyphsFrom {inside : Bool} {t : Text} {g : Glyph}
    (h : g ∈ glyphsFrom inside t) : g.char ∈ t := by
  induction t generalizing inside with
  | nil => exact absurd h (by simp [glyphsFrom])
  | cons c rest ih =>
    -- in every branch the glyph of `c` stands in front of glyphs of the rest
    have hsplit : g.char = c ∨ ∃ next, g ∈ glyphsFrom next rest := by
      unfold glyphsFrom at h
      split at h
      · split at h <;> exact (List.mem_cons.mp h).imp (congrArg Glyph.char) fun h => ⟨_, h⟩
      · exact (List.mem_cons.mp h).imp (congrArg Glyph.char) fun h => ⟨_, h⟩
    rcases hsplit with rfl | ⟨next, hrest⟩
    · exact List.mem_cons_self
    · exact List.mem_cons_of_mem c (ih hrest)

/-- A line without braces has no bare ones. -/
theorem bareBraces_of_not_contains {line : Text}
    (h : (line.contains '{' || line.contains '}') = false) : bareBraces (glyphs line) = [] := by
  have hmem : '{' ∉ line ∧ '}' ∉ line := by simpa using h
  unfold bareBraces
  rw [List.filter_eq_nil_iff.mpr, List.map_nil]
  intro g hg hbrace
  have hchar := char_mem_of_mem_glyphsFrom hg
  rcases Bool.or_eq_true_iff.mp hbrace with hopen | hclose
  · exact hmem.1 (Glyph.char_eq_of_isBare hopen ▸ hchar)
  · exact hmem.2 (Glyph.char_eq_of_isBare hclose ▸ hchar)

theorem pieceBrace?_of_not_contains {line : Text}
    (h : (line.contains '{' || line.contains '}') = false) : pieceBrace? line = none := by
  have hmem : '{' ∉ line ∧ '}' ∉ line := by simpa using h
  have hopens : opensBlock line = false := by
    simpa [opensBlock] using fun hlast => hmem.1 (List.mem_of_getLast? hlast)
  have hclose : line ≠ ['}'] := by
    rintro rfl
    exact hmem.2 List.mem_cons_self
  rw [pieceBrace?, braceBy?, hopens, if_neg (by simp), if_neg hclose]

/-- The logical lines of a line end with its bare braces. -/
theorem filterMap_pieceBrace?_unfoldLine {line : Text} (h : isComment line = false) :
    (unfoldLine line).filterMap pieceBrace? = bareBraces (glyphs line) := by
  unfold unfoldLine
  rw [h, Bool.false_or]
  by_cases hbraces : (line.contains '{' || line.contains '}') = true
  -- the pieces that are dropped are empty and end with no brace
  · rw [hbraces, if_neg (by simp), unfoldBraces, List.filterMap_filter, List.filterMap_map]
    have hscan := filterMap_pieceBrace?_prependHead line false [] (by simp) fun _ => endsPlain_nil
    rw [prependHead_nil_bracePieces] at hscan
    rw [glyphs, ← hscan]
    congr 1
    funext piece
    cases hpiece : piece.trim with
    | nil => simp [hpiece, pieceBrace?, braceBy?, opensBlock]
    | cons c piece => simp [hpiece]
  · have hnone : (line.contains '{' || line.contains '}') = false := by simpa using hbraces
    rw [hnone, if_pos (by simp), bareBraces_of_not_contains hnone]
    simp [pieceBrace?_of_not_contains hnone]

theorem sourceBraces_eq (source : Text) :
    sourceBraces source = (brokenLines source).filterMap pieceBrace? := by
  unfold sourceBraces brokenLines
  rw [List.filterMap_flatMap]
  congr 1
  funext line
  cases hcomment : isComment line.trim with
  | true => simp
  | false => simp [filterMap_pieceBrace?_unfoldLine hcomment]

/-- But for comments, every logical line is a piece of a line that was broken. -/
theorem filter_isComment_brokenLines (source : Text) :
    (brokenLines source).filter (!isComment ·) = (logicalLines source).filter (!isComment ·) := by
  unfold brokenLines logicalLines
  rw [List.filter_flatMap, List.filter_flatMap]
  congr 1
  funext line
  cases hcomment : isComment line.trim with
  | true => simp [unfoldLine, hcomment]
  | false => rfl

/-! ### Braces that are read -/

/-- Whether a line ends with an opening brace but is a comment or a style line, so that the brace
stays text. -/
def keepsBrace (line : Text) : Bool :=
  opensBlock line && (isComment line || (styleLine? line).isSome)

/-- The logical lines that keep a brace at which their line was broken. -/
def unreadPieces (source : Text) : List Text :=
  (brokenLines source).filter keepsBrace

theorem startsBlock_eq (line : Text) :
    startsBlock line = (opensBlock line && !keepsBrace line) := by
  cases line with
  | nil => rfl
  | cons c rest =>
    unfold startsBlock keepsBrace
    cases opensBlock (c :: rest) <;> cases isComment (c :: rest) <;>
      cases styleLine? (c :: rest) <;> rfl

/-- The two stages disagree on the braces that are kept, and on no other. -/
theorem lineBrace?_eq (line : Text) :
    lineBrace? line = if keepsBrace line then none else pieceBrace? line := by
  unfold lineBrace? pieceBrace? braceBy?
  rw [startsBlock_eq]
  cases hkeeps : keepsBrace line with
  | false => simp
  | true =>
    have hclose : line ≠ ['}'] := by
      rintro rfl
      exact absurd hkeeps (by decide)
    simp [hclose]

theorem pieceBrace?_of_keepsBrace {line : Text} (h : keepsBrace line = true) :
    pieceBrace? line = some '{' :=
  if_pos (Bool.and_eq_true_iff.mp h).1

/-- Where no brace is kept, the pieces are read as the braces of the source. -/
theorem filterMap_lineBrace?_of_unreadPieces {source : Text} (h : unreadPieces source = []) :
    (brokenLines source).filterMap lineBrace? = sourceBraces source := by
  rw [sourceBraces_eq]
  refine List.filterMap_congr fun piece hpiece => ?_
  rw [lineBrace?_eq, if_neg (List.filter_eq_nil_iff.mp h piece hpiece)]

end LivePage
