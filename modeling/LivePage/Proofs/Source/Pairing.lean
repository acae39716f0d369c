/-
Pairs of quotes by position.

The quotes of a line pair up from left to right, the first with the second,
the third with the fourth; the last of an odd number has no partner. Here
this is said of positions alone, without a scan, and the glyphs of a line
are shown to say the same:

* `standing_eq_quoted_iff` — a glyph is quoted exactly if its position belongs
  to a pair;
* `unquoted_iff` — so a character outside the pairs is a glyph that is not
  quoted;
* `outside_eq`, `without_eq` — the characters of a kind that stand outside the
  pairs, and what is left of a line without them.

Design notes: a position is classed by the parity of the quotes before it
and by whether one is still to come. `exists_opening` and `exists_next` turn
these two facts into the pair around the position.
-/
import Mathlib.Data.Nat.Init
import LivePage.Proofs.Source.Quote

namespace LivePage

/-- The quotes at two positions are a pair: an even number of quotes stands before the first, and
the second is the next quote. -/
structure Partners (t : Text) (i j : Nat) : Prop where
  lt : i < j
  opening : t[i]? = some '"'
  closing : t[j]? = some '"'
  even : (t.take i).count '"' % 2 = 0
  next : ∀ k, i < k → k < j → t[k]? ≠ some '"'

/-- The position is that of a quote of a pair, or lies between the two. -/
def Enclosed (t : Text) (k : Nat) : Prop :=
  ∃ i j, Partners t i j ∧ i ≤ k ∧ k ≤ j

/-- A character of a kind stands at the position, outside every pair of quotes. -/
def Unquoted (kind : Char → Bool) (t : Text) (k : Nat) : Prop :=
  ∃ c, t[k]? = some c ∧ kind c = true ∧ ¬ Enclosed t k

/-! ### The pair around a position -/

theorem count_take_succ {t : Text} {k : Nat} {c : Char} (hc : t[k]? = some c) :
    (t.take (k + 1)).count '"' = (t.take k).count '"' + if c = '"' then 1 else 0 := by
  rw [List.take_add_one, hc, List.count_append, Option.toList_some, List.count_singleton]
  simp

/-- Behind the first quote of a pair, up to the second, an odd number of quotes has been met. -/
theorem Partners.odd {t : Text} {i j : Nat} (h : Partners t i j) {k : Nat} (hik : i < k)
    (hkj : k ≤ j) : (t.take k).count '"' % 2 = 1 := by
  induction k, hik using Nat.le_induction with
  | base =>
    have heven := h.even
    rw [count_take_succ h.opening, if_pos rfl]
    omega
  | succ k hik ih =>
    have hlength : j < t.length := (List.getElem?_eq_some_iff.mp h.closing).choose
    obtain ⟨c, hc⟩ : ∃ c, t[k]? = some c :=
      ⟨_, List.getElem?_eq_getElem (show k < t.length by omega)⟩
    have hne : c ≠ '"' := by
      rintro rfl
      exact h.next k (by omega) (by omega) hc
    rw [count_take_succ hc, if_neg hne]
    exact ih (by omega)

theorem exists_opening {t : Text} {k : Nat} (h : (t.take k).count '"' % 2 = 1) :
    ∃ i, i < k ∧ t[i]? = some '"' ∧ (t.take i).count '"' % 2 = 0 ∧
      ∀ m, i < m → m < k → t[m]? ≠ some '"' := by
  induction k with
  | zero => simp at h
  | succ k ih =>
    by_cases hquote : t[k]? = some '"'
    · rw [count_take_succ hquote, if_pos rfl] at h
      exact ⟨k, by omega, hquote, by omega, fun m hkm hmk => absurd hmk (by omega)⟩
    · have hcount : (t.take (k + 1)).count '"' = (t.take k).count '"' := by
        cases hc : t[k]? with
        | none => rw [List.take_add_one, hc, Option.toList_none, List.append_nil]
        | some c =>
          have hne : c ≠ '"' := by
            rintro rfl
            exact hquote hc
          rw [count_take_succ hc, if_neg hne, Nat.add_zero]
      rw [hcount] at h
      obtain ⟨i, hik, hopening, heven, hnext⟩ := ih h
      refine ⟨i, by omega, hopening, heven, fun m him hmk => ?_⟩
      rcases Nat.lt_succ_iff_lt_or_eq.mp hmk with hmk | rfl
      · exact hnext m him hmk
      · exact hquote

/-! ### Standing and pairs -/

theorem standingAt_eq_quoted_iff (before : Text) (c : Char) (after : Text) :
    standingAt before c after = .quoted ↔
      (c = '"' ∧ (before.count '"' % 2 = 1 ∨ '"' ∈ after)) ∨
        (c ≠ '"' ∧ before.count '"' % 2 = 1 ∧ '"' ∈ after) := by
  unfold standingAt betweenQuotes
  by_cases hc : c = '"'
  · by_cases hodd : before.count '"' % 2 = 1 <;> simp [hc, hodd]
  · simp [hc]

/-- What the quotes at the two sides of a character say is what the pairs say. -/
theorem standingAt_eq_quoted_iff_enclosed {t : Text} {k : Nat} {c : Char}
    (hc : t[k]? = some c) :
    standingAt (t.take k) c (t.drop (k + 1)) = .quoted ↔ Enclosed t k := by
  rw [standingAt_eq_quoted_iff]
  constructor
  · rintro (⟨rfl, hodd | hmem⟩ | ⟨hne, hodd, hmem⟩)
    · obtain ⟨i, hik, hopening, heven, hnext⟩ := exists_opening hodd
      exact ⟨i, k, ⟨hik, hopening, hc, heven, hnext⟩, by omega, by omega⟩
    · by_cases hodd : (t.take k).count '"' % 2 = 1
      · obtain ⟨i, hik, hopening, heven, hnext⟩ := exists_opening hodd
        exact ⟨i, k, ⟨hik, hopening, hc, heven, hnext⟩, by omega, by omega⟩
      · obtain ⟨j, hkj, hclosing, hnext⟩ := exists_next hmem
        exact ⟨k, j, ⟨hkj, hc, hclosing, by omega, hnext⟩, by omega, by omega⟩
    · obtain ⟨i, hik, hopening, heven, hbefore⟩ := exists_opening hodd
      obtain ⟨j, hkj, hclosing, hbehind⟩ := exists_next hmem
      refine ⟨i, j, ⟨by omega, hopening, hclosing, heven, fun m him hmj hquote => ?_⟩,
        by omega, by omega⟩
      rcases Nat.lt_trichotomy m k with hmk | rfl | hkm
      · exact hbefore m him hmk hquote
      · exact hne (Option.some_inj.mp (hc.symm.trans hquote))
      · exact hbehind m hkm hmj hquote
  · rintro ⟨i, j, hpair, hik, hkj⟩
    rcases Nat.eq_or_lt_of_le hik with rfl | hik
    · have hquote : c = '"' := Option.some_inj.mp (hc.symm.trans hpair.opening)
      exact .inl ⟨hquote, .inr (mem_drop_succ hpair.lt hpair.closing)⟩
    · have hodd := hpair.odd hik hkj
      by_cases hquote : c = '"'
      · exact .inl ⟨hquote, .inl hodd⟩
      · have hkj : k < j := by
          rcases Nat.eq_or_lt_of_le hkj with rfl | hkj
          · exact absurd (Option.some_inj.mp (hc.symm.trans hpair.closing)) hquote
          · exact hkj
        exact .inr ⟨hquote, hodd, mem_drop_succ hkj hpair.closing⟩

theorem getElem?_glyphsFrom (before rest : Text) (k : Nat) :
    (glyphsFrom (betweenQuotes before rest) rest)[k]? = rest[k]?.map fun c =>
      ⟨c, standingAt (before ++ rest.take k) c (rest.drop (k + 1))⟩ := by
  induction rest generalizing before k with
  | nil => rfl
  | cons c rest ih =>
    rw [glyphsFrom_cons]
    cases k with
    | zero => simp
    | succ k => simp [ih]

theorem getElem?_glyphs (t : Text) (k : Nat) :
    (glyphs t)[k]? =
      t[k]?.map fun c => ⟨c, standingAt (t.take k) c (t.drop (k + 1))⟩ :=
  getElem?_glyphsFrom [] t k

/-- A glyph is quoted exactly if its position belongs to a pair of quotes. -/
theorem standing_eq_quoted_iff {t : Text} {k : Nat} {g : Glyph}
    (hg : (glyphs t)[k]? = some g) : g.standing = .quoted ↔ Enclosed t k := by
  rw [getElem?_glyphs, Option.map_eq_some_iff] at hg
  obtain ⟨c, hc, rfl⟩ := hg
  exact standingAt_eq_quoted_iff_enclosed hc

theorem ne_quote_of_bare {t : Text} {g : Glyph} (hg : g ∈ glyphs t)
    (hbare : g.standing = .bare) : g.char ≠ '"' := by
  obtain ⟨k, hk⟩ := List.mem_iff_getElem?.mp hg
  rw [getElem?_glyphs, Option.map_eq_some_iff] at hk
  obtain ⟨c, -, rfl⟩ := hk
  rintro rfl
  dsimp only [standingAt] at hbare
  rw [if_pos rfl] at hbare
  split at hbare <;> exact absurd hbare (by simp)

theorem eq_quote_of_stray {t : Text} {g : Glyph} (hg : g ∈ glyphs t)
    (hstray : g.standing = .stray) : g.char = '"' := by
  obtain ⟨k, hk⟩ := List.mem_iff_getElem?.mp hg
  rw [getElem?_glyphs, Option.map_eq_some_iff] at hk
  obtain ⟨c, -, rfl⟩ := hk
  by_contra hc
  dsimp only [standingAt] at hc hstray
  rw [if_neg hc] at hstray
  split at hstray <;> exact absurd hstray (by simp)

/-! ### Characters outside the pairs -/

/-- A glyph that is not quoted and whose character is of a kind. -/
def Glyph.isOutside (kind : Char → Bool) (g : Glyph) : Bool :=
  g.standing != .quoted && kind g.char

theorem unquoted_iff_isOutside {kind : Char → Bool} {t : Text} {k : Nat} {g : Glyph}
    (hg : (glyphs t)[k]? = some g) : Unquoted kind t k ↔ g.isOutside kind = true := by
  have hstanding := standing_eq_quoted_iff hg
  have hchar : t[k]? = some g.char := by
    rw [getElem?_glyphs, Option.map_eq_some_iff] at hg
    obtain ⟨c, hc, rfl⟩ := hg
    exact hc
  unfold Unquoted Glyph.isOutside
  rw [← hstanding, hchar]
  simp [and_comm]

theorem unquoted_iff {kind : Char → Bool} {t : Text} {k : Nat} :
    Unquoted kind t k ↔ (glyphs t)[k]?.any (Glyph.isOutside kind) = true := by
  cases hg : (glyphs t)[k]? with
  | some g => exact unquoted_iff_isOutside hg
  | none =>
    have hnone : t[k]? = none := by
      rw [getElem?_glyphs] at hg
      simpa using hg
    simp [Unquoted, hnone]

instance (kind : Char → Bool) (t : Text) (k : Nat) : Decidable (Unquoted kind t k) :=
  decidable_of_iff _ unquoted_iff.symm

/-- The characters of a kind that stand outside the pairs of quotes, in order. -/
def outside (kind : Char → Bool) (t : Text) : Text :=
  (t.zipIdx.filter fun entry => Unquoted kind t entry.2).map Prod.fst

/-- The text without the characters of a kind that stand outside its pairs of quotes. -/
def without (kind : Char → Bool) (t : Text) : Text :=
  (t.zipIdx.filter fun entry => ¬ Unquoted kind t entry.2).map Prod.fst

/-- A choice by position that follows the glyphs is a choice of glyphs. -/
theorem filter_zipIdx_eq {t : Text} (keep : Nat → Bool) (choose : Glyph → Bool)
    (h : ∀ k g, (glyphs t)[k]? = some g → keep k = choose g) :
    (t.zipIdx.filter fun entry => keep entry.2).map Prod.fst =
      ((glyphs t).filter choose).map Glyph.char := by
  have ht : t.zipIdx = (glyphs t).zipIdx.map (Prod.map Glyph.char id) := by
    rw [← List.zipIdx_map, map_char_glyphs]
  have hfilter : (glyphs t).zipIdx.filter (fun entry => keep entry.2) =
      (glyphs t).zipIdx.filter fun entry => choose entry.1 := by
    refine List.filter_congr fun entry hentry => ?_
    exact h entry.2 entry.1 (List.mem_zipIdx_iff_getElem?.mp hentry)
  have hglyphs : (glyphs t).filter choose =
      ((glyphs t).zipIdx.filter fun entry => choose entry.1).map Prod.fst := by
    conv_lhs => rw [← List.zipIdx_map_fst 0 (glyphs t), List.filter_map]
    rfl
  rw [ht, List.filter_map, hglyphs, ← hfilter, List.map_map, List.map_map]
  rfl

theorem outside_eq (kind : Char → Bool) (t : Text) :
    outside kind t = ((glyphs t).filter (Glyph.isOutside kind)).map Glyph.char := by
  refine filter_zipIdx_eq (fun k => Unquoted kind t k) (Glyph.isOutside kind) fun k g hg => ?_
  rw [Bool.eq_iff_iff, decide_eq_true_iff]
  exact unquoted_iff_isOutside hg

theorem without_eq (kind : Char → Bool) (t : Text) :
    without kind t = ((glyphs t).filter (!·.isOutside kind)).map Glyph.char := by
  refine filter_zipIdx_eq (fun k => ¬ Unquoted kind t k) (!·.isOutside kind) fun k g hg => ?_
  rw [Bool.eq_iff_iff, decide_eq_true_iff, Bool.not_eq_true', ← Bool.not_eq_true]
  exact not_congr (unquoted_iff_isOutside hg)

end LivePage
