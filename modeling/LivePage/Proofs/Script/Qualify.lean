/-
Where the global namespace is put into an expression.

`qualify` reads an expression once, with the literal it stands in and the
last character as its state. Here its result is said by position: the
namespace stands before the bare names of the expression, and everything
else is as it was.

* `inLiteral_iff` — the state of the reading knows the string literals of the
  expression, which are found from left to right;
* `qualify_eq_insert` — the namespace is put in front of the bare names and
  nowhere else;
* `qualify_qualify` — so nothing is left to do for a second reading.

Design notes: the literals are an inductive matter, since a quote opens one
only if no earlier literal holds it (`Free`). `literalAfter` computes the
same from left to right and is what `qualifyFrom` carries along.
-/
import Mathlib.Data.List.Basic
import LivePage.Script
import LivePage.Proofs.Text.Basic

namespace LivePage.Script

/-! ### String literals -/

/-- A quote of either kind at one position, and the next quote of its kind at another. -/
structure IsLiteral (e : Text) (i j : Nat) (q : Char) : Prop where
  lt : i < j
  kind : q = '"' ∨ q = '\''
  opening : e[i]? = some q
  closing : e[j]? = some q
  next : ∀ k, i < k → k < j → e[k]? ≠ some q

/-- From left to right, the position is reached outside of literals: no literal that begins before
it goes on there. -/
inductive Free (e : Text) : Nat → Prop
  | start : Free e 0
  | plain {i : Nat} : Free e i → i < e.length → (∀ j q, ¬ IsLiteral e i j q) → Free e (i + 1)
  | literal {i j : Nat} {q : Char} : Free e i → IsLiteral e i j q → Free e (j + 1)

/-- The position belongs to a string literal. -/
def InLiteral (e : Text) (k : Nat) : Prop :=
  ∃ i j q, Free e i ∧ IsLiteral e i j q ∧ i ≤ k ∧ k ≤ j

/-- The literal that the reading is in behind a character: a literal ends with its quote, and a
quote opens one if there is another of its kind in what follows. -/
def nextLiteral : Option Char → Char → Text → Option Char
  | some q, c, _ => if c = q then none else some q
  | none, c, rest => if (c = '"' ∨ c = '\'') ∧ c ∈ rest then some c else none

/-- The quote that ends the literal around a position, once all before it has been read. -/
def literalAfter (e : Text) : Nat → Option Char
  | 0 => none
  | k + 1 => e[k]?.bind fun c => nextLiteral (literalAfter e k) c (e.drop (k + 1))

theorem literalAfter_succ {e : Text} {k : Nat} {c : Char} (hc : e[k]? = some c) :
    literalAfter e (k + 1) = nextLiteral (literalAfter e k) c (e.drop (k + 1)) := by
  rw [literalAfter, hc, Option.bind_some]

/-- A quote opens a literal exactly if there is another one of its kind behind it. -/
theorem exists_isLiteral_iff {e : Text} {k : Nat} {c : Char} (hc : e[k]? = some c) :
    (∃ j q, IsLiteral e k j q) ↔ (c = '"' ∨ c = '\'') ∧ c ∈ e.drop (k + 1) := by
  constructor
  · rintro ⟨j, q, hlit⟩
    obtain rfl : c = q := Option.some_inj.mp (hc.symm.trans hlit.opening)
    exact ⟨hlit.kind, mem_drop_succ hlit.lt hlit.closing⟩
  · rintro ⟨hkind, hmem⟩
    obtain ⟨j, hkj, hclosing, hnext⟩ := exists_next hmem
    exact ⟨j, c, hkj, hkind, hc, hclosing, hnext⟩

/-- What the reading knows holds: inside a literal it knows the quote that ends it. -/
theorem literalAfter_sound {e : Text} {k : Nat} (hk : k ≤ e.length) :
    (literalAfter e k = none → Free e k) ∧
      ∀ q, literalAfter e k = some q → ∃ i j, Free e i ∧ IsLiteral e i j q ∧ i < k ∧ k ≤ j := by
  induction k with
  | zero => exact ⟨fun _ => .start, fun q hq => absurd hq (by simp [literalAfter])⟩
  | succ k ih =>
    obtain ⟨hnone, hsome⟩ := ih (by omega)
    have hc : e[k]? = some e[k] := List.getElem?_eq_getElem hk
    generalize e[k] = c at hc
    rw [literalAfter_succ hc]
    cases hstate : literalAfter e k with
    | some q =>
      rw [nextLiteral]
      obtain ⟨i, j, hfree, hlit, hik, hkj⟩ := hsome q hstate
      by_cases hq : c = q
      · rw [if_pos hq]
        have hend : k = j := by
          by_contra hne
          exact hlit.next k hik (by omega) (hq ▸ hc)
        exact ⟨fun _ => hend ▸ hfree.literal hlit, by simp⟩
      · rw [if_neg hq]
        have hbefore : k ≠ j := by
          rintro rfl
          exact hq (Option.some_inj.mp (hc.symm.trans hlit.closing))
        refine ⟨by simp, fun q' hq' => ?_⟩
        obtain rfl : q = q' := Option.some_inj.mp hq'
        exact ⟨i, j, hfree, hlit, by omega, by omega⟩
    | none =>
      rw [nextLiteral]
      have hfree := hnone hstate
      have hopens := exists_isLiteral_iff hc
      split
      · rename_i hquote
        obtain ⟨j, q, hlit⟩ := hopens.mpr hquote
        obtain rfl : c = q := Option.some_inj.mp (hc.symm.trans hlit.opening)
        refine ⟨by simp, fun q' hq' => ?_⟩
        obtain rfl : c = q' := Option.some_inj.mp hq'
        exact ⟨k, j, hfree, hlit, by omega, hlit.lt⟩
      · rename_i hquote
        refine ⟨fun _ => hfree.plain hk fun j q hlit => ?_, by simp⟩
        exact hquote (hopens.mp ⟨j, q, hlit⟩)

/-- From its first quote on the reading is inside the literal, up to its last quote. -/
theorem IsLiteral.literalAfter_eq {e : Text} {i j : Nat} {q : Char} (h : IsLiteral e i j q)
    (hstate : literalAfter e i = none) {k : Nat} (hik : i < k) (hkj : k ≤ j) :
    literalAfter e k = some q := by
  induction k with
  | zero => omega
  | succ k ih =>
    rcases Nat.lt_succ_iff_lt_or_eq.mp hik with hlt | rfl
    · have hlength : j < e.length := (List.getElem?_eq_some_iff.mp h.closing).choose
      have hc : e[k]? = some e[k] := List.getElem?_eq_getElem (by omega)
      have hne : e[k] ≠ q := by
        intro heq
        exact h.next k hlt (by omega) (heq ▸ hc)
      rw [literalAfter_succ hc, ih hlt (by omega)]
      exact if_neg hne
    · rw [literalAfter_succ h.opening, hstate]
      exact if_pos ((exists_isLiteral_iff h.opening).mp ⟨j, q, h⟩)

theorem Free.literalAfter_eq {e : Text} {k : Nat} (h : Free e k) : literalAfter e k = none := by
  induction h with
  | start => rfl
  | @plain i _ hi hnot ih =>
    have hc : e[i]? = some e[i] := List.getElem?_eq_getElem hi
    rw [literalAfter_succ hc, ih]
    refine if_neg fun hquote => ?_
    obtain ⟨j, q, hlit⟩ := (exists_isLiteral_iff hc).mpr hquote
    exact hnot j q hlit
  | @literal i j q _ hlit ih =>
    rw [literalAfter_succ hlit.closing, hlit.literalAfter_eq ih hlit.lt (Nat.le_refl j)]
    exact if_pos rfl

/-- The reading knows the literals: it is inside one before the position, or right behind it. -/
theorem inLiteral_iff {e : Text} {k : Nat} (hk : k < e.length) :
    InLiteral e k ↔ literalAfter e k ≠ none ∨ literalAfter e (k + 1) ≠ none := by
  constructor
  · rintro ⟨i, j, q, hfree, hlit, hik, hkj⟩
    rcases Nat.eq_or_lt_of_le hik with rfl | hik
    · refine .inr ?_
      rw [hlit.literalAfter_eq hfree.literalAfter_eq (Nat.lt_succ_self i) hlit.lt]
      simp
    · refine .inl ?_
      rw [hlit.literalAfter_eq hfree.literalAfter_eq hik hkj]
      simp
  · rintro (hstate | hstate)
    · obtain ⟨q, hq⟩ := Option.ne_none_iff_exists'.mp hstate
      obtain ⟨i, j, hfree, hlit, hik, hkj⟩ := (literalAfter_sound (by omega)).2 q hq
      exact ⟨i, j, q, hfree, hlit, by omega, hkj⟩
    · obtain ⟨q, hq⟩ := Option.ne_none_iff_exists'.mp hstate
      obtain ⟨i, j, hfree, hlit, hik, hkj⟩ := (literalAfter_sound hk).2 q hq
      exact ⟨i, j, q, hfree, hlit, by omega, by omega⟩

/-! ### Bare names -/

/-- A bare name begins at the position: outside of literals, with a letter or an underscore, behind
nothing that it would continue, and it is not the name of the namespace. -/
structure IsBareName (e : Text) (i : Nat) : Prop where
  free : ¬ InLiteral e i
  starts : ∃ c, e[i]? = some c ∧ startsName c = true
  fresh : i = 0 ∨ ∃ c, e[i - 1]? = some c ∧ continuesName c = false
  name : (e.drop i).takeWhile isWord ≠ globalNamespace

/-- The character before a position. -/
def charBefore (e : Text) : Nat → Option Char
  | 0 => none
  | k + 1 => e[k]?

theorem fresh_iff {e : Text} {k : Nat} (hk : k ≤ e.length) :
    (k = 0 ∨ ∃ c, e[k - 1]? = some c ∧ continuesName c = false) ↔
      ¬ (charBefore e k).any continuesName = true := by
  cases k with
  | zero => simp [charBefore]
  | succ k => simp [charBefore, List.getElem?_eq_getElem hk]

theorem isBareName_iff {e : Text} {k : Nat} {c : Char} (hc : e[k]? = some c) :
    IsBareName e k ↔ (literalAfter e k = none ∧ literalAfter e (k + 1) = none) ∧
      startsName c = true ∧ ¬ (charBefore e k).any continuesName = true ∧
        (e.drop k).takeWhile isWord ≠ globalNamespace := by
  have hk : k < e.length := (List.getElem?_eq_some_iff.mp hc).choose
  have hfree : ¬ InLiteral e k ↔ literalAfter e k = none ∧ literalAfter e (k + 1) = none := by
    rw [inLiteral_iff hk]
    simp
  rw [← hfree, ← fresh_iff (by omega)]
  constructor
  · rintro ⟨hfree, ⟨d, hd, hstarts⟩, hfresh, hname⟩
    obtain rfl : c = d := Option.some_inj.mp (hc.symm.trans hd)
    exact ⟨hfree, hstarts, hfresh, hname⟩
  · rintro ⟨hfree, hstarts, hfresh, hname⟩
    exact ⟨hfree, ⟨c, hc, hstarts⟩, hfresh, hname⟩

instance (e : Text) (k : Nat) : Decidable (IsBareName e k) :=
  match hc : e[k]? with
  | some _ => decidable_of_iff _ (isBareName_iff hc).symm
  | none => .isFalse fun h => by
    obtain ⟨c, hsome, -⟩ := h.starts
    exact absurd (hc.symm.trans hsome) (by simp)

-- neither a member, nor a literal, nor the namespace itself is a bare name
example :
    (List.range 20).filter (fun k => IsBareName "n += s.x+'a'+window.t".toList k) = [0, 5] := by
  decide

/-- What is written for a character of an expression: itself, behind the namespace if a bare name
begins with it. -/
def written (e : Text) (entry : Char × Nat) : Text :=
  if IsBareName e entry.2 then globalRef [entry.1] else [entry.1]

theorem qualifyFrom_of_opens {before? : Option Char} {c : Char} {rest : Text}
    (h : (c = '"' ∨ c = '\'') ∧ c ∈ rest) :
    qualifyFrom none before? (c :: rest) = c :: qualifyFrom (some c) (some c) rest := by
  rw [qualifyFrom]
  exact if_pos h

theorem qualifyFrom_of_not_opens {before? : Option Char} {c : Char} {rest : Text}
    (h : ¬ ((c = '"' ∨ c = '\'') ∧ c ∈ rest)) :
    qualifyFrom none before? (c :: rest) =
      if startsName c = true ∧ ¬ before?.any continuesName = true ∧
          (c :: rest).takeWhile isWord ≠ globalNamespace then
        globalRef (c :: qualifyFrom none (some c) rest)
      else c :: qualifyFrom none (some c) rest := by
  rw [qualifyFrom]
  exact if_neg h

theorem qualifyFrom_eq_flatMap (e : Text) {rest : Text} {k : Nat} (hrest : e.drop k = rest) :
    qualifyFrom (literalAfter e k) (charBefore e k) rest =
      (rest.zipIdx k).flatMap (written e) := by
  induction rest generalizing k with
  | nil => rfl
  | cons c rest ih =>
    have hc : e[k]? = some c := by
      rw [← Nat.add_zero k, ← List.getElem?_drop, hrest]
      rfl
    have hdrop : e.drop (k + 1) = rest := by
      rw [← List.drop_drop, hrest]
      rfl
    have hnext := ih hdrop
    rw [charBefore, hc] at hnext
    have hbare := isBareName_iff hc
    rw [List.zipIdx_cons, List.flatMap_cons, ← hnext, written]
    have hstate := literalAfter_succ hc
    rw [hdrop] at hstate
    cases hlit : literalAfter e k with
    | some q =>
      rw [hlit, nextLiteral] at hstate
      rw [hlit] at hbare
      have hnot : ¬ IsBareName e k := fun h => absurd (hbare.mp h).1.1 (by simp)
      rw [if_neg hnot, hstate, qualifyFrom]
      rfl
    | none =>
      rw [hlit, nextLiteral] at hstate
      rw [hlit] at hbare
      by_cases hopens : (c = '"' ∨ c = '\'') ∧ c ∈ rest
      · rw [if_pos hopens] at hstate
        have hnot : ¬ IsBareName e k := fun h => absurd (hbare.mp h).1.2 (by simp [hstate])
        rw [if_neg hnot, hstate, qualifyFrom_of_opens hopens]
        rfl
      · rw [if_neg hopens] at hstate
        rw [hstate, hrest] at hbare
        rw [hstate, qualifyFrom_of_not_opens hopens]
        by_cases hname : IsBareName e k
        · rw [if_pos hname, if_pos (hbare.mp hname).2]
          simp [globalRef]
        · rw [if_neg hname, if_neg fun h => hname (hbare.mpr ⟨⟨rfl, rfl⟩, h⟩)]
          rfl

/-- **The global namespace is put in front of the bare names of an expression**, and nothing else is
put in, taken out or changed. -/
theorem qualify_eq_insert (e : Text) :
    qualify e = e.zipIdx.flatMap fun entry =>
      if IsBareName e entry.2 then "window.".toList ++ [entry.1] else [entry.1] :=
  qualifyFrom_eq_flatMap e (List.drop_zero)

/-! ### A second reading -/

theorem isWord_of_startsName {c : Char} (h : startsName c = true) : isWord c = true := by
  rcases Bool.or_eq_true_iff.mp h with hletter | hscore
  · simp [isWord, hletter]
  · simp [isWord, hscore]

theorem isWord_of_mem_globalNamespace {c : Char} (h : c ∈ globalNamespace) : isWord c = true := by
  have hall : globalNamespace.all isWord = true := by decide
  exact List.all_eq_true.mp hall c h

theorem continuesName_of_isWord {c : Char} (h : isWord c = true) : continuesName c = true := by
  simp [continuesName, h]

theorem ne_quote_of_isWord {c : Char} (h : isWord c = true) : ¬ (c = '"' ∨ c = '\'') := by
  rintro (rfl | rfl) <;> exact absurd h (by decide)

/-- The quotes of an expression stay, and none is put in. -/
theorem quote_mem_qualifyFrom {q : Char} (hq : q = '"' ∨ q = '\'') (literal? before? : Option Char)
    (t : Text) : q ∈ qualifyFrom literal? before? t ↔ q ∈ t := by
  have hglobal : ∀ u : Text, q ∈ globalRef u ↔ q ∈ u := by
    intro u
    have hnot : q ∉ globalNamespace ++ ['.'] := by
      rcases hq with rfl | rfl <;> decide
    rw [globalRef, List.append_cons, List.mem_append]
    exact or_iff_right hnot
  induction t generalizing literal? before? with
  | nil => rfl
  | cons c rest ih =>
    have hcons : ∀ l b, q ∈ c :: qualifyFrom l b rest ↔ q ∈ c :: rest := by
      intro l b
      rw [List.mem_cons, List.mem_cons]
      exact or_congr_right (ih l b)
    cases literal? with
    | some r => exact hcons _ _
    | none =>
      rw [qualifyFrom]
      split
      · exact hcons _ _
      · split
        · exact (hglobal _).trans (hcons _ _)
        · exact hcons _ _

/-- Behind a character that a name would continue, nothing is put in. -/
theorem qualifyFrom_of_continues {b c : Char} {rest : Text} (hb : continuesName b = true)
    (hopens : ¬ ((c = '"' ∨ c = '\'') ∧ c ∈ rest)) :
    qualifyFrom none (some b) (c :: rest) = c :: qualifyFrom none (some c) rest := by
  rw [qualifyFrom_of_not_opens hopens]
  exact if_neg fun h => h.2.1 (by simpa using hb)

/-- A word that has begun goes on as it was. -/
theorem qualifyFrom_append_word {b : Char} (hb : continuesName b = true) {word : Text}
    (hword : ∀ c ∈ word, isWord c = true) (t : Text) :
    qualifyFrom none (some b) (word ++ '.' :: t) =
      word ++ '.' :: qualifyFrom none (some '.') t := by
  induction word generalizing b with
  | nil => exact qualifyFrom_of_continues hb (by simp)
  | cons c word ih =>
    have hc := hword c List.mem_cons_self
    rw [List.cons_append, qualifyFrom_of_continues hb fun h => ne_quote_of_isWord hc h.1,
      ih (continuesName_of_isWord hc) fun d hd => hword d (List.mem_cons_of_mem c hd),
      List.cons_append]

theorem takeWhile_isWord_qualifyFrom {b : Char} (hb : continuesName b = true) (t : Text) :
    (qualifyFrom none (some b) t).takeWhile isWord = t.takeWhile isWord := by
  induction t generalizing b with
  | nil => rfl
  | cons c rest ih =>
    by_cases hc : isWord c = true
    · rw [qualifyFrom_of_continues hb fun h => ne_quote_of_isWord hc h.1,
        List.takeWhile_cons_of_pos hc, List.takeWhile_cons_of_pos hc,
        ih (continuesName_of_isWord hc)]
    · have hhead : (qualifyFrom none (some b) (c :: rest)).takeWhile isWord = [] := by
        by_cases hopens : (c = '"' ∨ c = '\'') ∧ c ∈ rest
        · rw [qualifyFrom_of_opens hopens, List.takeWhile_cons_of_neg hc]
        · rw [qualifyFrom_of_continues hb hopens, List.takeWhile_cons_of_neg hc]
      rw [hhead, List.takeWhile_cons_of_neg hc]

/-- The namespace and the name behind it are kept. -/
theorem qualifyFrom_globalRef {before? : Option Char} {c : Char} (hc : startsName c = true)
    (t : Text) : qualifyFrom none before? (globalRef (c :: t)) =
      globalRef (c :: qualifyFrom none (some c) t) := by
  have hglobal : ∀ u : Text, globalRef u = 'w' :: ("indow".toList ++ '.' :: u) := fun u => rfl
  have hname : ('w' :: ("indow".toList ++ '.' :: c :: t)).takeWhile isWord = globalNamespace := by
    rw [← hglobal, globalRef,
      List.takeWhile_append_of_pos fun _ hmem => isWord_of_mem_globalNamespace hmem,
      List.takeWhile_cons_of_neg (by decide), List.append_nil]
  have hword : ∀ d ∈ "indow".toList, isWord d = true := fun d hd =>
    isWord_of_mem_globalNamespace (List.mem_cons_of_mem 'w' hd)
  have hmember : qualifyFrom none (some '.') (c :: t) = c :: qualifyFrom none (some c) t :=
    qualifyFrom_of_continues (by decide) fun h => ne_quote_of_isWord (isWord_of_startsName hc) h.1
  rw [hglobal, hglobal, qualifyFrom_of_not_opens (by simp), if_neg fun h => h.2.2 hname,
    qualifyFrom_append_word (by decide) hword, hmember]

theorem qualifyFrom_qualifyFrom (literal? before? : Option Char) (t : Text) :
    qualifyFrom literal? before? (qualifyFrom literal? before? t) =
      qualifyFrom literal? before? t := by
  induction t generalizing literal? before? with
  | nil => rfl
  | cons c rest ih =>
    cases literal? with
    | some q => rw [qualifyFrom, qualifyFrom, ih]
    | none =>
      by_cases hopens : (c = '"' ∨ c = '\'') ∧ c ∈ rest
      · have hmem := (quote_mem_qualifyFrom hopens.1 (some c) (some c) rest).mpr hopens.2
        rw [qualifyFrom_of_opens hopens, qualifyFrom_of_opens ⟨hopens.1, hmem⟩, ih]
      · rw [qualifyFrom_of_not_opens hopens]
        split
        · rename_i hbare
          rw [qualifyFrom_globalRef hbare.1, ih]
        · rename_i hbare
          have hopens' : ¬ ((c = '"' ∨ c = '\'') ∧ c ∈ qualifyFrom none (some c) rest) := by
            rintro ⟨hquote, hmem⟩
            exact hopens ⟨hquote, (quote_mem_qualifyFrom hquote _ _ _).mp hmem⟩
          rw [qualifyFrom_of_not_opens hopens', if_neg, ih]
          -- the second reading sees the same name
          rintro ⟨hstarts, hfresh, hname⟩
          have hc := isWord_of_startsName hstarts
          refine hbare ⟨hstarts, hfresh, ?_⟩
          rwa [List.takeWhile_cons_of_pos hc,
            takeWhile_isWord_qualifyFrom (continuesName_of_isWord hc),
            ← List.takeWhile_cons_of_pos hc] at hname

/-- **A second reading changes nothing**, since the first one leaves no bare name: the literals are
where they were, and each bare name is now a member of the namespace. -/
theorem qualify_qualify (e : Text) : qualify (qualify e) = qualify e :=
  qualifyFrom_qualifyFrom none none e

end LivePage.Script
