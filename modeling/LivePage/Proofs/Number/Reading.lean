/-
Which doubles are greater than zero, and which texts stand for no number.

* `Double.Positive`, `Double.isPositive_iff` — greater than zero, by the exact
  value;
* `Double.isNonPositive_eq_false_iff` — what is not zero or less is greater than
  zero or no number;
* `Double.ofDecimal_ne_nan`, `Double.ofInt?_ne_nan` — rounding always gives a
  number;
* `SpellsNan`, `Double.ofText?_eq_nan_iff` — the texts that are read as what is no
  number: a sign or none and the word `nan` in any case, with blanks around.

Design notes: underscores are taken out and digits of other scripts are turned
into those of ASCII before a text is looked at. A text that comes out without a
digit has gone in as it came out.
-/
import Mathlib.Algebra.Order.Field.Power
import Mathlib.Algebra.Order.Field.Rat
import LivePage.Number.Reading

namespace LivePage

namespace Double

/-! ### Signs -/

/-- The number is greater than zero. -/
def Positive : Double → Prop
  | .finite negative mantissa exponent => 0 < (signed negative mantissa : ℚ) * 2 ^ exponent
  | .infinite negative => negative = false
  | .nan => False

theorem isPositive_iff (d : Double) : d.isPositive = true ↔ d.Positive := by
  cases d with
  | nan => simp [isPositive, Positive]
  | infinite negative => simp [isPositive, Positive]
  | finite negative mantissa exponent =>
    have hpower : (0 : ℚ) < 2 ^ exponent := zpow_pos (by norm_num) exponent
    cases negative with
    | false => simp [isPositive, Positive, signed, hpower, Nat.pos_iff_ne_zero]
    | true => simp [isPositive, Positive, signed, hpower.le, mul_nonneg]

/-- What is not zero or less is greater than zero or no number. -/
theorem isNonPositive_eq_false_iff (d : Double) :
    d.isNonPositive = false ↔ d.Positive ∨ d = .nan := by
  rw [← isPositive_iff]
  cases d <;> simp [isNonPositive, isPositive]

theorem not_positive_nan : ¬ Positive .nan := not_false

/-! ### Rounding -/

theorem ofUnits_ne_nan (negative : Bool) (units : Nat) (exponent : Int) :
    ofUnits negative units exponent ≠ .nan := by
  unfold ofUnits
  dsimp only
  split_ifs <;> simp

theorem round_ne_nan (negative : Bool) (num den : Nat) : round negative num den ≠ .nan := by
  unfold round
  split
  · simp [zero]
  · exact ofUnits_ne_nan _ _ _

theorem ofDecimal_ne_nan (negative : Bool) (digits : Nat) (exponent : Int) :
    ofDecimal negative digits exponent ≠ .nan := by
  unfold ofDecimal
  dsimp only
  split_ifs
  · simp [zero]
  · simp
  · simp [zero]
  · exact round_ne_nan _ _ _

theorem ofInt?_ne_nan (n : Int) : ofInt? n ≠ some .nan := by
  unfold ofInt?
  split
  · simp
  · rename_i d _
    rw [Ne, Option.some_inj]
    exact round_ne_nan _ _ _

end Double

theorem decimalOf?_ne_nan (negative : Bool) (t : Text) : decimalOf? negative t ≠ some .nan := by
  intro h
  unfold decimalOf? at h
  dsimp only at h
  split at h
  all_goals
    split at h
    · exact absurd h (by simp)
    · obtain ⟨e, -, he⟩ := Option.map_eq_some_iff.mp h
      exact Double.ofDecimal_ne_nan _ _ _ he

/-! ### Digits and underscores -/

theorem isAsciiDigit_ofNat {v : Nat} (h : v < 10) : isAsciiDigit (Char.ofNat (48 + v)) = true := by
  have hall : ∀ v : Fin 10, isAsciiDigit (Char.ofNat (48 + v)) = true := by decide
  exact hall ⟨v, h⟩

theorem digitValue?_lt {c : Char} {v : Nat} (h : digitValue? c = some v) : v < 10 := by
  obtain ⟨first, hfirst, rfl⟩ := Option.map_eq_some_iff.mp h
  have hrange := List.find?_some hfirst
  simp only [Bool.and_eq_true, decide_eq_true_eq] at hrange
  omega

/-- Only digits are written in another way. -/
theorem eq_asciiDigits {t : Text} (h : ∀ c ∈ asciiDigits t, isAsciiDigit c = false) :
    asciiDigits t = t := by
  refine (List.map_congr_left fun c hc => ?_).trans (List.map_id t)
  have hwritten := h _ (List.mem_map_of_mem hc)
  cases hdigit : digitValue? c with
  | none => rfl
  | some v =>
    rw [hdigit] at hwritten
    exact absurd (isAsciiDigit_ofNat (digitValue?_lt hdigit)) (by simp [hwritten])

/-- An underscore is taken out only in front of a digit. -/
theorem eq_of_dropUnderscoresFrom {before : Bool} {t s : Text}
    (h : dropUnderscoresFrom before t = some s) (hs : ∀ c ∈ s, isAsciiDigit c = false) : s = t := by
  induction t generalizing before s with
  | nil => exact (Option.some_inj.mp h).symm
  | cons c t ih =>
    rw [dropUnderscoresFrom] at h
    split at h
    · split at h
      · rename_i hdigits
        obtain rfl := ih h hs
        -- the digit behind the underscore would be there still
        obtain ⟨-, hnext⟩ := Bool.and_eq_true _ _ ▸ hdigits
        obtain ⟨d, hd, hdigit⟩ := (Option.any_eq_true _ _).mp hnext
        exact absurd hdigit (by simp [hs d (List.mem_of_head? hd)])
      · exact absurd h (by simp)
    · obtain ⟨s', hs', rfl⟩ := Option.map_eq_some_iff.mp h
      rw [ih hs' fun other hother => hs other (List.mem_cons_of_mem c hother)]

theorem dropUnderscoresFrom_of_not_mem {before : Bool} {t : Text} (h : '_' ∉ t) :
    dropUnderscoresFrom before t = some t := by
  induction t generalizing before with
  | nil => rfl
  | cons c t ih =>
    rw [List.mem_cons, not_or] at h
    rw [dropUnderscoresFrom, if_neg (Ne.symm h.1), ih h.2]
    rfl

/-! ### The word for what is no number -/

/-- A text is a sign or none and the word `nan` in any case, with blanks around. -/
def SpellsNan (t : Text) : Prop :=
  ∃ sign ∈ [[], ['+'], ['-']], ∃ word : Text,
    bareNumber t = sign ++ word ∧ lowerAscii word = ['n', 'a', 'n']

/-- The characters that such a text is made of. -/
def nanMarks : List Char :=
  ['+', '-', 'n', 'N', 'a', 'A']

theorem of_mem_nanMarks {c : Char} (h : c ∈ nanMarks) :
    isAsciiDigit c = false ∧ digitValue? c = none ∧ c ≠ '_' := by
  have hall : nanMarks.all (fun mark =>
      isAsciiDigit mark = false ∧ digitValue? mark = none ∧ mark ≠ '_') = true := by decide +kernel
  exact of_decide_eq_true (List.all_eq_true.mp hall c h)

theorem mem_of_toLower {c : Char} (h : c.toLower ∈ ['n', 'a', 'n']) :
    c ∈ ['n', 'N', 'a', 'A'] := by
  by_cases hupper : c.val ≥ 'A'.val ∧ c.val ≤ 'Z'.val
  · have hall : ∀ n : Fin 26, (Char.ofNat (65 + n)).toLower ∈ ['n', 'a', 'n'] →
        Char.ofNat (65 + n) ∈ ['n', 'N', 'a', 'A'] := by decide +kernel
    have hrange : 65 ≤ c.toNat ∧ c.toNat ≤ 90 := by
      simpa [UInt32.le_iff_toNat_le] using hupper
    have hc : Char.ofNat (65 + (c.toNat - 65)) = c := by
      rw [Nat.add_sub_cancel' hrange.1, Char.ofNat_toNat]
    have hself := hall ⟨c.toNat - 65, by omega⟩
    rw [hc] at hself
    exact hself h
  · have hself : c.toLower = c := dif_neg hupper
    rw [hself] at h
    have hletters : ['n', 'a', 'n'] ⊆ ['n', 'N', 'a', 'A'] := by simp
    exact hletters h

theorem mem_of_lowerAscii_eq {word : Text} (h : lowerAscii word = ['n', 'a', 'n']) {c : Char}
    (hc : c ∈ word) : c ∈ ['n', 'N', 'a', 'A'] :=
  mem_of_toLower (h ▸ List.mem_map_of_mem hc)

theorem mem_nanMarks {sign word : Text} (hsign : sign ∈ [[], ['+'], ['-']])
    (hword : lowerAscii word = ['n', 'a', 'n']) : ∀ c ∈ sign ++ word, c ∈ nanMarks := by
  intro c hc
  rcases List.mem_append.mp hc with hc | hc
  · have hsigns : ∀ sign ∈ [[], ['+'], ['-']], sign ⊆ nanMarks := by simp [nanMarks]
    exact hsigns sign hsign hc
  · have hletters : ['n', 'N', 'a', 'A'] ⊆ nanMarks := by simp [nanMarks]
    exact hletters (mem_of_lowerAscii_eq hword hc)

theorem exists_sign (t : Text) : ∃ sign ∈ [[], ['+'], ['-']], t = sign ++ (splitSign t).2 := by
  unfold splitSign
  split
  · exact ⟨['-'], by simp, rfl⟩
  · exact ⟨['+'], by simp, rfl⟩
  · exact ⟨[], by simp, rfl⟩

theorem splitSign_append {sign word : Text} (hsign : sign ∈ [[], ['+'], ['-']])
    (hword : lowerAscii word = ['n', 'a', 'n']) : (splitSign (sign ++ word)).2 = word := by
  simp only [List.mem_cons, List.not_mem_nil, or_false] at hsign
  rcases hsign with rfl | rfl | rfl
  · have hletters := fun c hc => @mem_of_lowerAscii_eq word hword c hc
    rw [List.nil_append]
    unfold splitSign
    split
    · exact absurd (hletters _ List.mem_cons_self) (by decide)
    · exact absurd (hletters _ List.mem_cons_self) (by decide)
    · rfl
  · rfl
  · rfl

/-- A text is read as what is no number exactly if it is spelled so. -/
theorem Double.ofText?_eq_nan_iff {t : Text} : Double.ofText? t = some .nan ↔ SpellsNan t := by
  constructor
  · intro h
    obtain ⟨s, hs, h⟩ := Option.bind_eq_some_iff.mp h
    have hword : lowerAscii (splitSign s).2 = ['n', 'a', 'n'] := by
      dsimp only at h
      split at h
      · exact absurd h (by simp)
      · exact absurd h (by simp)
      · rename_i hnan
        exact String.ofList_injective hnan
      · exact absurd h (decimalOf?_ne_nan _ _)
    obtain ⟨sign, hsign, hsplit⟩ := exists_sign s
    have hdigits : ∀ c ∈ s, isAsciiDigit c = false := by
      intro c hc
      rw [hsplit] at hc
      exact (of_mem_nanMarks (mem_nanMarks hsign hword c hc)).1
    -- neither underscores nor digits of another script were there
    obtain rfl := eq_of_dropUnderscoresFrom hs hdigits
    rw [eq_asciiDigits hdigits] at hsplit hword
    exact ⟨sign, hsign, _, hsplit, hword⟩
  · rintro ⟨sign, hsign, word, hbare, hword⟩
    have hmarks := mem_nanMarks hsign hword
    have hascii : asciiDigits (sign ++ word) = sign ++ word := by
      refine (List.map_congr_left fun c hc => ?_).trans (List.map_id _)
      rw [(of_mem_nanMarks (hmarks c hc)).2.1]
      rfl
    have hunderscores : '_' ∉ sign ++ word := fun h => (of_mem_nanMarks (hmarks _ h)).2.2 rfl
    rw [Double.ofText?, hbare, hascii, dropUnderscores?,
      dropUnderscoresFrom_of_not_mem hunderscores]
    simp only [Option.bind_eq_bind, Option.bind_some, splitSign_append hsign hword, hword]

end LivePage
