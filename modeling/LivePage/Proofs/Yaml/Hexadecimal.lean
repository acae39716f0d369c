/-
Hexadecimal integers of a document.

Digits of base 16 are read however many they are, while decimal ones are not, and
so a document can hold an integer that is too long to be written again.

* `resolve_hexWord` — a plain scalar of hexadecimal digits is their number;
* `plainScalar_of_goesOn` — a plain scalar at the end of a text is all that is
  left of it;
* `load_langDocument` — a document that ends with such a scalar has its number,
  for any digits.

Design notes: the digits are not known, so the text before them is read in stages,
and the place after each stage is written out with the digits left open
(`langStage`).
-/
import Mathlib
import LivePage.Files.Tree
import LivePage.Proofs.Text.Basic
import LivePage.Yaml.Load

namespace LivePage.Yaml

/-! ### Digits -/

/-- A character is a hexadecimal digit. -/
def IsHexDigit (c : Char) : Prop :=
  (hexValue? c).isSome = true

/-- The number that hexadecimal digits stand for. -/
def hexadecimal (digits : Text) : Nat :=
  digits.foldl (fun n c => 16 * n + (hexValue? c).getD 0) 0

namespace IsHexDigit

theorem ne {c d : Char} (h : IsHexDigit c) (hd : hexValue? d = none) : c ≠ d := by
  rintro rfl
  simp [IsHexDigit, hd] at h

theorem toNat {c : Char} (h : IsHexDigit c) : 48 ≤ c.toNat ∧ c.toNat ≤ 102 := by
  unfold IsHexDigit hexValue? at h
  grind

theorem not_isSpacing {c : Char} (h : IsHexDigit c) : isSpacing c = false := by
  simp (disch := decide) [isSpacing, isBreak, h.ne]

theorem isAllowed {c : Char} (h : IsHexDigit c) : isAllowed c = true := by
  have hbounds := h.toNat
  have hband : inBands [(0x20, 0x7E), (0xA0, 0xD7FF), (0xE000, 0xFFFD), (0x10000, 0x10FFFF)]
      c.toNat = true := by
    simp [inBands]
    omega
  simp [Yaml.isAllowed, hband]

end IsHexDigit

/-! ### What digits stand for -/

theorem contains_ofList_eq_false (words : List String) (c : Char)
    (h : ∀ word ∈ words, word.toList.head? ≠ some c) (t : Text) :
    words.contains (String.ofList (c :: t)) = false := by
  rw [← Bool.not_eq_true, List.contains_iff_mem]
  intro hmem
  exact h _ hmem (by rw [String.toList_ofList]; rfl)

section Word

variable {digits : Text} (h : ∀ c ∈ digits, IsHexDigit c)

include h

theorem ne_of_mem_hexWord {c d : Char} (hc : c ∈ '0' :: 'x' :: digits) (hd : hexValue? d = none)
    (hx : d ≠ 'x') : c ≠ d := by
  rcases hc with _ | ⟨_, _ | ⟨_, hc⟩⟩
  · rintro rfl
    simp [hexValue?] at hd
  · exact hx.symm
  · exact (h c hc).ne hd

theorem float?_hexWord : float? ('0' :: 'x' :: digits) = none := by
  have hinf := contains_ofList_eq_false [".inf", ".Inf", ".INF"] '0' (by decide) ('x' :: digits)
  have hnan := contains_ofList_eq_false [".nan", ".NaN", ".NAN"] '0' (by decide) ('x' :: digits)
  have hpoint : ('0' :: 'x' :: digits).dropWhile (· != '.') = [] := by
    rw [List.dropWhile_eq_nil_iff]
    intro c hc
    simpa using ne_of_mem_hexWord h hc (by decide) (by decide)
  have hfraction : fraction? ('0' :: 'x' :: digits) = none := by
    rw [fraction?, hpoint]
  have hsign : splitSign ('0' :: 'x' :: digits) = (false, '0' :: 'x' :: digits) := rfl
  rw [float?, hsign]
  simp only [hinf, hnan, hfraction, Bool.false_eq_true, if_false]
  rfl

theorem natural?_hexWord (hne : digits ≠ []) :
    natural? ('0' :: 'x' :: digits) = some (.ok (hexadecimal digits)) := by
  have hcut : cut (· == ':') ('0' :: 'x' :: digits) = ['0' :: 'x' :: digits] := by
    rw [cut_eq_splitOnP]
    refine List.splitOnP_eq_singleton fun c hc => ?_
    simpa using ne_of_mem_hexWord h hc (by decide) (by decide)
  have hdigits : areDigits (fun c => (hexValue? c).isSome) digits = true := by
    simp only [areDigits, List.isEmpty_eq_false_iff.mpr hne, Bool.not_false, Bool.true_and,
      List.all_eq_true]
    intro c hc
    simp [show (hexValue? c).isSome = true from h c hc]
  have hkeep : withoutUnderscores digits = digits := by
    rw [withoutUnderscores, List.filter_eq_self]
    intro c hc
    simpa using (h c hc).ne (by decide)
  simp [natural?, hcut, hdigits, inBase, hkeep, hne, hexadecimal]

/-- A plain scalar of hexadecimal digits is their number, however many they are. -/
theorem resolve_hexWord (hne : digits ≠ []) :
    resolve ('0' :: 'x' :: digits) = .ok (.int (hexadecimal digits)) := by
  have hnull := contains_ofList_eq_false nullWords '0' (by decide) ('x' :: digits)
  have hyes := contains_ofList_eq_false
    ["yes", "Yes", "YES", "true", "True", "TRUE", "on", "On", "ON"] '0' (by decide) ('x' :: digits)
  have hno := contains_ofList_eq_false
    ["no", "No", "NO", "false", "False", "FALSE", "off", "Off", "OFF"] '0' (by decide)
    ('x' :: digits)
  have hbool : boolWord? ('0' :: 'x' :: digits) = none := by
    simp only [boolWord?, hyes, hno, Bool.false_eq_true, if_false]
  have hinteger : integer? ('0' :: 'x' :: digits) = some (.ok (hexadecimal digits : Int)) := by
    have hsign : splitSign ('0' :: 'x' :: digits) = (false, '0' :: 'x' :: digits) := rfl
    rw [integer?, hsign]
    dsimp only
    rw [natural?_hexWord h hne]
    rfl
  rw [resolve, hnull, hbool, float?_hexWord h, hinteger]
  rfl

end Word

/-! ### Plain scalars at the end of a text -/

/-- A character goes on with a plain scalar wherever it stands. -/
def GoesOn (c : Char) : Prop :=
  isSpacing c = false ∧ c ≠ ':'

theorem plainLength_eq_length {t : Text} (h : ∀ c ∈ t, GoesOn c) :
    plainLength false t = t.length := by
  induction t with
  | nil => rfl
  | cons c t ih =>
    obtain ⟨⟨hspacing, hcolon⟩, ht⟩ := List.forall_mem_cons.mp h
    simp [plainLength, hspacing, hcolon, ih ht]

theorem Cursor.rest_skip (c : Cursor) (n : Nat) : (c.skip n).rest = c.rest.drop n := by
  induction n generalizing c with
  | zero => rfl
  | succ n ih =>
    have hnext : c.next.rest = c.rest.tail := by
      unfold Cursor.next
      split
      · simp [*]
      · split <;> simp [*]
    rw [Cursor.skip, ih, hnext, List.drop_tail]

theorem plainGap_of_rest_nil {c : Cursor} (h : c.rest = []) :
    plainGap c = ⟨[], c, false, false⟩ := by
  simp [plainGap, Cursor.skipWhile, Cursor.skip, Cursor.lineBreak?, h]

/-- A plain scalar at the end of a text is all that is left. -/
theorem plainScalar_of_goesOn {c : Cursor} (hne : c.rest ≠ []) (hhead : c.peek 0 ≠ some '#')
    (h : ∀ ch ∈ c.rest, GoesOn ch) (indent : Int) :
    plainScalar false indent c = ⟨c.rest, c.skip c.rest.length, false⟩ := by
  have hlength : plainLength false c.rest = c.rest.length := plainLength_eq_length h
  have hgap : plainGap (c.skip c.rest.length) = ⟨[], c.skip c.rest.length, false, false⟩ := by
    refine plainGap_of_rest_nil ?_
    rw [Cursor.rest_skip, List.drop_length]
  simp [plainScalar, plainFrom, hlength, hgap, hhead, hne]

/-! ### A mapping that ends with a scalar -/

/-- A document whose last line is a hexadecimal integer. -/
def langDocument (digits : Text) : Text :=
  "write:\n- src: a\n  dst: b\nlang: 0x".toList ++ digits

/-- The tokens of such a document before its last scalar, the last one first. -/
def langTokens : List Token :=
  [.value, .scalar (.plain "lang".toList), .key, .blockEnd, .scalar (.plain ['b']), .value,
    .scalar (.plain "dst".toList), .key, .scalar (.plain ['a']), .value,
    .scalar (.plain "src".toList), .key, .blockMap, .dash, .value,
    .scalar (.plain "write".toList), .key, .blockMap]

/-- The places that reading such a document comes to: its start, after the dash, before `dst`,
before `lang` and before the last scalar. -/
def langStage (digits : Text) : Nat → Scan
  | 0 =>
    { cursor :=
        ⟨"write:\n- src: a\n  dst: b\nlang: 0x".toList ++ digits, digits.length + 33, 0, 0, 0⟩ }
  | 1 =>
    { cursor := ⟨" src: a\n  dst: b\nlang: 0x".toList ++ digits, digits.length + 25, 8, 1, 1⟩
      tokens := langTokens.drop 13, count := 5, indent := 0, outer := [-1] }
  | 2 =>
    { cursor := ⟨"dst: b\nlang: 0x".toList ++ digits, digits.length + 15, 18, 2, 2⟩
      tokens := langTokens.drop 8, count := 10, indent := 2, outer := [0, -1] }
  | 3 =>
    { cursor := ⟨"lang: 0x".toList ++ digits, digits.length + 8, 25, 3, 0⟩
      tokens := langTokens.drop 4, count := 14, indent := 2, outer := [0, -1] }
  | _ =>
    { cursor := ⟨" 0x".toList ++ digits, digits.length + 3, 30, 3, 5⟩, tokens := langTokens,
      count := 18, indent := 0, outer := [-1], keyAllowed := false }

set_option maxRecDepth 10000 in
theorem all_langStage (digits : Text) (n : Nat) :
    Scan.all (n + 11) (langStage digits 0) = Scan.all n (langStage digits 4) := by
  have hwrite : ∀ m, Scan.all (m + 3) (langStage digits 0) = Scan.all m (langStage digits 1) := by
    intro m
    unfold langStage
    cbv
  have hsrc : ∀ m, Scan.all (m + 3) (langStage digits 1) = Scan.all m (langStage digits 2) := by
    intro m
    unfold langStage
    cbv
  have hdst : ∀ m, Scan.all (m + 3) (langStage digits 2) = Scan.all m (langStage digits 3) := by
    intro m
    unfold langStage
    cbv
  have hlang : ∀ m, Scan.all (m + 2) (langStage digits 3) = Scan.all m (langStage digits 4) := by
    intro m
    unfold langStage
    cbv
  rw [hwrite (n + 8), hsrc (n + 5), hdst (n + 2), hlang n]

/-- At the end of a text the mapping at its left margin ends. -/
theorem Scan.all_of_rest_nil {c : Cursor} (h : c.rest = []) (tokens : List Token) (count n : Nat)
    (allowed : Bool) :
    Scan.all (n + 1)
        { cursor := c, tokens, count, indent := 0, outer := [-1], keyAllowed := allowed } =
      (.blockEnd :: tokens).reverse := by
  have hblank : c.skipWhile (· == ' ') = c := by simp [Cursor.skipWhile, Cursor.skip, h]
  have hcolumn : ¬ ((c.column : Int) < 0) := by omega
  simp [Scan.all, Scan.advance, Scan.toNextToken, hblank, Cursor.peek, Cursor.lineBreak?, h,
    Scan.dropStaleKeys, Scan.freshKeys, Scan.unwind, Scan.flow, Scan.column, hcolumn,
    Scan.unwindFrom, Scan.dropKey, bind, Except.bind]

theorem all_langStage_last {digits : Text} (h : ∀ c ∈ digits, IsHexDigit c) (n : Nat) :
    Scan.all (n + 2) (langStage digits 4) =
      (.blockEnd :: .scalar (.plain ('0' :: 'x' :: digits)) :: langTokens).reverse := by
  let c : Cursor := ⟨'0' :: 'x' :: digits, digits.length + 2, 31, 3, 6⟩
  have hread : (langStage digits 4).advance =
      (fun p : Plain =>
        .ok (({ langStage digits 4 with cursor := p.cursor }.allowKey p.crossed).emit
          (.scalar (.plain p.text)), false)) (plainScalar false 1 c) := by
    unfold langStage
    rfl
  have hgoesOn : ∀ ch ∈ c.rest, GoesOn ch := by
    rintro ch (_ | ⟨_, _ | ⟨_, hch⟩⟩)
    · exact ⟨by decide, by decide⟩
    · exact ⟨by decide, by decide⟩
    · exact ⟨(h ch hch).not_isSpacing, (h ch hch).ne (by decide)⟩
  rw [plainScalar_of_goesOn (by simp [c]) (by simp [c, Cursor.peek]) hgoesOn] at hread
  have hend : (c.skip c.rest.length).rest = [] := by
    rw [Cursor.rest_skip, List.drop_length]
  rw [Scan.all, hread]
  exact Scan.all_of_rest_nil hend _ 19 n false

theorem tokens_langDocument {digits : Text} (h : ∀ c ∈ digits, IsHexDigit c) :
    tokens (langDocument digits) =
      (.blockEnd :: .scalar (.plain ('0' :: 'x' :: digits)) :: langTokens).reverse := by
  have hallowed : (langDocument digits).all isAllowed = true := by
    unfold langDocument
    rw [List.all_append, Bool.and_eq_true]
    exact ⟨by decide +kernel, List.all_eq_true.mpr fun c hc => (h c hc).isAllowed⟩
  have hlength : (langDocument digits).length = digits.length + 33 := by
    unfold langDocument
    rw [List.length_append, Nat.add_comm]
    rfl
  have hstart : ({ cursor := .start (langDocument digits) } : Scan) = langStage digits 0 := by
    unfold langStage Cursor.start
    rw [hlength]
    rfl
  have hhead : (langDocument digits).head? = some 'w' := rfl
  rw [tokens, if_pos hallowed, hhead, hlength]
  show Scan.all (digits.length + 23 + 11) { cursor := .start (langDocument digits) } = _
  rw [hstart, all_langStage, all_langStage_last h]

/-- The node of such a document. -/
theorem document_langDocument {digits : Text} (h : ∀ c ∈ digits, IsHexDigit c) :
    document (tokens (langDocument digits)) = .ok (some (.map
      [(.scalar (.plain "write".toList),
        .list [.map [(.scalar (.plain "src".toList), .scalar (.plain ['a'])),
          (.scalar (.plain "dst".toList), .scalar (.plain ['b']))]]),
        (.scalar (.plain "lang".toList), .scalar (.plain ('0' :: 'x' :: digits)))])) := by
  rw [tokens_langDocument h]
  rfl

/-- What such a document has to be written. -/
def langItem : Value :=
  .map [(.text (raw "src"), .text (raw "a")), (.text (raw "dst"), .text (raw "b"))]

/-- The members of such a document, whose integer is `n`. -/
def langMembers (n : Int) : List (Value × Value) :=
  [(.text (raw "write"), .list [langItem]), (.text (raw "lang"), .int n)]

theorem load_langDocument {digits : Text} (h : ∀ c ∈ digits, IsHexDigit c) (hne : digits ≠ []) :
    load (langDocument digits) = .ok (.map (langMembers (hexadecimal digits))) := by
  have hlang : Value.ofNode (.scalar (.plain ('0' :: 'x' :: digits))) =
      .ok (.int (hexadecimal digits)) := by
    rw [Value.ofNode, Scalar.value, resolve_hexWord h hne]
    rfl
  have hwrite : Value.ofNode (.list [.map [(.scalar (.plain "src".toList), .scalar (.plain ['a'])),
      (.scalar (.plain "dst".toList), .scalar (.plain ['b']))]]) = .ok (.list [langItem]) := by
    cbv
  rw [load, document_langDocument h]
  show (Value.ofNode (.map _)).mapError DeepFault.fault = _
  rw [Value.ofNode, Value.ofEntries, Value.ofEntries, Value.ofEntries, hwrite, hlang]
  cbv

/-! ### Files with such a document -/

theorem decodeFrom_encode {t : Text} (h : ∀ c ∈ t, c.toNat < 0x80) (position : Nat) :
    decodeFrom position none (encode t) = .ok t := by
  induction t generalizing position with
  | nil => rfl
  | cons c t ih =>
    obtain ⟨hc, ht⟩ := List.forall_mem_cons.mp h
    have hbyte : (UInt8.ofNat c.toNat).toNat = c.toNat :=
      UInt8.toNat_ofNat_of_lt' (Nat.lt_trans hc (by decide))
    have hchar : encodeChar c = [UInt8.ofNat c.toNat] := if_pos hc
    rw [encode, List.flatMap_cons, hchar, List.singleton_append, decodeFrom, hbyte, if_pos hc,
      ← encode, ih ht, Char.ofNat_toNat]
    rfl

theorem unifyLineEnds_of_not_mem {t : Text} (h : '\r' ∉ t) : unifyLineEnds t = t := by
  fun_induction unifyLineEnds t with
  | case1 => rfl
  | case2 t ih => exact absurd List.mem_cons_self h
  | case3 c t _ ih =>
    rw [List.mem_cons, not_or] at h
    rw [ih h.2, if_neg (Ne.symm h.1)]

/-- Such a document is read from its file as it was written. -/
theorem readText_langDocument {digits : Text} (h : ∀ c ∈ digits, IsHexDigit c) :
    FileTree.readText ⟨[], [([raw "y"], .file (encode (langDocument digits)))]⟩
      (.ofText (raw "y")) = .ok (langDocument digits) := by
  have hplain : ∀ c ∈ langDocument digits, c.toNat < 0x80 ∧ c ≠ '\r' := by
    unfold langDocument
    intro c hc
    rcases List.mem_append.mp hc with hc | hc
    · have hall : "write:\n- src: a\n  dst: b\nlang: 0x".toList.all (fun c =>
          c.toNat < 0x80 ∧ c ≠ '\r') = true := by decide +kernel
      exact of_decide_eq_true (List.all_eq_true.mp hall c hc)
    · exact ⟨Nat.lt_of_le_of_lt (h c hc).toNat.2 (by decide), (h c hc).ne (by decide)⟩
  have hread : FileTree.read ⟨[], [([raw "y"], .file (encode (langDocument digits)))]⟩
      (.ofText (raw "y")) = .ok (encode (langDocument digits)) := rfl
  have hdecode : decode (encode (langDocument digits)) = .ok (langDocument digits) :=
    decodeFrom_encode (fun c hc => (hplain c hc).1) 0
  have hends : unifyLineEnds (langDocument digits) = langDocument digits :=
    unifyLineEnds_of_not_mem fun hmem => (hplain _ hmem).2 rfl
  simp only [FileTree.readText, hread, hdecode, hends, bind, Except.bind]

theorem hexadecimal_replicate_zero (k : Nat) :
    hexadecimal ('1' :: List.replicate k '0') = 16 ^ k := by
  have hzeros : ∀ n, (List.replicate k '0').foldl (fun n c => 16 * n + (hexValue? c).getD 0) n =
      n * 16 ^ k := by
    induction k with
    | zero => simp
    | succ k ih =>
      intro n
      have hzero : (hexValue? '0').getD 0 = 0 := by decide
      rw [List.replicate_succ, List.foldl_cons, ih, hzero, Nat.add_zero, Nat.pow_succ,
        Nat.mul_comm 16 n, Nat.mul_assoc, Nat.mul_comm 16]
  rw [hexadecimal, List.foldl_cons, hzeros]
  simp [hexValue?]

theorem ten_pow_le_sixteen_pow (k : Nat) : 10 ^ (6 * k) ≤ 16 ^ (5 * k) := by
  rw [Nat.pow_mul, Nat.pow_mul]
  exact Nat.pow_le_pow_left (by decide) k

end LivePage.Yaml
