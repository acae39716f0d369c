/-
Which tokens the arguments of a command keep.

A token is sorted by its first equals sign outside quotes. Without one it is
a positional value; otherwise what stands before the sign is the key of an
attribute and what stands behind it the value. A sign at the very front
leaves no key, and then the whole token is passed over:

* `splitAssignment_eq` — any text is split at the first equals sign that an even
  number of quotes precedes;
* `splitAssignment_eq_some_iff`, `splitAssignment_eq_none_iff` — so a token is split
  at its first equals sign outside the pairs of quotes, and nowhere else;
* `Arguments.get?_attrs_iff` — an attribute has the value of the last token with
  its key;
* `Arguments.contributes_iff`, `Arguments.ofTokens_kept` — a token counts unless an
  equals sign stands at its front, and then it has no influence;
* `tokens_contribute_iff` — both, for the tokens of a line.

Design notes: the quotes of a token are paired within it, so a scan that
turns at every quote finds the same equals signs as the pairs do.
-/
import LivePage.Source.Arguments
import LivePage.Proofs.Source.Tokens
import LivePage.Proofs.Table

namespace LivePage

def isEquals (c : Char) : Bool :=
  c == '='

/-- The first equals sign outside the pairs of quotes stands at the position. -/
structure SplitsAt (t : Text) (k : Nat) : Prop where
  equals : Unquoted isEquals t k
  first : ∀ i, i < k → ¬ Unquoted isEquals t i

/-- An equals sign stands at the position and outside double quotes: an even number of them comes
before it. -/
def EqualsOutside (t : Text) (k : Nat) : Prop :=
  t[k]? = some '=' ∧ (t.take k).count '"' % 2 = 0

instance (t : Text) : DecidablePred (EqualsOutside t) := fun k =>
  inferInstanceAs (Decidable (t[k]? = some '=' ∧ (t.take k).count '"' % 2 = 0))

/-! ### The place where a token is split -/

/-- The same in a text that begins inside quotes if `inside` holds, so behind one more of them. -/
def EqualsFrom (inside : Bool) (t : Text) (k : Nat) : Prop :=
  t[k]? = some '=' ∧ ((t.take k).count '"' + inside.toNat) % 2 = 0

instance (inside : Bool) (t : Text) : DecidablePred (EqualsFrom inside t) := fun k =>
  inferInstanceAs (Decidable (t[k]? = some '=' ∧ ((t.take k).count '"' + inside.toNat) % 2 = 0))

theorem equalsFrom_cons_zero {inside : Bool} {c : Char} {t : Text} :
    EqualsFrom inside (c :: t) 0 ↔ c = '=' ∧ inside = false := by
  cases inside <;> simp [EqualsFrom]

theorem equalsFrom_cons_succ {inside : Bool} {c : Char} {t : Text} {k : Nat} :
    EqualsFrom inside (c :: t) (k + 1) ↔ EqualsFrom (if c = '"' then !inside else inside) t k := by
  rw [EqualsFrom, EqualsFrom, List.getElem?_cons_succ, List.take_succ_cons]
  refine and_congr_right fun _ => ?_
  by_cases hquote : c = '"'
  · rw [hquote, List.count_cons_self, if_pos rfl]
    cases inside
    · rfl
    · rw [Bool.not_true, Bool.toNat_true, Bool.toNat_false]
      omega
  · rw [List.count_cons_of_ne hquote, if_neg hquote]

theorem splitAssignmentFrom_eq (inside : Bool) (t : Text) :
    splitAssignmentFrom inside t =
      ((List.range t.length).find? (EqualsFrom inside t)).map
        fun k => (t.take k, t.drop (k + 1)) := by
  induction t generalizing inside with
  | nil => rfl
  | cons c t ih =>
    rw [List.length_cons, List.range_succ_eq_map, List.find?_cons, splitAssignmentFrom, ih]
    by_cases hsplit : c = '=' ∧ inside = false
    · rw [if_pos hsplit, decide_eq_true (equalsFrom_cons_zero.mpr hsplit)]
      rfl
    · -- both sides go on with the rest of the text, in the state that its first character leaves
      have hnext : (fun k => decide (EqualsFrom inside (c :: t) k)) ∘ Nat.succ =
          fun k => decide (EqualsFrom (if c = '"' then !inside else inside) t k) :=
        funext fun k => decide_eq_decide.mpr equalsFrom_cons_succ
      rw [if_neg hsplit, decide_eq_false (mt equalsFrom_cons_zero.mp hsplit), List.find?_map,
        hnext, Option.map_map, Option.map_map]
      rfl

theorem splitAssignment_eq (t : Text) :
    splitAssignment t =
      ((List.range t.length).find? (EqualsOutside t)).map fun k => (t.take k, t.drop (k + 1)) :=
  splitAssignmentFrom_eq false t

theorem splitAssignment_eq_some {t key value : Text} :
    splitAssignment t = some (key, value) ↔
      ∃ k, (EqualsOutside t k ∧ ∀ i < k, ¬ EqualsOutside t i) ∧ key = t.take k ∧
        value = t.drop (k + 1) := by
  rw [splitAssignment_eq, Option.map_eq_some_iff]
  constructor
  · rintro ⟨k, hk, hsides⟩
    obtain ⟨hat, -, hfirst⟩ := List.find?_range_eq_some.mp hk
    rw [Prod.mk.injEq] at hsides
    exact ⟨k, ⟨of_decide_eq_true hat, fun i hi => by simpa using hfirst i hi⟩, hsides.1.symm,
      hsides.2.symm⟩
  · rintro ⟨k, ⟨hat, hfirst⟩, rfl, rfl⟩
    have hlt : k < t.length := (List.getElem?_eq_some_iff.mp hat.1).choose
    refine ⟨k, List.find?_range_eq_some.mpr ⟨decide_eq_true hat, List.mem_range.mpr hlt, ?_⟩, rfl⟩
    intro i hi
    simpa using hfirst i hi

theorem splitAssignment_eq_none {t : Text} :
    splitAssignment t = none ↔ ∀ k < t.length, ¬ EqualsOutside t k := by
  rw [splitAssignment_eq, Option.map_eq_none_iff, List.find?_eq_none]
  simp only [List.mem_range, decide_eq_true_eq]

section Paired

variable {t : Text} (heven : t.count '"' % 2 = 0)
include heven

/-- Where all quotes are paired, the last of an odd number of them still has its partner to
come. -/
theorem unquoted_isEquals_iff {k : Nat} : Unquoted isEquals t k ↔ EqualsOutside t k := by
  constructor
  · rintro ⟨c, hc, hkind, hopen⟩
    obtain rfl : c = '=' := by simpa [isEquals] using hkind
    rw [← standingAt_eq_quoted_iff_enclosed hc, standingAt_eq_quoted_iff] at hopen
    refine ⟨hc, ?_⟩
    by_contra hodd
    have hcount := congrArg (List.count '"') (List.take_append_drop (k + 1) t)
    rw [List.count_append, count_take_succ hc, if_neg (by decide)] at hcount
    exact hopen (.inr ⟨by decide, by omega, quote_mem_of_odd (by omega)⟩)
  · rintro ⟨hc, hbefore⟩
    refine ⟨'=', hc, rfl, ?_⟩
    rw [← standingAt_eq_quoted_iff_enclosed hc, standingAt_eq_quoted_iff]
    rintro (⟨hquote, -⟩ | ⟨-, hodd, -⟩)
    · exact absurd hquote (by decide)
    · omega

theorem splitAssignment_eq_some_iff {key value : Text} :
    splitAssignment t = some (key, value) ↔
      ∃ k, SplitsAt t k ∧ key = t.take k ∧ value = t.drop (k + 1) := by
  have hsplits : ∀ k, SplitsAt t k ↔ EqualsOutside t k ∧ ∀ i < k, ¬ EqualsOutside t i := by
    intro k
    simp only [← unquoted_isEquals_iff heven]
    exact ⟨fun h => ⟨h.equals, h.first⟩, fun h => ⟨h.1, h.2⟩⟩
  simp only [splitAssignment_eq_some, hsplits]

theorem splitAssignment_eq_none_iff : splitAssignment t = none ↔ outside isEquals t = [] := by
  rw [splitAssignment_eq_none, outside, List.map_eq_nil_iff, List.filter_eq_nil_iff]
  simp only [← unquoted_isEquals_iff heven, decide_eq_true_eq]
  constructor
  · intro hnone entry hentry
    exact hnone entry.2 (List.snd_lt_of_mem_zipIdx hentry)
  · intro hnone k hk
    exact hnone (t[k], k) (List.mk_mem_zipIdx_iff_getElem?.mpr (List.getElem?_eq_getElem hk))

end Paired

theorem splitAssignment_key_nil_iff {t : Text} :
    (∃ value, splitAssignment t = some ([], value)) ↔ t.head? = some '=' := by
  cases t with
  | nil => simp [splitAssignment, splitAssignmentFrom]
  | cons c rest =>
    rw [splitAssignment, splitAssignmentFrom]
    by_cases hc : c = '='
    · simp [hc]
    · simp [hc]

/-! ### Attributes -/

/-- The token gives the attribute with a key a value, which loses one quote character at each
end. -/
def Token.Assigns (token : Token) (key value : Text) : Prop :=
  ∃ k, SplitsAt token.text k ∧ key = token.text.take k ∧
    value = stripQuotes (token.text.drop (k + 1))

/-- The last token with a key gives it a value. -/
def LastAssigns (tokens : List Token) (key value : Text) : Prop :=
  ∃ before token after, tokens = before ++ token :: after ∧ token.Assigns key value ∧
    ∀ later ∈ after, ∀ other, ¬ later.Assigns key other

theorem LastAssigns.append_singleton {tokens : List Token} {token : Token} {key value : Text} :
    LastAssigns (tokens ++ [token]) key value ↔ token.Assigns key value ∨
      (∀ other, ¬ token.Assigns key other) ∧ LastAssigns tokens key value := by
  constructor
  · rintro ⟨before, last, after, hsplit, hlast, hlater⟩
    rcases append_singleton_eq_split hsplit with ⟨-, -, rfl⟩ | ⟨front, rfl, rfl⟩
    · exact .inl hlast
    · refine .inr ⟨hlater token (List.mem_append_right _ List.mem_cons_self), before, last, front,
        rfl, hlast, fun later hmem => ?_⟩
      exact hlater later (List.mem_append_left _ hmem)
  · rintro (hgives | ⟨hnot, before, last, after, rfl, hlast, hlater⟩)
    · exact ⟨tokens, token, [], rfl, hgives, by simp⟩
    · refine ⟨before, last, after ++ [token], by simp, hlast, fun later hmem => ?_⟩
      rcases List.mem_append.mp hmem with hmem | hmem
      · exact hlater later hmem
      · rw [List.mem_singleton.mp hmem]
        exact hnot

theorem exists_lastAssigns {tokens : List Token} {token : Token} (h : token ∈ tokens)
    {key given : Text} (hgives : token.Assigns key given) :
    ∃ value, LastAssigns tokens key value := by
  induction tokens using List.reverseRecOn with
  | nil => exact absurd h List.not_mem_nil
  | append_singleton tokens last ih =>
    by_cases hlast : ∃ value, last.Assigns key value
    · obtain ⟨value, hvalue⟩ := hlast
      exact ⟨value, LastAssigns.append_singleton.mpr (.inl hvalue)⟩
    · have hmem : token ∈ tokens := by
        rcases List.mem_append.mp h with hmem | hmem
        · exact hmem
        · rw [List.mem_singleton.mp hmem] at hgives
          exact absurd ⟨given, hgives⟩ hlast
      obtain ⟨value, hvalue⟩ := ih hmem
      refine ⟨value, LastAssigns.append_singleton.mpr (.inr ⟨fun other hother => ?_, hvalue⟩)⟩
      exact hlast ⟨other, hother⟩

namespace Arguments

theorem attribute?_of_head? {token : Token} (h : token.text.head? = some '=') :
    attribute? token = none := by
  obtain ⟨value, hsplit⟩ := splitAssignment_key_nil_iff.mpr h
  rw [attribute?, hsplit]

theorem attribute?_eq_some {token : Token} {key value : Text} :
    attribute? token = some (key, value) ↔ key ≠ [] ∧
      ∃ behind, splitAssignment token.text = some (key, behind) ∧ value = stripQuotes behind := by
  rw [attribute?]
  cases hsplit : splitAssignment token.text with
  | none => simp
  | some sides =>
    obtain ⟨front, behind⟩ := sides
    cases front with
    | nil =>
      constructor
      · intro h
        exact absurd h (by simp)
      · rintro ⟨hne, other, hother, -⟩
        rw [Option.some_inj, Prod.mk.injEq] at hother
        exact absurd hother.1.symm hne
    | cons c front =>
      simp only [Option.some.injEq, Prod.mk.injEq]
      constructor
      · rintro ⟨rfl, rfl⟩
        exact ⟨List.cons_ne_nil _ _, behind, ⟨rfl, rfl⟩, rfl⟩
      · rintro ⟨-, other, ⟨rfl, rfl⟩, rfl⟩
        exact ⟨rfl, rfl⟩

theorem attribute?_eq_some_iff {token : Token} (heven : token.text.count '"' % 2 = 0)
    {key value : Text} :
    attribute? token = some (key, value) ↔ key ≠ [] ∧ token.Assigns key value := by
  rw [attribute?_eq_some]
  refine and_congr_right fun _ => ?_
  constructor
  · rintro ⟨behind, hsplit, hvalue⟩
    obtain ⟨k, hk, hkey, rfl⟩ := (splitAssignment_eq_some_iff heven).mp hsplit
    exact ⟨k, hk, hkey, hvalue⟩
  · rintro ⟨k, hk, hkey, hvalue⟩
    exact ⟨_, (splitAssignment_eq_some_iff heven).mpr ⟨k, hk, hkey, rfl⟩, hvalue⟩

theorem attrs_append_singleton (tokens : List Token) (token : Token) :
    (ofTokens (tokens ++ [token])).attrs =
      (attribute? token).elim (ofTokens tokens).attrs
        fun entry => (ofTokens tokens).attrs.insert entry.1 entry.2 := by
  show Table.ofList ((tokens ++ [token]).filterMap attribute?) = _
  rw [List.filterMap_append]
  cases hattribute : attribute? token with
  | none =>
    rw [List.filterMap_cons_none hattribute, List.filterMap_nil, List.append_nil]
    rfl
  | some entry =>
    rw [List.filterMap_cons_some hattribute, List.filterMap_nil, Table.ofList_append_singleton]
    rfl

theorem get?_attrs_of_attribute? (tokens : List Token) {token : Token} {key value : Text}
    (h : attribute? token = some (key, value)) :
    (ofTokens (tokens ++ [token])).attrs.get? key = some value := by
  rw [attrs_append_singleton, h, Option.elim_some, Table.get?_insert, if_pos (beq_self_eq_true key)]

theorem get?_attrs_of_not_attribute? (tokens : List Token) {token : Token} {key : Text}
    (h : ∀ value, attribute? token ≠ some (key, value)) :
    (ofTokens (tokens ++ [token])).attrs.get? key = (ofTokens tokens).attrs.get? key := by
  rw [attrs_append_singleton]
  cases hattribute : attribute? token with
  | none => rfl
  | some entry =>
    have hne : entry.1 ≠ key := by
      rintro rfl
      exact h entry.2 hattribute
    rw [Option.elim_some, Table.get?_insert, if_neg (by simpa using hne)]

theorem get?_attrs_iff {tokens : List Token}
    (heven : ∀ token ∈ tokens, token.text.count '"' % 2 = 0) {key value : Text} :
    (ofTokens tokens).attrs.get? key = some value ↔ key ≠ [] ∧ LastAssigns tokens key value := by
  induction tokens using List.reverseRecOn with
  | nil =>
    constructor
    · intro h
      exact absurd h (by simp [ofTokens, Table.ofList, Table.get?])
    · rintro ⟨-, before, token, after, hnil, -⟩
      exact absurd hnil (by simp)
  | append_singleton tokens token ih =>
    have hassigns : ∀ other, attribute? token = some (key, other) ↔
        key ≠ [] ∧ token.Assigns key other := fun other =>
      attribute?_eq_some_iff (heven token (List.mem_append_right _ List.mem_cons_self))
    replace ih := ih fun other hother => heven other (List.mem_append_left _ hother)
    rw [LastAssigns.append_singleton]
    by_cases hkey : ∃ other, attribute? token = some (key, other)
    · -- the token itself is the last one with the key
      obtain ⟨other, hother⟩ := hkey
      obtain ⟨hne, hgives⟩ := (hassigns other).mp hother
      rw [get?_attrs_of_attribute? tokens hother, Option.some_inj]
      constructor
      · rintro rfl
        exact ⟨hne, .inl hgives⟩
      · rintro ⟨-, hvalue | ⟨hnot, -⟩⟩
        · have hsame := hother.symm.trans ((hassigns value).mpr ⟨hne, hvalue⟩)
          simpa using hsame
        · exact absurd hgives (hnot other)
    · rw [get?_attrs_of_not_attribute? tokens (not_exists.mp hkey), ih]
      refine and_congr_right fun hne => ?_
      have hnot : ∀ other, ¬ token.Assigns key other := fun other hgives =>
        hkey ⟨other, (hassigns other).mpr ⟨hne, hgives⟩⟩
      constructor
      · intro hlast
        exact .inr ⟨hnot, hlast⟩
      · rintro (hgives | ⟨-, hlast⟩)
        · exact absurd hgives (hnot value)
        · exact hlast

/-! ### Tokens that count -/

/-- A token counts among others: it is a positional value, or it sets an attribute, whose value is
that of the last token with the same key. -/
inductive Contributes (tokens : List Token) (token : Token) : Prop
  | positional : outside isEquals token.text = [] → token ∈ (ofTokens tokens).raw →
      Contributes tokens token
  | attribute (key given value : Text) : token.Assigns key given →
      (ofTokens tokens).attrs.get? key = some value → LastAssigns tokens key value →
      Contributes tokens token

theorem contributes_iff {tokens : List Token}
    (heven : ∀ token ∈ tokens, token.text.count '"' % 2 = 0) {token : Token}
    (h : token ∈ tokens) : Contributes tokens token ↔ token.text.head? ≠ some '=' := by
  have hpaired := heven token h
  constructor
  · rintro (⟨hnone, -⟩ | ⟨key, given, value, hgives, hget, -⟩) hhead
    · obtain ⟨value, hsplit⟩ := splitAssignment_key_nil_iff.mpr hhead
      rw [(splitAssignment_eq_none_iff hpaired).mpr hnone] at hsplit
      exact absurd hsplit (by simp)
    · have hne := ((get?_attrs_iff heven).mp hget).1
      have hsome := (attribute?_eq_some_iff hpaired).mpr ⟨hne, hgives⟩
      rw [attribute?_of_head? hhead] at hsome
      exact absurd hsome (by simp)
  · intro hhead
    cases hsplit : splitAssignment token.text with
    | none =>
      refine .positional ((splitAssignment_eq_none_iff hpaired).mp hsplit) ?_
      exact List.mem_filter.mpr ⟨h, by rw [hsplit]; rfl⟩
    | some sides =>
      obtain ⟨k, hk, hkey, -⟩ := (splitAssignment_eq_some_iff hpaired).mp hsplit
      have hne : sides.1 ≠ [] := fun hnil =>
        hhead (splitAssignment_key_nil_iff.mp ⟨sides.2, by rw [hsplit, ← hnil]⟩)
      have hgives : token.Assigns sides.1 (stripQuotes (token.text.drop (k + 1))) :=
        ⟨k, hk, hkey, rfl⟩
      obtain ⟨value, hlast⟩ := exists_lastAssigns h hgives
      exact .attribute sides.1 _ value hgives ((get?_attrs_iff heven).mpr ⟨hne, hlast⟩) hlast

/-- Tokens with an equals sign at the front make no difference. -/
theorem ofTokens_kept (tokens : List Token) :
    ofTokens (tokens.filter fun token => token.text.head? ≠ some '=') = ofTokens tokens := by
  have hpositional : (tokens.filter fun token => token.text.head? ≠ some '=').filter
      (fun token => (splitAssignment token.text).isNone) =
        tokens.filter fun token => (splitAssignment token.text).isNone := by
    rw [List.filter_filter]
    refine List.filter_congr fun token _ => ?_
    by_cases hhead : token.text.head? = some '='
    · obtain ⟨value, hsplit⟩ := splitAssignment_key_nil_iff.mpr hhead
      simp [hsplit]
    · simp [hhead]
  have hattributes : (tokens.filter fun token => token.text.head? ≠ some '=').filterMap
      attribute? = tokens.filterMap attribute? := by
    rw [List.filterMap_filter]
    refine List.filterMap_congr fun token _ => ?_
    by_cases hhead : token.text.head? = some '='
    · simp [hhead, attribute?_of_head? hhead]
    · simp [hhead]
  unfold ofTokens
  dsimp only
  rw [hpositional, hattributes]

end Arguments

/-- **A token counts unless an equals sign stands at its front.** The positional values of a line
are its tokens without an equals sign outside quotes, in order; an attribute has the value of the
last token with its key. Every token is one of these, but for those that begin with an equals sign,
and these might as well not be there. -/
theorem tokens_contribute_iff (line : Text) :
    (Arguments.ofTokens (tokenize line)).raw =
        (tokenize line).filter (fun token => (outside isEquals token.text).isEmpty) ∧
      (Arguments.ofTokens (tokenize line)).params =
        (Arguments.ofTokens (tokenize line)).raw.map (fun token => stripQuotes token.text) ∧
      (∀ key value : Text, (Arguments.ofTokens (tokenize line)).attrs.get? key = some value ↔
        key ≠ [] ∧ LastAssigns (tokenize line) key value) ∧
      (∀ token ∈ tokenize line, Arguments.Contributes (tokenize line) token ↔
        token.text.head? ≠ some '=') ∧
      Arguments.ofTokens ((tokenize line).filter fun token => token.text.head? ≠ some '=') =
        Arguments.ofTokens (tokenize line) := by
  have heven : ∀ token ∈ tokenize line, token.text.count '"' % 2 = 0 :=
    fun token htoken => even_of_mem_tokenize htoken
  refine ⟨?_, rfl, fun key value => Arguments.get?_attrs_iff heven,
    fun token htoken => Arguments.contributes_iff heven htoken, Arguments.ofTokens_kept _⟩
  refine List.filter_congr fun token htoken => ?_
  rw [Bool.eq_iff_iff, Option.isNone_iff_eq_none, List.isEmpty_iff]
  exact splitAssignment_eq_none_iff (heven token htoken)

/-- In `Var score =85` the value is lost. -/
theorem assigned_value_lost :
    (∃ token ∈ tokenize "score =85".toList, token.text ≠ ['='] ∧
      ¬ Arguments.Contributes (tokenize "score =85".toList) token) ∧
      Arguments.ofTokens (tokenize "score =85".toList) =
        Arguments.ofTokens (tokenize "score".toList) := by
  have hmem : (⟨"=85".toList⟩ : Token) ∈ tokenize "score =85".toList := by decide
  refine ⟨⟨_, hmem, by decide, ?_⟩, by decide⟩
  rw [Arguments.contributes_iff (fun token htoken => even_of_mem_tokenize htoken) hmem]
  simp

end LivePage
