/-
The positions of the values of a command.

The arguments of a command hold each positional value twice, as written and
without its quotes, and commands read now the one list, now the other. Both
come from the tokens without an equals sign outside double quotes, in their
order, so an index means the same token in both:

* `Arguments.raw_append`, `Arguments.params_append`, `Arguments.attrs_append` — tokens
  that follow others add their positional values at the end and update the
  attributes;
* `Arguments.param_eq` — a positional value is what its token leaves without
  quotes;
* `Session.perform_set_take` — `Set` takes its target from the first positional
  token and its value from the second, whatever stands around them;
* `Arguments.ofTokens_append_aligned` — all of this, for any tokens.

Design notes: tokens are arbitrary here, so their quotes may be unpaired. An
equals sign behind an odd number of quotes is inside them, also if the last
of these is never closed.
-/
import LivePage.Page.Command
import LivePage.Proofs.Source.Arguments

namespace LivePage

namespace Arguments

/-! ### Positional values -/

theorem raw_eq (tokens : List Token) :
    (ofTokens tokens).raw =
      tokens.filter fun token => ∀ k < token.text.length, ¬ EqualsOutside token.text k := by
  refine List.filter_congr fun token _ => ?_
  rw [Bool.eq_iff_iff, Option.isNone_iff_eq_none, decide_eq_true_iff]
  exact splitAssignment_eq_none

theorem params_eq (tokens : List Token) :
    (ofTokens tokens).params = (ofTokens tokens).raw.map fun token => stripQuotes token.text :=
  rfl

theorem raw_append (xs ys : List Token) :
    (ofTokens (xs ++ ys)).raw = (ofTokens xs).raw ++ (ofTokens ys).raw :=
  List.filter_append ..

theorem params_append (xs ys : List Token) :
    (ofTokens (xs ++ ys)).params = (ofTokens xs).params ++ (ofTokens ys).params := by
  rw [params_eq, raw_append, List.map_append]
  rfl

/-- Positional tokens alone are all kept. -/
theorem raw_of_sublist {tokens kept : List Token} (h : kept.Sublist (ofTokens tokens).raw) :
    (ofTokens kept).raw = kept := by
  rw [raw_eq, List.filter_eq_self]
  intro token htoken
  have hmem := h.mem htoken
  rw [raw_eq] at hmem
  exact (List.mem_filter.mp hmem).2

theorem getElem?_params (tokens : List Token) (i : Nat) :
    (ofTokens tokens).params[i]? =
      (ofTokens tokens).raw[i]?.map fun token => stripQuotes token.text := by
  rw [params_eq, List.getElem?_map]

theorem param_eq (tokens : List Token) (i : Nat) :
    (ofTokens tokens).param i =
      ((ofTokens tokens).raw[i]?.map fun token => stripQuotes token.text).getD [] := by
  rw [param, paramD, getElem?_params]
  cases (ofTokens tokens).raw[i]? with
  | none => rfl
  | some token =>
    rw [Option.map_some, Option.getD_some]
    cases stripQuotes token.text <;> rfl

/-! ### Attributes -/

theorem attrs_append (xs ys : List Token) :
    (ofTokens (xs ++ ys)).attrs = (ofTokens xs).attrs.updated (ofTokens ys).attrs := by
  show Table.ofList ((xs ++ ys).filterMap attribute?) = _
  rw [List.filterMap_append, Table.ofList_append]
  rfl

theorem mem_attrs_singleton {token : Token} {key value : Text} :
    (key, value) ∈ (ofTokens [token]).attrs ↔ key ≠ [] ∧
      ∃ k, (EqualsOutside token.text k ∧ ∀ i < k, ¬ EqualsOutside token.text i) ∧
        key = token.text.take k ∧ value = stripQuotes (token.text.drop (k + 1)) := by
  have hattrs : (ofTokens [token]).attrs = (attribute? token).toList := by
    rw [← List.nil_append [token], attrs_append_singleton]
    cases attribute? token <;> rfl
  rw [hattrs, Option.mem_toList, attribute?_eq_some]
  refine and_congr_right fun _ => ?_
  constructor
  · rintro ⟨behind, hsplit, rfl⟩
    obtain ⟨k, hk, hkey, rfl⟩ := splitAssignment_eq_some.mp hsplit
    exact ⟨k, hk, hkey, rfl⟩
  · rintro ⟨k, hk, hkey, rfl⟩
    exact ⟨_, splitAssignment_eq_some.mpr ⟨k, hk, hkey, rfl⟩, rfl⟩

end Arguments

/-! ### Target and value of a `Set` -/

namespace Session

theorem perform_set_congr (s : Session) {args other : Arguments}
    (htarget : args.param 0 = other.param 0) (hvalue : args.raw[1]? = other.raw[1]?)
    (opens : Bool) :
    s.perform "Set".toList args opens = s.perform "Set".toList other opens := by
  have hname : Command.ofName? "Set".toList = some .setText := by decide
  simp only [perform, hname, htarget, hvalue]

theorem perform_set_take (s : Session) (tokens : List Token) (opens : Bool) :
    s.perform "Set".toList (.ofTokens tokens) opens =
      s.perform "Set".toList (.ofTokens ((Arguments.ofTokens tokens).raw.take 2)) opens := by
  have hraw := Arguments.raw_of_sublist (List.take_sublist 2 (Arguments.ofTokens tokens).raw)
  refine s.perform_set_congr ?_ ?_ opens
  · rw [Arguments.param_eq, Arguments.param_eq, hraw, List.getElem?_take_of_lt (by decide)]
  · rw [hraw, List.getElem?_take_of_lt (by decide)]

end Session

namespace Arguments

/-- **Tokens that follow others add to their arguments, and both lists of positional values run
along the same tokens.** Positional values go to the end; an attribute that is there keeps its
place and a new one goes to the end, the last value winning. The positional tokens are those
without an equals sign outside double quotes, in order, and each value is that of the token at its
index. So the target and the value of a `Set` are those of its first and its second positional
token, and nothing else on the line matters to it. -/
theorem ofTokens_append_aligned :
    (∀ xs ys : List Token,
      (ofTokens (xs ++ ys)).params = (ofTokens xs).params ++ (ofTokens ys).params ∧
        (ofTokens (xs ++ ys)).raw = (ofTokens xs).raw ++ (ofTokens ys).raw ∧
        (ofTokens (xs ++ ys)).attrs = (ofTokens xs).attrs.updated (ofTokens ys).attrs) ∧
      (∀ (token : Token) (key value : Text),
        (key, value) ∈ (ofTokens [token]).attrs ↔ key ≠ [] ∧
          ∃ k, (EqualsOutside token.text k ∧ ∀ i < k, ¬ EqualsOutside token.text i) ∧
            key = token.text.take k ∧ value = stripQuotes (token.text.drop (k + 1))) ∧
      ∀ tokens : List Token,
        (ofTokens tokens).raw =
            tokens.filter (fun token => ∀ k < token.text.length, ¬ EqualsOutside token.text k) ∧
          (ofTokens tokens).params.length = (ofTokens tokens).raw.length ∧
          (∀ i : Nat,
            (ofTokens tokens).params[i]? =
                (ofTokens tokens).raw[i]?.map (fun token => stripQuotes token.text) ∧
              (ofTokens tokens).param i =
                ((ofTokens tokens).raw[i]?.map fun token => stripQuotes token.text).getD []) ∧
          ∀ (s : Session) (opens : Bool),
            s.perform "Set".toList (ofTokens tokens) opens =
              s.perform "Set".toList (ofTokens ((ofTokens tokens).raw.take 2)) opens := by
  refine ⟨fun xs ys => ?_, fun token key value => mem_attrs_singleton, fun tokens => ?_⟩
  · exact ⟨params_append xs ys, raw_append xs ys, attrs_append xs ys⟩
  · refine ⟨raw_eq tokens, ?_, fun i => ⟨getElem?_params tokens i, param_eq tokens i⟩,
      fun s opens => s.perform_set_take tokens opens⟩
    rw [params_eq, List.length_map]

end Arguments

end LivePage
