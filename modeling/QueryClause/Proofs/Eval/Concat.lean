import QueryClause.Eval.Method
import QueryClause.Eval.Operate

/-!
# Texts put together

Three ways put values together to a text: adding them from left to right (`BinaryOp.addAll`), and
the functions `Concat` and `Join`.  A value contributes its own text, and to a sum and to `Concat`
null contributes nothing; so these two always agree.

`Join` writes null as the text "null".  It agrees with the sum in which the separator stands between
the values if and only if none of them is null (`concat_add_join_iff`).
-/

namespace QueryClause

namespace Text

/-- Joined texts are the texts and the separators between them, one after the other. -/
theorem join_eq (sep : String) : ∀ l : List String, join sep l = String.join (l.intersperse sep)
  | [] => by simp [join]
  | [s] => by simp [join]
  | s :: t :: rest => by
    rw [join, join_eq sep (t :: rest), List.intersperse_cons_cons, String.join_cons,
      String.join_cons, String.append_assoc]

theorem map_intersperse {α β : Type} (f : α → β) (a : α) :
    ∀ l : List α, (l.intersperse a).map f = (l.map f).intersperse (f a)
  | [] => rfl
  | [_] => rfl
  | b :: c :: rest => by
    rw [List.intersperse_cons_cons, List.map_cons, List.map_cons,
      map_intersperse f a (c :: rest)]
    rfl

theorem join_empty : ∀ l : List String, join "" l = String.join l
  | [] => by simp [join]
  | [s] => by simp [join]
  | s :: t :: rest => by
    rw [join, join_empty (t :: rest), String.append_empty, String.join_cons (s := s)]

end Text

/-! ### Contributions -/

namespace Value

theorem concatText_eq (v : Value) : v.concatText = if v.isNull then "" else v.text := by
  cases v <;> rfl

theorem isNull_iff {v : Value} : v.isNull = true ↔ v = null := by
  cases v <;> simp [isNull]

/-- The value, or the text that stands for null. -/
def written (v : Value) : Value := if v.isNull then string "null" else v

theorem concatText_written (v : Value) : v.written.concatText = v.text := by
  cases v <;> rfl

/-- A null that is written takes four characters. -/
theorem length_text (v : Value) :
    v.text.length = v.concatText.length + 4 * if v.isNull then 1 else 0 := by
  cases v with
  | null => rfl
  | _ => exact (Nat.add_zero _).symm

end Value

open Value

/-- Nulls make joined texts longer, by four characters each. -/
theorem length_join_text (sep : String) : ∀ vs : List Value,
    (Text.join sep (vs.map text)).length =
      (Text.join sep (vs.map concatText)).length + 4 * vs.countP isNull
  | [] => rfl
  | [v] => v.length_text.trans (by rw [List.countP_singleton]; rfl)
  | v :: w :: rest => by
    have hfirst := v.length_text
    have hrest := length_join_text sep (w :: rest)
    simp only [List.map_cons, Text.join, String.length_append, List.countP_cons] at hrest ⊢
    omega

/-! ### Sums -/

namespace BinaryOp

/-- Add values to a text, from left to right. -/
def addAll (s : String) (vs : List Value) : Except EvalError Value :=
  vs.foldlM add.apply (.string s)

theorem add_text (s : String) (v : Value) :
    add.apply (.string s) v = .ok (.string (s ++ v.concatText)) := rfl

/-- A sum is the text of its first value and what the others contribute. -/
theorem addAll_eq (s : String) (vs : List Value) :
    addAll s vs = .ok (.string (s ++ String.join (vs.map concatText))) := by
  induction vs generalizing s with
  | nil => simp [addAll, pure, Except.pure]
  | cons v rest ih =>
    have hstep : addAll s (v :: rest) = addAll (s ++ v.concatText) rest := by
      rw [addAll, List.foldlM_cons, add_text]
      rfl
    rw [hstep, ih, List.map_cons, String.join_cons, String.append_assoc]

/-- The sum with a separator between the values. -/
theorem addAll_intersperse (sep : String) (vs : List Value) :
    addAll "" (vs.intersperse (.string sep)) =
      .ok (.string (Text.join sep (vs.map concatText))) := by
  rw [addAll_eq, Text.map_intersperse, String.empty_append, Text.join_eq]
  rfl

end BinaryOp

open BinaryOp

theorem callMethod?_concat {fresh : Guid} {owner : HostType} (howner : owner.text = "String")
    (vs : List Value) :
    callMethod? fresh owner none "Concat" vs =
      some (.ok (.string (String.join (vs.map concatText)))) := by
  have hparts : (vs.map fun v => if v.isNull then "" else v.text) = vs.map concatText :=
    List.map_congr_left fun v _ => v.concatText_eq.symm
  simp [callMethod?, typeMethod?, howner, stringFunction?, hparts, Text.join_empty]

theorem callMethod?_join {fresh : Guid} {owner : HostType} (howner : owner.text = "String")
    (sep : String) (vs : List Value) :
    callMethod? fresh owner none "Join" [.string sep, .list vs] =
      some (.ok (.string (Text.join sep (vs.map text)))) := by
  simp [callMethod?, typeMethod?, howner, stringFunction?, text]

/-- Joined texts are those that a sum takes if and only if none of the values is null. -/
theorem join_text_eq_iff {sep : String} {vs : List Value} :
    Text.join sep (vs.map text) = Text.join sep (vs.map concatText) ↔ Value.null ∉ vs := by
  constructor
  · intro h hnull
    have hlength := length_join_text sep vs
    rw [h] at hlength
    have hcount : vs.countP isNull = 0 := by omega
    exact List.countP_eq_zero.1 hcount null hnull rfl
  · intro hnull
    congr 1
    refine List.map_congr_left fun v hv => ?_
    rw [concatText_eq, if_neg fun h => hnull (isNull_iff.1 h ▸ hv)]

/-- **`Concat` agrees with the sum of the values, and `Join` with the sum in which the separator
stands between them unless one of the values is null.**  `Join` is always the sum in which each null
is the text "null". -/
theorem concat_add_join_iff (fresh : Guid) {owner : HostType} (howner : owner.text = "String")
    (vs : List Value) :
    (∃ s t, callMethod? fresh owner none "Concat" vs = some (.ok (.string s)) ∧
      addAll "" vs = .ok (.string s) ∧
      callMethod? fresh owner none "Join" [.string "", .list vs] = some (.ok (.string t)) ∧
      (t = s ↔ Value.null ∉ vs)) ∧
    ∀ sep, ∃ s t, addAll "" (vs.intersperse (.string sep)) = .ok (.string s) ∧
      callMethod? fresh owner none "Join" [.string sep, .list vs] = some (.ok (.string t)) ∧
      addAll "" ((vs.map written).intersperse (.string sep)) = .ok (.string t) ∧
      (t = s ↔ Value.null ∉ vs) := by
  have hsum : addAll "" vs = .ok (.string (Text.join "" (vs.map concatText))) := by
    rw [addAll_eq, String.empty_append, Text.join_empty]
  have hwritten : (vs.map written).map concatText = vs.map text := by
    rw [List.map_map]
    exact List.map_congr_left fun v _ => v.concatText_written
  refine ⟨⟨_, _, ?_, hsum, callMethod?_join howner "" vs, join_text_eq_iff⟩, fun sep => ?_⟩
  · rw [callMethod?_concat howner, Text.join_empty]
  · refine ⟨_, _, addAll_intersperse sep vs, callMethod?_join howner sep vs, ?_, join_text_eq_iff⟩
    rw [addAll_intersperse, hwritten]

/-- A null inside of a list is written by all of them. -/
theorem concat_add_join_iff_nested :
    let vs : List Value := [.list [.null], .object "Scope" [("region", .null)], .int 1]
    HostType.string.text = "String" ∧
    callMethod? .nil .string none "Concat" vs = some (.ok (.string "nullScope1")) ∧
    ∃ s, callMethod? .nil .string none "Join" [.string ";", .list vs] = some (.ok (.string s)) ∧
      addAll "" (vs.intersperse (.string ";")) = .ok (.string s) := by
  intro vs
  have hstring : HostType.string.text = "String" := rfl
  have hnull : Value.null ∉ vs := by simp [vs]
  obtain ⟨⟨s, -, hconcat, hsum, -⟩, hjoin⟩ := concat_add_join_iff .nil hstring vs
  have htext : String.join (vs.map concatText) = "nullScope1" := by decide
  rw [addAll_eq, htext] at hsum
  cases hsum
  obtain ⟨u, t, hsep, htext', -, heq⟩ := hjoin ";"
  exact ⟨hstring, hconcat, t, htext', heq.2 hnull ▸ hsep⟩

theorem not_concat_join :
    callMethod? .nil .string none "Concat" [.null] = some (.ok (.string "")) ∧
    addAll "" [.null] = .ok (.string "") ∧
    callMethod? .nil .string none "Join" [.string "", .list [.null]] =
      some (.ok (.string "null")) :=
  ⟨rfl, rfl, rfl⟩

end QueryClause
