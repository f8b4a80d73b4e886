import QueryClause.Proofs.Compile.Method
import QueryClause.Proofs.Compile.Shape
import QueryClause.Proofs.Eval.Search
import QueryClause.Proofs.Sql.Part

/-!
# Compiled parts of texts

A chain of calls takes a part of a column, a part of this part, and so on.  Each call counts
positions from zero and has to stay within the text; what it compiles to counts from one and is cut
off at the end (`Context.compileAt_chain`).  Where the host has an answer, the compiled text has the
same (`Cut.exists_of_value_chain`, `Context.chain_matches_host`).

The compiler cannot know how long a text is.  What it refuses is a bound that is negative or no
integer, and the largest integer as a start, which has no successor.
-/

namespace QueryClause

/-! ### Bounds -/

/-- The bounds of a part: where it starts, counted from zero, and how long it is, if it does not go
up to the end. -/
structure Bounds where
  start : Int64
  length : Option Int64
  deriving DecidableEq, Repr

namespace Bounds

/-- The bounds can be written in SQL. -/
def Writable (b : Bounds) : Prop :=
  0 ≤ b.start ∧ (∀ n, b.length = some n → 0 ≤ n) ∧ b.start ≠ Int64.maxValue

theorem not_writable_iff {b : Bounds} :
    ¬ b.Writable ↔ b.start < 0 ∨ (∃ n, b.length = some n ∧ n < 0) ∨ b.start = Int64.maxValue := by
  simp only [Writable, Classical.not_and_iff_not_or_not, Int64.not_le, Classical.not_forall,
    Classical.not_not, exists_prop]

/-- The number of a position that is not negative. -/
theorem toInt_toNat {n : Int64} (h : 0 ≤ n) : (n.toNatClampNeg : Int) = n.toInt := by
  have hn : (0 : Int64).toInt ≤ n.toInt := Int64.le_iff_toInt_le.1 h
  rw [Int64.toNatClampNeg]
  exact Int.toNat_of_nonneg hn

/-- The part that the host takes has the characters at the positions that SQL counts from one. -/
theorem window_of_slice {b : Bounds} {s u : List Char}
    (h : Text.slice s b.start b.length = .ok u) :
    0 ≤ b.start ∧ (∀ n, b.length = some n → 0 ≤ n) ∧ b.start.toInt ≤ s.length ∧
      u.length ≤ s.length ∧ Text.window (b.start.toInt + 1) (b.length.map Int64.toInt) s = u := by
  obtain ⟨start, length⟩ := b
  cases length with
  | none =>
    obtain ⟨hstart, hle, rfl⟩ := Text.slice_none_eq_ok_iff.1 h
    have hnat := toInt_toNat hstart
    refine ⟨hstart, nofun, by omega, by simp, ?_⟩
    rw [← hnat]
    exact Text.window_none _ s
  | some n =>
    obtain ⟨hstart, hn, hle, rfl⟩ := Text.slice_some_eq_ok_iff.1 h
    have hnat := toInt_toNat hstart
    refine ⟨hstart, fun m hm => (Option.some.inj hm) ▸ hn, by omega, ?_, ?_⟩
    · -- a part is no longer than what is left of the text
      rw [List.length_take, List.length_drop]
      omega
    · rw [← hnat, Option.map_some, ← toInt_toNat hn]
      exact Text.window_some _ _ s

end Bounds

/-- A column or a part of it, by the bounds of parts, of which the first one is taken last. -/
def SqlText.ofBounds (path : ColumnPath) : List Bounds → SqlText
  | [] => .column path
  | b :: rest => .part (ofBounds path rest) (b.start.toInt + 1) (b.length.map Int64.toInt)

/-! ### Calls -/

/-- A call that takes a part of a text, with constants as its arguments. -/
structure Cut where
  start : Value
  startType : HostType
  length : Option (Value × HostType)
  owner : HostType
  type : HostType

namespace Cut

/-- The arguments of a call. -/
def args (cut : Cut) : List Expr :=
  .constant cut.start cut.startType :: cut.length.toList.map fun l => .constant l.1 l.2

/-- The part of a text. -/
def call (cut : Cut) (receiver : Expr) : Expr :=
  .call receiver "Substring" cut.args cut.owner cut.type

/-- A chain of calls, of which the first one is made last. -/
def chain (receiver : Expr) : List Cut → Expr
  | [] => receiver
  | cut :: rest => cut.call (chain receiver rest)

/-- The bounds that the arguments of a call give, if they are integers. -/
def bounds? (cut : Cut) : Option Bounds := do
  let start ← cut.start.asInt?
  match cut.length with
  | none => return ⟨start, none⟩
  | some (v, _) => return ⟨start, some (← v.asInt?)⟩

end Cut

theorem Value.asInt?_tagged (v : Value) (type : HostType) : (v.tagged type).asInt? = v.asInt? := by
  unfold tagged
  split <;> rfl

namespace Cut

variable {cut : Cut} {cuts : List Cut} {env : Environment} {receiver : Expr} {v : Value}

theorem bounds?_eq_some_iff {b : Bounds} :
    cut.bounds? = some b ↔ cut.start.asInt? = some b.start ∧
      (cut.length.map fun l => l.1.asInt?) = b.length.map some := by
  obtain ⟨start, startType, length, owner, type⟩ := cut
  obtain ⟨first, count⟩ := b
  cases length with
  | none => cases count <;> simp [bounds?, Option.bind_eq_some_iff]
  | some l => cases count <;> simp [bounds?, Option.bind_eq_some_iff]

/-! ### The host -/

theorem int_eq_ok_iff {method : String} {args : List Value} {i : Nat} {n : Int64} :
    Arguments.int method args i = .ok n ↔ args[i]?.bind Value.asInt? = some n := by
  rw [Arguments.int, Arguments.at?]
  cases args[i]?.bind Value.asInt? <;> simp

/-- The part that the host takes of a text. -/
theorem exists_of_invoke {owner : HostType} {s : String} {a : Value} {b : Option Value}
    (h : Expr.invoke env owner (some (.string s)) "Substring" (a :: b.toList) = .ok v) :
    ∃ start length u, a.asInt? = some start ∧ b.map Value.asInt? = length.map some ∧
      Text.slice s.toList start length = .ok u ∧ v = .string (String.ofList u) := by
  have hparts : Expr.invoke env owner (some (.string s)) "Substring" (a :: b.toList) =
      (Arguments.int "Substring" (a :: b.toList) 0).bind fun start =>
        (match (motive := Option Value → Except EvalError (Option Int64)) b with
          | none => .ok none
          | some b => (Arguments.int "Substring" [a, b] 1).map some).bind fun length =>
            (Text.slice s.toList start length).map fun u => .string (String.ofList u) := by
    cases b <;> rfl
  rw [hparts] at h
  obtain ⟨start, hstart, h⟩ := Except.bind_eq_ok_iff.1 h
  obtain ⟨length, hlength, h⟩ := Except.bind_eq_ok_iff.1 h
  obtain ⟨u, hu, rfl⟩ := Except.map_eq_ok_iff.1 h
  refine ⟨start, length, u, int_eq_ok_iff.1 hstart, ?_, hu, rfl⟩
  cases b with
  | none =>
    cases hlength
    rfl
  | some b =>
    obtain ⟨n, hn, rfl⟩ := Except.map_eq_ok_iff.1 hlength
    have hint : b.asInt? = some n := int_eq_ok_iff.1 hn
    rw [Option.map_some, hint, Option.map_some]

/-- The values of the arguments. -/
theorem mapM_args (cut : Cut) :
    cut.args.mapM (Expr.value env) = .ok (cut.start.tagged cut.startType ::
      (cut.length.map fun l => l.1.tagged l.2).toList) := by
  obtain ⟨start, startType, length, owner, type⟩ := cut
  cases length <;> rfl

/-- A part that the host takes has bounds within the text. -/
theorem exists_of_value_call {s : String} (h : receiver.value env = .ok (.string s))
    (hv : (cut.call receiver).value env = .ok v) :
    ∃ b u, cut.bounds? = some b ∧ Text.slice s.toList b.start b.length = .ok u ∧
      v = .string (String.ofList u) := by
  rw [call, Expr.value_eq, Expr.evaluateNode, h, mapM_args] at hv
  obtain ⟨_, ⟨⟩, hv⟩ := Except.bind_eq_ok_iff.1 hv
  obtain ⟨_, ⟨⟩, hv⟩ := Except.bind_eq_ok_iff.1 hv
  obtain ⟨w, hw, hv⟩ := Except.bind_eq_ok_iff.1 hv
  obtain ⟨start, length, u, hstart, hlength, hu, rfl⟩ := exists_of_invoke hw
  rw [Value.asInt?_tagged] at hstart
  have hlast : (cut.length.map fun l => l.1.asInt?) = length.map some := by
    rw [← hlength, Option.map_map]
    simp [Function.comp_def, Value.asInt?_tagged]
  refine ⟨⟨start, length⟩, u, bounds?_eq_some_iff.2 ⟨hstart, hlast⟩, hu, ?_⟩
  have htagged : (Value.string (String.ofList u)).tagged cut.type = .string (String.ofList u) := by
    unfold Value.tagged
    split
    · rename_i heq
      cases heq
    · rfl
  rw [← htagged]
  exact (Except.ok.inj hv).symm

/-- A chain that the host computes has bounds that can be written, and the SQL for them gives the
same part of the same text. -/
theorem exists_of_value_chain {t : String} (path : ColumnPath)
    (ht : ∀ cut ∈ cuts, cut.start.asInt? = some Int64.maxValue →
      (t.length : Int) < Int64.maxValue.toInt)
    (hv : (chain (.ofValue (.string t)) cuts).value env = .ok v) :
    ∃ bs u, cuts.mapM bounds? = some bs ∧ (∀ b ∈ bs, b.Writable) ∧ u.length ≤ t.length ∧
      v = .string (String.ofList u) ∧
      ∀ row, row path = .string t → (SqlText.ofBounds path bs).chars? row = some u := by
  -- no part is longer than the text, so a start within a part is within the text
  induction cuts generalizing v with
  | nil =>
    cases hv
    have htext : (Value.string t).tagged .string = .string (String.ofList t.toList) := by
      rw [String.ofList_toList]
      rfl
    refine ⟨[], t.toList, rfl, nofun, Nat.le_of_eq String.length_toList, htext, fun row hrow => ?_⟩
    rw [SqlText.ofBounds, SqlText.chars?, hrow]
    rfl
  | cons cut rest ih =>
    obtain ⟨w, hw⟩ : ∃ w, (chain (.ofValue (.string t)) rest).value env = .ok w :=
      Expr.parts_of_value_call hv _ List.mem_cons_self
    obtain ⟨bs, whole, hbs, hwritable, hlength, rfl, hchars⟩ :=
      ih (fun cut hcut => ht cut (List.mem_cons_of_mem _ hcut)) hw
    obtain ⟨b, u, hb, hu, rfl⟩ := exists_of_value_call hw hv
    rw [String.toList_ofList] at hu
    obtain ⟨hstart, hcount, hle, hshorter, hwindow⟩ := Bounds.window_of_slice hu
    -- the largest start would be past the end of the text
    have hmax : b.start ≠ Int64.maxValue := by
      intro heq
      have hshort := ht cut List.mem_cons_self (heq ▸ (bounds?_eq_some_iff.1 hb).1)
      rw [heq] at hle
      omega
    refine ⟨b :: bs, u, ?_, ?_, by omega, rfl, fun row hrow => ?_⟩
    · rw [List.mapM_cons, hb, hbs]
      rfl
    · exact List.forall_mem_cons.2 ⟨⟨hstart, hcount, hmax⟩, hwritable⟩
    · have hnonneg : (b.length.map Int64.toInt).any (· < 0) = false := by
        cases hlen : b.length with
        | none => rfl
        | some n =>
          have hn : (0 : Int64).toInt ≤ n.toInt := Int64.le_iff_toInt_le.1 (hcount n hlen)
          simpa using hn
      rw [SqlText.ofBounds, SqlText.chars?, hnonneg, hchars row hrow, ← hwindow]
      rfl

theorem isColumnRooted_chain (h : receiver.isColumnRooted = true) (cuts : List Cut) :
    (chain receiver cuts).isColumnRooted = true := by
  induction cuts with
  | nil => exact h
  | cons cut rest ih => exact ih

end Cut

namespace Context

variable {c : Context} {depth : Nat} {cut : Cut} {cuts : List Cut} {column : Expr}
  {text : String}

/-! ### The compiler -/

theorem compileAt_constant (v : Value) (type : HostType) (h : depth ≤ c.options.maxDepth) :
    c.compileAt depth (.constant v type) =
      if v.isNull then .ok (.sql "null") else .ok (.native (v.tagged type)) := by
  have hfold : c.fold (.constant v type) = .ok (v.tagged type) :=
    fold_of_value (Nat.zero_le _) rfl
  rw [compileAt_eq, if_neg (by omega), compileNode, foldNative, hfold]
  rfl

/-- A constant argument is an integer if it is one to the host. -/
theorem intArg_constant {method : String} {args : List Expr} {i : Nat} {v : Value}
    {type : HostType} {n : Int64} (hi : args[i]? = some (.constant v type))
    (h : depth ≤ c.options.maxDepth) :
    intArg method text (args.map (c.compileAt depth)) i = .ok n ↔ v.asInt? = some n := by
  -- a constant argument is a value of its own, unless it is null
  have hnative : ∀ w, nativeArg method text (args.map (c.compileAt depth)) i = .ok w ↔
      v.isNull = false ∧ w = v.tagged type := by
    intro w
    rw [nativeArg_eq_ok_iff, List.getElem?_map, hi, Option.map_some, compileAt_constant v type h]
    cases v.isNull <;> simp [eq_comm]
  -- the argument is that value, taken as an integer
  have hint : intArg method text (args.map (c.compileAt depth)) i = .ok n ↔
      ∃ w, nativeArg method text (args.map (c.compileAt depth)) i = .ok w ∧ w.asInt? = some n := by
    rw [intArg, Except.bind_eq_ok_iff]
    refine exists_congr fun w => and_congr_right fun _ => ?_
    cases w.asInt? <;> simp [pure, Except.pure]
  rw [hint]
  constructor
  · rintro ⟨w, hw, hn⟩
    obtain ⟨-, rfl⟩ := (hnative w).1 hw
    rwa [Value.asInt?_tagged] at hn
  · intro hn
    have hnull : v.isNull = false := by
      cases v with
      | null => cases hn
      | _ => rfl
    exact ⟨_, (hnative _).2 ⟨hnull, rfl⟩, by rwa [Value.asInt?_tagged]⟩

theorem startArg_eq_ok_iff (h : depth ≤ c.options.maxDepth) {start : Int64} :
    intArg "Substring" text (cut.args.map (c.compileAt depth)) 0 = .ok start ↔
      cut.start.asInt? = some start :=
  intArg_constant rfl h

/-- The length that a call asks for. -/
def lengthArg (c : Context) (depth : Nat) (cut : Cut) (text : String) :
    Except CompileError (Option Int64) :=
  match cut.length with
  | none => .ok none
  | some _ => (intArg "Substring" text (cut.args.map (c.compileAt depth)) 1).map some

theorem lengthArg_eq_ok_iff (h : depth ≤ c.options.maxDepth) {length : Option Int64} :
    c.lengthArg depth cut text = .ok length ↔
      (cut.length.map fun l => l.1.asInt?) = length.map some := by
  obtain ⟨start, startType, length', owner, type⟩ := cut
  cases length' with
  | none => cases length <;> simp [lengthArg]
  | some l =>
    have hlast : ∀ n, intArg "Substring" text
        ((Cut.args ⟨start, startType, some l, owner, type⟩).map (c.compileAt depth)) 1 = .ok n ↔
          l.1.asInt? = some n := fun n => intArg_constant rfl h
    rw [lengthArg, Except.map_eq_ok_iff]
    cases length with
    | none => simp
    | some n => simp [hlast]

/-- A call gives the text of a part if its arguments are integers. -/
theorem columnMethodText_cut (h : depth ≤ c.options.maxDepth) {s : String} :
    c.columnMethodText text "Substring" (cut.args.map (c.compileAt depth)) = .ok s ↔
      ∃ b, cut.bounds? = some b ∧ substring text b.start b.length = .ok s := by
  -- the start, the length where there is one, and then the text
  have hparts : c.columnMethodText text "Substring" (cut.args.map (c.compileAt depth)) =
      (intArg "Substring" text (cut.args.map (c.compileAt depth)) 0).bind fun start =>
        (c.lengthArg depth cut text).bind fun length => substring text start length := by
    obtain ⟨start, startType, length, owner, type⟩ := cut
    cases length <;> rfl
  rw [hparts]
  constructor
  · intro hs
    obtain ⟨start, hfirst, hs⟩ := Except.bind_eq_ok_iff.1 hs
    obtain ⟨length, hlast, hs⟩ := Except.bind_eq_ok_iff.1 hs
    exact ⟨⟨start, length⟩, Cut.bounds?_eq_some_iff.2
      ⟨(startArg_eq_ok_iff h).1 hfirst, (lengthArg_eq_ok_iff h).1 hlast⟩, hs⟩
  · rintro ⟨b, hb, hs⟩
    obtain ⟨hfirst, hlast⟩ := Cut.bounds?_eq_some_iff.1 hb
    exact Except.bind_eq_ok_iff.2 ⟨b.start, (startArg_eq_ok_iff h).2 hfirst,
      Except.bind_eq_ok_iff.2 ⟨b.length, (lengthArg_eq_ok_iff h).2 hlast, hs⟩⟩

/-- The text of a part, if its bounds can be written. -/
theorem substring_eq_ok_iff {d : Dialect} {whole : SqlText} {b : Bounds} {s : String} :
    substring (whole.written d) b.start b.length = .ok s ↔
      b.Writable ∧ s = (SqlText.part whole (b.start.toInt + 1)
        (b.length.map Int64.toInt)).written d := by
  obtain ⟨start, length⟩ := b
  -- the check for negative bounds, and then the one for the largest start
  have hnegative : (start < 0 || length.any (· < 0)) = true ↔
      ¬ (0 ≤ start ∧ ∀ n, length = some n → 0 ≤ n) := by
    rw [Bool.or_eq_true, decide_eq_true_eq, Classical.not_and_iff_not_or_not, Int64.not_le]
    cases length <;> simp
  unfold substring
  split
  · rename_i h
    refine iff_of_false nofun fun hb => hnegative.1 h ⟨hb.1.1, hb.1.2.1⟩
  · rename_i h
    rw [hnegative, Classical.not_not] at h
    split
    · rename_i hmax
      exact iff_of_false nofun fun hb => hb.1.2.2 hmax
    · rename_i hmax
      -- both checks are passed
      have hwritable : Bounds.Writable ⟨start, length⟩ := ⟨h.1, h.2, hmax⟩
      rw [Except.ok.injEq, eq_comm]
      cases length with
      | none =>
        rw [Option.map_none, SqlText.written_part_none]
        exact ⟨fun hs => ⟨hwritable, hs⟩, fun hs => hs.2⟩
      | some n =>
        rw [Option.map_some, SqlText.written_part_some]
        exact ⟨fun hs => ⟨hwritable, hs⟩, fun hs => hs.2⟩

/-- A chain on a column compiles to the text of the parts, if the bounds are integers and can be
written. -/
theorem compileAt_chain {path : ColumnPath} {f : Fragment} {s : String}
    (hcol : column.isColumn = true) (hf : c.column column = .ok f)
    (hpath : f.render c.target = path.written c.target.dialect)
    (hm : depth + (Cut.chain column cuts).height ≤ c.options.maxDepth) :
    (c.compileAt depth (Cut.chain column cuts)).map (Fragment.render c.target) = .ok s ↔
      ∃ bs, cuts.mapM Cut.bounds? = some bs ∧ (∀ b ∈ bs, b.Writable) ∧
        s = (SqlText.ofBounds path bs).written c.target.dialect := by
  induction cuts generalizing depth s with
  | nil =>
    have hcolumn : c.compileAt depth (Cut.chain column []) = .ok f :=
      (compileAt_column hcol (by omega)).trans hf
    rw [hcolumn, Except.map, hpath]
    simp [SqlText.ofBounds, SqlText.written_column, eq_comm]
  | cons cut rest ih =>
    have hroot : (Cut.chain column rest).isColumnRooted = true := by
      refine Cut.isColumnRooted_chain ?_ rest
      cases column with
      | member => exact hcol
      | _ => cases hcol
    have hroom : depth + 1 + (Cut.chain column rest).height ≤ c.options.maxDepth :=
      Expr.room_of_child (e := Cut.chain column (cut :: rest)) List.mem_cons_self hm
    have hsearch : (cut.call (Cut.chain column rest)).search? = none := by
      simp [Cut.call, Expr.search?]
    rw [Cut.chain, Cut.call, map_render_rooted hroot hsearch (by omega)]
    constructor
    · -- first the rest of the chain, then the call around it, in both directions
      intro h
      obtain ⟨w, hw, h⟩ := Except.bind_eq_ok_iff.1 h
      obtain ⟨bs, hbs, hwritable, rfl⟩ := (ih hroom).1 hw
      obtain ⟨b, hb, h⟩ := (columnMethodText_cut (by omega)).1 h
      obtain ⟨hb', rfl⟩ := substring_eq_ok_iff.1 h
      refine ⟨b :: bs, ?_, List.forall_mem_cons.2 ⟨hb', hwritable⟩, rfl⟩
      rw [List.mapM_cons, hb, hbs]
      rfl
    · rintro ⟨bs, hbs, hwritable, rfl⟩
      rw [List.mapM_cons] at hbs
      obtain ⟨b, hb, hbs⟩ := Option.bind_eq_some_iff.1 hbs
      obtain ⟨bs', hbs', hcons⟩ := Option.bind_eq_some_iff.1 hbs
      cases hcons
      obtain ⟨hb', hrest⟩ := List.forall_mem_cons.1 hwritable
      exact Except.bind_eq_ok_iff.2 ⟨_, (ih hroom).2 ⟨bs', hbs', hrest, rfl⟩,
        (columnMethodText_cut (by omega)).2 ⟨b, hb, substring_eq_ok_iff.2 ⟨hb', rfl⟩⟩⟩

/-- With integers as its arguments, a chain on a column fails to compile if a bound cannot be
written. -/
theorem failsAt_chain_iff {path : ColumnPath} {f : Fragment} {bs : List Bounds}
    (hcol : column.isColumn = true) (hf : c.column column = .ok f)
    (hpath : f.render c.target = path.written c.target.dialect)
    (hm : depth + (Cut.chain column cuts).height ≤ c.options.maxDepth)
    (hbs : cuts.mapM Cut.bounds? = some bs) :
    (∃ cause, c.compileAt depth (Cut.chain column cuts) = .error cause) ↔
      ∃ b ∈ bs, b.start < 0 ∨ (∃ n, b.length = some n ∧ n < 0) ∨ b.start = Int64.maxValue := by
  -- `compileAt_chain` says when there is a text, so a failure is that a bound cannot be written
  have hfails : (∃ cause, c.compileAt depth (Cut.chain column cuts) = .error cause) ↔
      ¬ ∀ b ∈ bs, b.Writable := by
    cases hcompile : c.compileAt depth (Cut.chain column cuts) with
    | error cause =>
      refine iff_of_true ⟨cause, rfl⟩ fun hwritable => ?_
      have htext := (compileAt_chain hcol hf hpath hm).2 ⟨bs, hbs, hwritable, rfl⟩
      rw [hcompile] at htext
      cases htext
    | ok g =>
      have htext : (c.compileAt depth (Cut.chain column cuts)).map (Fragment.render c.target) =
          .ok (g.render c.target) := by
        rw [hcompile]
        rfl
      obtain ⟨bs', hbs', hwritable, -⟩ := (compileAt_chain hcol hf hpath hm).1 htext
      cases hbs.symm.trans hbs'
      exact iff_of_false nofun (not_not_intro hwritable)
  rw [hfails]
  simp only [Classical.not_forall, exists_prop, Bounds.not_writable_iff]

/-- **Parts of a column agree with the host.**  If the host takes parts of a text of a column, the
chain compiles, and what it compiles to can be read as parts of this column alone, which are the
same part of the same text.  With integers as its arguments, the chain fails to compile if and only
if a start or a length is negative or a start is the largest integer.  The host has an answer for
such a start only if the text has as many characters, which no text in memory has. -/
theorem chain_matches_host {f : Fragment} {cuts : List Cut} (hcol : column.isColumn = true)
    (hf : c.compile column = .ok f)
    (hm : (Cut.chain column cuts).height ≤ c.options.maxDepth) :
    ∃ path : ColumnPath, f.render c.target = path.written c.target.dialect ∧
      (∀ (t : String) (env : Environment) (limit : Nat) (v : Value),
        (Cut.chain (.ofValue (.string t)) cuts).evaluate env limit = .ok v →
        (∃ p : SqlText, c.sql (Cut.chain column cuts) = .ok (p.written c.target.dialect) ∧
          (∀ q : SqlText, q.written c.target.dialect = p.written c.target.dialect → q = p) ∧
          ∀ row, row path = .string t → ∃ u, p.chars? row = some u ∧
            v = .string (String.ofList u)) ∨
        Int64.maxValue.toInt ≤ t.length ∧
          ∃ cut ∈ cuts, cut.start.asInt? = some Int64.maxValue) ∧
      ∀ bs, cuts.mapM Cut.bounds? = some bs →
        ((∃ cause, c.compile (Cut.chain column cuts) = .error cause) ↔
          ∃ b ∈ bs, b.start < 0 ∨ (∃ n, b.length = some n ∧ n < 0) ∨
            b.start = Int64.maxValue) := by
  have hcolumn := column_of_compileAt hcol hf
  obtain ⟨path, hpath⟩ : ∃ path : ColumnPath,
      f.render c.target = path.written c.target.dialect := by
    have htext : c.IsColumnText (f.render c.target) := ⟨column, f, hcol, hcolumn, rfl⟩
    obtain ⟨name, h | ⟨table, h⟩⟩ := htext.identifiers
    · exact ⟨⟨none, name⟩, h⟩
    · exact ⟨⟨some table, name⟩, h⟩
  refine ⟨path, hpath, fun t env limit v hv => ?_, fun bs hbs => ?_⟩
  · -- a text with as many characters is set apart
    by_cases hlong : Int64.maxValue.toInt ≤ t.length ∧
        ∃ cut ∈ cuts, cut.start.asInt? = some Int64.maxValue
    · exact .inr hlong
    · -- every other text is shorter than the largest start
      have ht : ∀ cut ∈ cuts, cut.start.asInt? = some Int64.maxValue →
          (t.length : Int) < Int64.maxValue.toInt := fun cut hcut hmax =>
        Int.not_le.1 fun hle => hlong ⟨hle, cut, hcut, hmax⟩
      obtain ⟨bs, u, hbs, hwritable, -, rfl, hchars⟩ :=
        Cut.exists_of_value_chain path ht (Expr.value_of_evaluate hv)
      have htext : c.sql (Cut.chain column cuts) =
          .ok ((SqlText.ofBounds path bs).written c.target.dialect) :=
        (compileAt_chain hcol hcolumn hpath (by omega)).2 ⟨bs, hbs, hwritable, rfl⟩
      exact .inl ⟨.ofBounds path bs, htext, fun q hq => SqlText.written_inj hq,
        fun row hrow => ⟨u, hchars row hrow, rfl⟩⟩
  · exact failsAt_chain_iff hcol hcolumn hpath (by omega) hbs

/-- A part of a part, where a bound is a decimal. -/
theorem chain_matches_host_twice :
    let c := bare .generic
    let integer := HostType.int .int64
    let one := Value.decimal ⟨false, 1, 0, by decide, by decide⟩
    let cuts : List Cut := [⟨one, .decimal, none, .string, .string⟩,
      ⟨.int 1, integer, some (.int 4, integer), .string, .string⟩]
    let d := c.target.dialect
    let f := Fragment.sql (d.quoteIdentifier "Name")
    orderName.isColumn = true ∧ c.compile orderName = .ok f ∧
    (Cut.chain orderName cuts).height ≤ c.options.maxDepth ∧
    (Cut.chain (.ofValue (.string "Walter")) cuts).evaluate c.env 3 = .ok (.string "lte") ∧
    c.sql (Cut.chain orderName cuts) = .ok "substring(substring(Name from 2 for 4) from 2)" ∧
    ∃ path : ColumnPath, f.render c.target = path.written d ∧
      (∀ (t : String) (env : Environment) (limit : Nat) (v : Value),
        (Cut.chain (.ofValue (.string t)) cuts).evaluate env limit = .ok v →
        (∃ p : SqlText, c.sql (Cut.chain orderName cuts) = .ok (p.written d) ∧
          (∀ q : SqlText, q.written d = p.written d → q = p) ∧
          ∀ row, row path = .string t → ∃ u, p.chars? row = some u ∧
            v = .string (String.ofList u)) ∨
        Int64.maxValue.toInt ≤ t.length ∧
          ∃ cut ∈ cuts, cut.start.asInt? = some Int64.maxValue) ∧
      ∀ bs, cuts.mapM Cut.bounds? = some bs →
        ((∃ cause, c.compile (Cut.chain orderName cuts) = .error cause) ↔
          ∃ b ∈ bs, b.start < 0 ∨ (∃ n, b.length = some n ∧ n < 0) ∨
            b.start = Int64.maxValue) := by
  intro c integer one cuts d f
  have hm : (Cut.chain orderName cuts).height ≤ c.options.maxDepth := by decide
  exact ⟨rfl, rfl, hm, rfl, Except.eq_ok_of_toOption (by decide +kernel),
    chain_matches_host rfl rfl hm⟩

end Context

end QueryClause
