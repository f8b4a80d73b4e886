import QueryClause.Proofs.Compile.Predicate
import QueryClause.Proofs.Sql.Membership

/-!
# Compiled searches

The search of a list for a column becomes a membership condition, in every dialect
(`Context.sql_search`).  On a row, the condition is true if and only if the evaluator finds the
number of the row in the list, and its negation is true if and only if the evaluator does not
(`Context.holds_of_search_sql`).

An empty list is written as null alone, and the comparison with it is unknown.  That is as good as
false, but its negation is unknown too, where the evaluator finds nothing and so answers true
(`Context.not_holds_of_search_sql`).
-/

namespace QueryClause

/-- A way to search a collection: a method of collections, or the function of lists. -/
inductive Search where
  | method (owner type : HostType)
  | function (owner type : HostType)
  deriving DecidableEq, Repr

namespace Search

/-- The search of a collection for an item. -/
def expr (s : Search) (collection item : Expr) : Expr :=
  match s with
  | method owner type => .call collection "Contains" [item] owner type
  | function owner type => .staticCall owner "Contains" [collection, item] type

/-- The search is one that the host knows. -/
def Proper : Search → Prop
  | method owner _ => owner.isEnumerable = true
  | function owner _ => owner.text = "Enumerable"

variable {s : Search} {collection item : Expr} {env : Environment}

theorem children_expr (s : Search) (collection item : Expr) :
    (s.expr collection item).children = [collection, item] := by
  cases s <;> rfl

theorem height_expr (s : Search) (collection item : Expr) :
    (s.expr collection item).height = max (collection.height + 1) (item.height + 1) := by
  cases s <;> simp [expr, Expr.height, Expr.listHeight]

theorem search?_expr (hs : s.Proper) :
    (s.expr collection item).search? = some (collection, item) := by
  cases s with
  | method owner type =>
    have howner : owner.isEnumerable = true := hs
    simp [expr, Expr.search?, howner]
  | function owner type => rfl

theorem isQueryCall_expr (hs : s.Proper) : (s.expr collection item).isQueryCall = false := by
  cases s with
  | method owner type => rfl
  | function owner type =>
    have howner : owner.text = "Enumerable" := hs
    -- `Sql` is no list type
    have hne : owner ≠ .object "Sql" := by
      rintro rfl
      exact absurd howner (by decide)
    simp [expr, Expr.isQueryCall, hne]

theorem tagged_bool (b : Bool) (type : HostType) : (Value.bool b).tagged type = .bool b := by
  unfold Value.tagged
  cases type.underlying.enumType? <;> rfl

/-- The answer of the host. -/
theorem value_expr {items : List Value} {v : Value} (hs : s.Proper)
    (hcollection : collection.value env = .ok (.list items)) (hitem : item.value env = .ok v) :
    (s.expr collection item).value env = .ok (.bool (Value.contained v items)) := by
  cases s with
  | method owner type =>
    rw [expr, Expr.value_eq, Expr.evaluateNode, hcollection, List.mapM_cons, hitem]
    exact congrArg Except.ok (tagged_bool _ type)
  | function owner type =>
    -- the function takes the list and the item as its arguments
    have howner : owner.text = "Enumerable" := hs
    have hmethod : typeMethod? env.freshGuid owner.text "Contains" [.list items, v] =
        some (.ok (.bool (Value.contained v items))) := by
      rw [howner]
      rfl
    have hargs : [collection, item].mapM (Expr.value env) = .ok [.list items, v] := by
      rw [List.mapM_cons, hcollection, List.mapM_cons, hitem]
      rfl
    rw [expr, Expr.value_eq, Expr.evaluateNode, hargs]
    simp only [bind, Except.bind, Expr.invoke, callMethod?, hmethod]
    exact congrArg Except.ok (tagged_bool _ type)

/-- The answer of the host about a number. -/
theorem value_numbers {xs : List Int64} (r : Int64) (hs : s.Proper)
    (hxs : collection.value env = .ok (.list (xs.map .int))) :
    (s.expr collection (.ofValue (.int r))).value env =
      .ok (.bool (xs.any fun n => n.toInt == r.toInt)) := by
  have hcontained : Value.contained (.int r) (xs.map .int) =
      xs.any fun n => n.toInt == r.toInt := by
    rw [Value.contained, List.any_map]
    exact congrArg xs.any (funext fun n => Value.equals_int n r)
  rw [← hcontained]
  exact value_expr hs hxs (Context.value_ofValue rfl)

end Search

namespace Context

variable {c : Context} {s : Search} {collection column : Expr} {depth : Nat}

theorem ownLiteral_int (t : Target) (n : Int64) : t.ownLiteral (.int n) = Text.ofInt n.toInt := by
  unfold Target.ownLiteral Target.literal
  cases t.dialect <;> rfl

/-- A list of numbers as it is written beside a column. -/
theorem inList_numbers (xs : List Int64) (reference : String) :
    c.inList (.list (xs.map .int)) (.sql reference) =
      .sql (SqlMembership.ofNumbers reference xs).text := by
  have hcandidates : candidates (.list (xs.map .int)) = xs.map .int := by
    induction xs with
    -- the empty list is written as `NULL`
    | nil => rfl
    | cons n rest ih => simpa [candidates] using ih
  -- a number has the same text beside any column that is no enumeration
  have htexts : (xs.map Value.int).map (c.candidateText none) =
      xs.map fun n => Text.ofInt n.toInt := by
    rw [List.map_map]
    exact List.map_congr_left fun n _ => ownLiteral_int c.target n
  have henum : (Fragment.sql reference).enumType? = none := rfl
  rw [inList, hcandidates, henum, htexts]
  cases xs with
  | nil => rfl
  | cons n rest =>
    have hitems : (SqlMembership.ofNumbers reference (n :: rest)).items.map SqlItem.text =
        (n :: rest).map fun n => Text.ofInt n.toInt := by
      simp [SqlMembership.ofNumbers, SqlMembership.items, SqlItem.text, Function.comp_def]
    rw [SqlMembership.text, hitems]
    rfl

/-- The search of a list of numbers for a column becomes a membership condition. -/
theorem compileAt_search {xs : List Int64} {reference : String} (hs : s.Proper)
    (hcol : column.isColumn = true) (hreference : c.column column = .ok (.sql reference))
    (hxs : collection.value c.env = .ok (.list (xs.map .int)))
    (hm : depth + (s.expr collection column).height ≤ c.options.maxDepth) :
    c.compileAt depth (s.expr collection column) =
      .ok (.sql (SqlMembership.ofNumbers reference xs).text) := by
  have hmemc : collection ∈ (s.expr collection column).children := by simp [s.children_expr]
  have hmemx : column ∈ (s.expr collection column).children := by simp [s.children_expr]
  have hroomc := Expr.room_of_child hmemc hm
  have hroomx := Expr.room_of_child hmemx hm
  have hfold : c.fold collection = .ok (.list (xs.map .int)) := fold_of_value (by omega) hxs
  rw [compileAt_eq, if_neg (by omega), compileNode_search (Search.search?_expr hs)
    (Search.isQueryCall_expr hs), compileAt_column hcol (by omega), hreference, containment_eq]
  simp only [bind, Except.bind, Fragment.isSql, if_true, hfold, inList_numbers]
  rfl

theorem compile_not_search {xs : List Int64} {reference : String} (type : HostType)
    (via : Option String) (hs : s.Proper) (hcol : column.isColumn = true)
    (hreference : c.column column = .ok (.sql reference))
    (hxs : collection.value c.env = .ok (.list (xs.map .int)))
    (hm : (Expr.unary .not (s.expr collection column) type via).height ≤ c.options.maxDepth) :
    c.compile (.unary .not (s.expr collection column) type via) =
      .ok (.sql (SqlMembership.ofNumbers reference xs).negatedText) := by
  have hroom : 1 + (s.expr collection column).height ≤ c.options.maxDepth := by
    rw [Expr.height] at hm
    omega
  have hsearch : (s.expr collection column).isColumn = false := by cases s <;> rfl
  rw [compile, compileAt_eq, if_neg (by omega), compileNode,
    compileAt_search hs hcol hreference hxs hroom, hsearch]
  rfl

/-- **Compiled searches keep their meaning**: in every dialect, the search of a list of numbers for
a column compiles to a membership condition, and its negation to the opposite condition.  On a row
with a number, the condition is true if and only if the evaluator finds this number, and the
opposite one is true if and only if it does not, unless the list is empty: then the evaluator finds
nothing, and the opposite condition is unknown. -/
theorem holds_of_search_sql {xs : List Int64} {reference : String} {row : SqlRow} {r : Int64}
    {type : HostType} {via : Option String} {limit : Nat} (hs : s.Proper)
    (hcol : column.isColumn = true) (hreference : c.column column = .ok (.sql reference))
    (hxs : collection.value c.env = .ok (.list (xs.map .int))) (hrow : row reference = .int r)
    (hm : (Expr.unary .not (s.expr collection column) type via).height ≤ c.options.maxDepth)
    (hlimit : (Expr.unary .not (s.expr collection column) type via).height ≤ limit) :
    let found := s.expr collection (.ofValue (.int r))
    ∃ b p, found.evaluate c.env limit = .ok (.bool b) ∧
      (Expr.unary .not found type via).evaluate c.env limit = .ok (.bool !b) ∧
      c.sql (s.expr collection column) = .ok (SqlMembership.text p) ∧
      c.sql (.unary .not (s.expr collection column) type via) = .ok p.negatedText ∧
      p.reference = reference ∧
      (∀ q : SqlMembership, q.reference = reference → q.text = p.text → q = p) ∧
      (p.holds? row = some true ↔ b = true) ∧
      (xs ≠ [] → (p.negatedHolds? row = some true ↔ (!b) = true)) ∧
      (xs = [] → b = false ∧ p.negatedHolds? row = none) := by
  intro found
  -- the answers of the host
  have hfound : found.value c.env = .ok (.bool (xs.any fun n => n.toInt == r.toInt)) :=
    Search.value_numbers r hs hxs
  have hnot : (Expr.unary .not found type via).value c.env =
      .ok (.bool !(xs.any fun n => n.toInt == r.toInt)) := value_unary rfl hfound rfl
  -- room under both limits: a number instead of the column makes no difference
  have hheight : (Expr.unary .not found type via).height ≤ limit := by
    rw [Expr.height, Search.height_expr] at hlimit ⊢
    rw [Expr.ofValue, Expr.height]
    omega
  have hfoundHeight : found.height ≤ limit := by
    rw [Expr.height] at hheight
    omega
  have hroom : 0 + (s.expr collection column).height ≤ c.options.maxDepth := by
    rw [Expr.height] at hm
    omega
  refine ⟨xs.any fun n => n.toInt == r.toInt, SqlMembership.ofNumbers reference xs, ?_, ?_, ?_, ?_,
    SqlMembership.reference_ofNumbers reference xs, fun q hq h => ?_,
    SqlMembership.holds?_ofNumbers_iff xs hrow,
    fun hne => SqlMembership.negatedHolds?_ofNumbers_iff hrow hne, ?_⟩
  · rw [Expr.evaluate_eq_value hfoundHeight]
    exact hfound
  · rw [Expr.evaluate_eq_value hheight]
    exact hnot
  · rw [sql, compile, compileAt_search hs hcol hreference hxs hroom]
    rfl
  · rw [sql, compile_not_search type via hs hcol hreference hxs hm]
    rfl
  · exact SqlMembership.membership_text_inj
      (hq.trans (SqlMembership.reference_ofNumbers reference xs).symm) h
  · rintro rfl
    exact ⟨rfl, rfl⟩

theorem holds_of_search_sql_pieces :
    let c := bare .sqlServer
    let s := Search.method (.list (.int .int64)) .bool
    let collection := Expr.ofValue (.list [.int 2, .int 7])
    let row : SqlRow := fun _ => .int 3
    let found := s.expr collection (.ofValue (.int 3))
    ∃ b p, found.evaluate c.env 3 = .ok (.bool b) ∧
      (Expr.unary .not found .bool none).evaluate c.env 3 = .ok (.bool !b) ∧
      c.sql (s.expr collection pieces) = .ok (SqlMembership.text p) ∧
      c.sql (.unary .not (s.expr collection pieces) .bool none) = .ok p.negatedText ∧
      p.reference = "[Pieces]" ∧
      (∀ q : SqlMembership, q.reference = "[Pieces]" → q.text = p.text → q = p) ∧
      (p.holds? row = some true ↔ b = true) ∧
      ([(2 : Int64), 7] ≠ [] → (p.negatedHolds? row = some true ↔ (!b) = true)) ∧
      ([(2 : Int64), 7] = [] → b = false ∧ p.negatedHolds? row = none) := by
  intro c s collection row
  have hquoted : Identifier.quoteWith '[' ']' "Pieces" = "[Pieces]" := by decide
  have hreference : c.column pieces = .ok (.sql "[Pieces]") := by
    rw [← hquoted]
    rfl
  have hs : s.Proper := rfl
  have hxs : collection.value c.env = .ok (.list (List.map .int [2, 7])) := rfl
  exact holds_of_search_sql hs rfl hreference hxs rfl (by decide) (by decide)

/-- The opposite of the search of an empty list is unknown in SQL and true to the host. -/
theorem not_holds_of_search_sql :
    let c := bare .generic
    let s := Search.method (.list (.int .int64)) .bool
    let collection := Expr.ofValue (.list [])
    let row : SqlRow := fun _ => .int 3
    (Expr.unary .not (s.expr collection (.ofValue (.int 3))) .bool none).evaluate c.env 3 =
        .ok (.bool true) ∧
      ∀ q : SqlMembership, q.reference = "Pieces" →
        c.sql (.unary .not (s.expr collection pieces) .bool none) = .ok q.negatedText →
        q.negatedHolds? row ≠ some true := by
  intro c s collection row
  refine ⟨rfl, fun q hq h => ?_⟩
  -- there is one condition with this text, and it is unknown on every row
  have hwritten : c.sql (.unary .not (s.expr collection pieces) .bool none) =
      .ok (SqlMembership.ofNumbers "Pieces" []).negatedText :=
    Except.eq_ok_of_toOption (by decide +kernel)
  rw [hwritten] at h
  have htext := SqlMembership.text_of_negatedText (Except.ok.inj h)
  rw [SqlMembership.membership_text_inj hq htext.symm]
  decide

end Context

end QueryClause
