import QueryClause.Proofs.Compile.Run

/-!
# The schema and the clause of a compilation

A compilation consults its schema for columns and its clause at the root alone
(`Context.compileM_surroundings`).  Everything else that it writes or computes is the same under all
schemas and for all clauses, in every run: it also draws the same identifiers.

The clause, in particular, matters for one form of expression, a lambda over a column: as a
condition the column is compared with true, and as a field it is not (`Context.compile_clause`).
-/

namespace QueryClause

/-- No column asks for a new identifier. -/
theorem Expr.lacks_isNewGuid_of_isColumn {e : Expr} (he : e.isColumn = true) :
    e.Lacks isNewGuid := by
  refine lacks_iff_any.2 ?_
  cases e with
  | member target name declaring type =>
    have hrow : target.isRow = true := he
    unfold isRow at hrow
    split at hrow
    · rfl
    · rfl
    · cases hrow
  | _ => cases he

theorem Expr.lacks_isNewGuid_of_isColumnLambda {e : Expr} (he : e.isColumnLambda = true) :
    e.Lacks isNewGuid := by
  cases e with
  | lambda params body =>
    refine lacks_iff.2 ⟨rfl, fun x hx => ?_⟩
    obtain rfl := List.mem_singleton.1 hx
    exact lacks_isNewGuid_of_isColumn he
  | _ => cases he

namespace Context

variable {c : Context} {schema : Schema} {clause : Clause} {depth : Nat} {e : Expr}

/-- **Columns and the root** are all that the schema and the clause matter for. -/
theorem compileM_surroundings {n : Type → Type} [Monad n] [LawfulMonad n] {draw : n Guid}
    (hcolumn : ∀ x, Expr.Occurs x e → x.isColumn = true →
      column { c with schema, clause } x = c.column x)
    (hroot : e.isColumnLambda = true → clause = c.clause) :
    compileM draw { c with schema, clause } e = c.compileM draw e :=
  (compileAtM_rel (k := .equality _) (fun _ he => (hroot he).symm)
    (fun x hx hcol => (hcolumn x hx hcol).symm) fun _ _ => rfl).symm

/-- The results agree on one supply, and on different ones if no new identifier is asked for. -/
theorem compileFrom_surroundings {s s' : Supply} (hs : s = s' ∨ e.Lacks Expr.isNewGuid)
    (hcolumn : ∀ x, Expr.Occurs x e → x.isColumn = true →
      column { c with schema, clause } x = c.column x)
    (hroot : e.isColumnLambda = true → clause = c.clause) :
    (compileFrom { c with schema, clause } s e).1 = (c.compileFrom s' e).1 := by
  have hsame : compileFrom { c with schema, clause } s e = c.compileFrom s e := by
    rw [compileFrom, compileFrom, compileM_surroundings hcolumn hroot]
  rw [hsame]
  rcases hs with rfl | hs
  · rfl
  · rw [compileFrom_of_lacks s hs, compileFrom_of_lacks s' hs]

/-! ### The clause -/

/-- A lambda over a column is a condition by comparison with true. -/
theorem compile_predicate_columnLambda (he : e.isColumnLambda = true)
    (hd : 1 ≤ c.options.maxDepth) :
    compile { c with clause := .predicate } e =
      (compile { c with clause := .fieldList } e).map fun f => .sql (c.isTrue f) := by
  cases e with
  | lambda params body =>
    have hbody : body.isColumn = true := he
    have hfield : compileAt { c with clause := .fieldList } 1 body = c.column body :=
      compileAt_column hbody hd
    rw [compile, compile, compileAt_eq, compileAt_eq, if_neg (Nat.not_lt_zero _),
      if_neg (Nat.not_lt_zero _), compileNode, compileNode, if_pos (by simp [hbody]),
      if_neg (by simp), hfield]
    rfl
  | _ => cases he

/-- A column is SQL, also under a lambda. -/
theorem isSql_of_compile_columnLambda {f : Fragment} (he : e.isColumnLambda = true)
    (h : c.compileAt depth e = .ok f) : f.isSql = true := by
  cases e with
  | lambda params body =>
    obtain ⟨-, hnode⟩ := compileNode_of_compileAt h
    rw [compileNode] at hnode
    split at hnode
    · exact isSql_of_trueColumn hnode
    · exact isSql_of_column he (column_of_compileAt he hnode)
  | _ => cases he

theorem isTrue_eq_iff {f : Fragment} {t : String} :
    c.isTrue f = t ++ "=" ++ c.target.trueLiteral ↔ f.render c.target = t := by
  rw [isTrue, String.append_assoc, String.append_assoc, String.append_left_inj]

/-- **The clause matters for a lambda over a column alone.**  Any other expression compiles to the
same for all clauses.  A lambda over a column is a condition, namely that the column is true,
exactly if it is a field, and otherwise it fails for both clauses in the same way.

The two compilations take their new identifiers from the same supply, or they ask for none. -/
theorem compile_clause (c : Context) {e : Expr} {s s' : Supply}
    (hs : s = s' ∨ e.Lacks Expr.isNewGuid) :
    (e.isColumnLambda = false → ∀ clause clause',
      (compileFrom { c with clause } s e).1 = (compileFrom { c with clause := clause' } s' e).1) ∧
    (e.isColumnLambda = true → 1 ≤ c.options.maxDepth →
      (∀ t, (compileFrom { c with clause := .predicate } s e).1 =
          .ok (.sql (t ++ "=" ++ c.target.trueLiteral)) ↔
        ∃ f, (compileFrom { c with clause := .fieldList } s' e).1 = .ok f ∧ f.isSql = true ∧
          f.render c.target = t) ∧
      ∀ cause, (compileFrom { c with clause := .predicate } s e).1 = .error cause ↔
        (compileFrom { c with clause := .fieldList } s' e).1 = .error cause) := by
  constructor
  · intro he clause clause'
    exact compileFrom_surroundings (c := { c with clause := clause' }) hs (fun _ _ _ => rfl)
      fun h => by simp [he] at h
  · intro he hd
    have hlacks := Expr.lacks_isNewGuid_of_isColumnLambda he
    rw [compileFrom_of_lacks s hlacks, compileFrom_of_lacks s' hlacks,
      compile_predicate_columnLambda he hd]
    cases hfield : compile { c with clause := .fieldList } e with
    | error cause => simp [Except.map]
    | ok f =>
      have hsql : f.isSql = true := isSql_of_compile_columnLambda he hfield
      simp [Except.map, isTrue_eq_iff, hsql]

/-- A lambda over a column, and one over a list of two new identifiers. -/
theorem compile_clause_pieces :
    let c := bare .oracle
    let e := Expr.lambda [⟨"o", .entity "Orders"⟩] pieces
    let e' := Expr.lambda [] (.newArray .guid [.newGuid, .newGuid])
    let column := c.target.dialect.quoteIdentifier "Pieces"
    let s := Supply.counting
    (e.isColumnLambda = true ∧ 1 ≤ c.options.maxDepth ∧
      (compileFrom { c with clause := .predicate } s e).1 =
        .ok (.sql (column ++ "=" ++ c.target.trueLiteral))) ∧
    e'.isColumnLambda = false ∧
      (compileFrom { c with clause := .predicate } s e').1 =
        .ok (.native (.list [.guid ⟨0⟩, .guid ⟨1⟩])) ∧
      (compileFrom { c with clause := .predicate } s e').1 =
        (compileFrom { c with clause := .fieldList } s e').1 := by
  intro c e e' column s
  have hroom : 1 ≤ c.options.maxDepth := by decide
  have hfield : (compileFrom { c with clause := .fieldList } s e).1 = .ok (.sql column) := rfl
  exact ⟨⟨rfl, hroom,
      (((compile_clause c (.inl rfl)).2 rfl hroom).1 column).2 ⟨_, hfield, rfl, rfl⟩⟩,
    rfl, rfl, (compile_clause c (.inl rfl)).1 rfl _ _⟩

end Context

end QueryClause
