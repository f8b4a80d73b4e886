import QueryClause.Proofs.Compile.Node
import QueryClause.Proofs.Sql.Pattern
import QueryClause.Proofs.Text.Search

/-!
# Compiled searches of texts

The methods that look for a text in another one become conditions with `like` on a column.  In every
dialect but SQL Server, the pattern matches what the host's own method finds
(`Context.like_matches_host`).

SQL Server reads an opening bracket as the start of a class of characters, and it is not escaped.
There the pattern matches what the method finds if and only if the text has no opening bracket
(`Context.like_matches_host_iff`).
-/

namespace QueryClause

/-! ### The host -/

namespace LikePlace

/-- The method that looks for a text at a place. -/
def method : LikePlace → String
  | start => "StartsWith"
  | .end => "EndsWith"
  | anywhere => "Contains"

/-- The answer of the host. -/
theorem stringMethod?_method (place : LikePlace) (s a : String) :
    ∃ b, stringMethod? s place.method [.string a] = some (.ok (.bool b)) ∧
      (b = true ↔ place.Finds a.toList s.toList) := by
  cases place with
  | start => exact ⟨_, rfl, List.isPrefixOf_iff_prefix⟩
  | «end» => exact ⟨_, rfl, List.isSuffixOf_iff_suffix⟩
  | anywhere => exact ⟨_, rfl, Text.occurs_iff⟩

end LikePlace

namespace LikePattern

/-- On a text, a pattern matches if and only if another text is found there, and this is the answer
of the host. -/
structure AgreesOn (d : Dialect) (place : LikePlace) (p : LikePattern)
    (needle subject : List Char) : Prop where
  finds : p.holds d subject = true ↔ place.Finds needle subject
  host : stringMethod? (String.ofList subject) place.method [.string (String.ofList needle)] =
    some (.ok (.bool (p.holds d subject)))

theorem agreesOn_iff {d : Dialect} {place : LikePlace} {p : LikePattern}
    {needle subject : List Char} :
    p.AgreesOn d place needle subject ↔
      (p.holds d subject = true ↔ place.Finds needle subject) := by
  refine ⟨AgreesOn.finds, fun h => ⟨h, ?_⟩⟩
  obtain ⟨b, hmethod, hb⟩ := place.stringMethod?_method (String.ofList subject)
    (String.ofList needle)
  rw [String.toList_ofList, String.toList_ofList, ← h] at hb
  rw [hmethod, Bool.eq_iff_iff.2 hb]

end LikePattern

/-! ### The condition -/

/-- The text is a condition of a dialect that compares a column with a pattern, in upper case unless
the case is to be exact. -/
def Dialect.WritesLike (d : Dialect) (exactCase : Bool) (column : String) (p : LikePattern)
    (text : String) : Prop :=
  ∃ r, text = (if exactCase then column else "upper(" ++ column ++ ")") ++ " like " ++ r ∧
    d.readLike? r.toList = some p

/-- A method that looks for a text in a column: the column has been compiled to `f`, and the text
that is looked for to `a`. -/
structure LikeCall (c : Context) (depth : Nat) (place : LikePlace) (receiver arg : Expr)
    (owner : HostType) (f : Fragment) (a : String) : Prop where
  column : receiver.isColumnRooted = true
  written : c.compileAt (depth + 1) receiver = .ok f
  isSql : f.isSql = true
  argument : c.compileAt (depth + 1) arg = .ok (.native (.string a))
  /-- On a collection, `Contains` is another method. -/
  owner : place = .anywhere → owner.isEnumerable = false

namespace Context

variable {c : Context} {depth : Nat} {place : LikePlace} {receiver arg : Expr}
  {owner type : HostType} {f : Fragment} {a : String}

theorem search?_method (h : LikeCall c depth place receiver arg owner f a) :
    (Expr.call receiver place.method [arg] owner type).search? = none := by
  cases place with
  | start | «end» => rfl
  | anywhere =>
    have howner := h.owner rfl
    simp [Expr.search?, LikePlace.method, howner]

theorem columnMethodText_method (column : String) :
    c.columnMethodText column place.method ([.ok (.native (.string a))] : List Compiled) =
      .ok (c.target.dialect.like c.options.exactCase column place a) := by
  cases place <;> rfl

theorem columnMethod_of_isSql {args : List Compiled} (method : String) (hf : f.isSql = true) :
    c.columnMethod receiver method (.ok f) args =
      (c.columnMethodText (f.render c.target) method args).map .sql := by
  cases f with
  | native v => cases hf
  | sql s | enumColumn s e => rfl

theorem compileAt_method (h : LikeCall c depth place receiver arg owner f a) :
    c.compileAt depth (.call receiver place.method [arg] owner type) =
      .ok (.sql (c.target.dialect.like c.options.exactCase (f.render c.target) place a)) := by
  have hdepth := (compileNode_of_compileAt h.written).1
  rw [compileAt_eq, if_neg (by omega)]
  rcases c.compileNode_call depth receiver place.method [arg] owner type (c.compileAt (depth + 1))
    with ⟨_, _, hsearch, -⟩ | ⟨-, -, hnode⟩ | ⟨-, hroot, -⟩
  · rw [search?_method h] at hsearch
    cases hsearch
  · rw [hnode, h.written, List.map_cons, h.argument, columnMethod_of_isSql _ h.isSql, List.map_nil,
      columnMethodText_method]
    rfl
  · rw [h.column] at hroot
    cases hroot

/-- What the call compiles to has the pattern for the text that is looked for. -/
theorem exists_writesLike (type : HostType) (h : LikeCall c depth place receiver arg owner f a) :
    ∃ text, c.compileAt depth (.call receiver place.method [arg] owner type) = .ok (.sql text) ∧
      c.target.dialect.WritesLike c.options.exactCase (f.render c.target)
        (.written place (Text.folded c.options.exactCase a.toList)) text := by
  obtain ⟨r, hread, hlike⟩ := c.target.dialect.like_eq c.options.exactCase (f.render c.target)
    place a
  exact ⟨_, compileAt_method h, r, hlike, hread⟩

/-- **Compiled searches of texts answer as the host does**, in every dialect but SQL Server.  The
pattern matches what starts with the text, ends with it, or contains it, both as they are or both in
upper case, and that is the answer of the host's own method.  The escape character is a caret; if
there is none, the pattern has no wildcard but the ones at its ends. -/
theorem like_matches_host (hd : c.target.dialect ≠ .sqlServer)
    (h : LikeCall c depth place receiver arg owner f a) :
    ∃ text p, c.compileAt depth (.call receiver place.method [arg] owner type) = .ok (.sql text) ∧
      c.target.dialect.WritesLike c.options.exactCase (f.render c.target) p text ∧
      (p.escape = some '^' ∨ p.escape = none ∧ ∃ body, p.chars = Pattern.placed place body ∧
        ∀ x ∈ body, x ≠ '^' ∧ x ≠ '\\' ∧ x ≠ '_' ∧ x ≠ '%') ∧
      ∀ t : String, p.AgreesOn c.target.dialect place (Text.folded c.options.exactCase a.toList)
        (Text.folded c.options.exactCase t.toList) := by
  obtain ⟨text, hcompile, hlike⟩ := exists_writesLike type h
  refine ⟨text, _, hcompile, hlike, ?_, fun t => ?_⟩
  · rcases (LikePattern.serves_written place _).caret with hnone | hcaret
    · -- without an escape clause, the text had no character to escape
      obtain ⟨hchars, hplain⟩ := LikePattern.plain_of_escape_eq_none hnone
      refine .inr ⟨hnone, _, hchars.trans (LikePlace.placed_eq place _).symm, fun x hx => ?_⟩
      exact Pattern.ne_of_not_special (hplain x hx)
    · exact .inl hcaret
  · refine LikePattern.agreesOn_iff.2 (LikePattern.holds_written_iff fun hserver => ?_)
    exact absurd hserver hd

/-- The name of an order. -/
def orderName : Expr :=
  .member (.parameter "o" (.entity "Orders")) "Name" (some "Orders") .string

/-- The compiler of conditions that knows nothing but its dialect and its treatment of case. -/
def cased (d : Dialect) (exactCase : Bool) : Context :=
  { bare d with options := ⟨exactCase, Expr.defaultMaxDepth⟩ }

theorem likeCall_orderName (d : Dialect) (exactCase : Bool) (place : LikePlace) (a : String) :
    LikeCall (cased d exactCase) 0 place orderName (.ofValue (.string a)) .string
      (.sql (d.quoteIdentifier "Name")) a where
  column := rfl
  written := by
    rw [compileAt_column rfl (by decide : 0 + 1 ≤ Expr.defaultMaxDepth)]
    rfl
  isSql := rfl
  argument := rfl
  owner := fun _ => rfl

theorem like_matches_host_backslash :
    let call := Expr.call orderName "Contains" [.ofValue (.string "50%\\'s")] .string .bool
    ∃ text p, (cased .mysql false).compileAt 0 call = .ok (.sql text) ∧
      Dialect.mysql.WritesLike false (Dialect.mysql.quoteIdentifier "Name") p text ∧
      (p.escape = some '^' ∨ p.escape = none ∧ ∃ body, p.chars = Pattern.placed .anywhere body ∧
        ∀ x ∈ body, x ≠ '^' ∧ x ≠ '\\' ∧ x ≠ '_' ∧ x ≠ '%') ∧
      ∀ t : String, p.AgreesOn .mysql .anywhere (Text.folded false "50%\\'s".toList)
        (Text.folded false t.toList) := by
  intro call
  have hd : (cased .mysql false).target.dialect ≠ .sqlServer := nofun
  exact like_matches_host hd (likeCall_orderName .mysql false .anywhere "50%\\'s")

/-- **A bracket opens a class** on SQL Server: the pattern answers as the host does if and only if
the text that is looked for has no opening bracket. -/
theorem like_matches_host_iff (hd : c.target.dialect = .sqlServer)
    (hcase : c.options.exactCase = true) (h : LikeCall c depth place receiver arg owner f a) :
    ∃ text p, c.compileAt depth (.call receiver place.method [arg] owner type) = .ok (.sql text) ∧
      Dialect.WritesLike .sqlServer true (f.render c.target) p text ∧
      ((∀ t : String, p.AgreesOn .sqlServer place a.toList t.toList) ↔ '[' ∉ a.toList) := by
  obtain ⟨text, hcompile, hlike⟩ := exists_writesLike type h
  rw [hd, hcase] at hlike
  have hall := LikePattern.forall_holds_written_iff (a := a.toList) place
  refine ⟨text, _, hcompile, hlike, Iff.trans ?_ hall⟩
  constructor
  · -- every list of characters is the one of a text
    intro hagrees s
    have hs := (hagrees (String.ofList s)).finds
    rwa [String.toList_ofList] at hs
  · exact fun hholds t => LikePattern.agreesOn_iff.2 (hholds t.toList)

theorem like_matches_host_iff_percent :
    let call := Expr.call orderName "StartsWith" [.ofValue (.string "50%")] .string .bool
    ∃ text p, (cased .sqlServer true).compileAt 0 call = .ok (.sql text) ∧
      Dialect.sqlServer.WritesLike true (Dialect.sqlServer.quoteIdentifier "Name") p text ∧
      ((∀ t : String, p.AgreesOn .sqlServer .start "50%".toList t.toList) ↔
        '[' ∉ "50%".toList) := by
  intro call
  exact like_matches_host_iff rfl rfl (likeCall_orderName .sqlServer true .start "50%")

/-- On SQL Server, the search for a digit in brackets finds the digit alone. -/
theorem not_like_matches_host :
    let call := Expr.call orderName "Contains" [.ofValue (.string "[1]")] .string .bool
    let p : LikePattern := ⟨"%[1]%".toList, none⟩
    (cased .sqlServer true).sql call = .ok "[Name] like '%[1]%'" ∧
      Dialect.sqlServer.readLike? "'%[1]%'".toList = some p ∧
      p.holds .sqlServer "1".toList = true ∧
      ¬ LikePlace.anywhere.Finds "[1]".toList "1".toList := by
  intro call p
  refine ⟨Except.eq_ok_of_toOption (by decide), by decide +kernel, by decide, ?_⟩
  intro hfinds
  exact absurd (LikePlace.length_le_of_finds hfinds) (by decide)

end Context

end QueryClause
