import QueryClause.Proofs.Compile.Membership
import QueryClause.Proofs.Sql.Rendering

/-!
# Values beside a column of an enumeration

A column of an enumeration holds the names of members, so a value beside it is brought to the
enumeration.  This happens in two places.  The operand of a comparison becomes a constant of the
enumeration if it counts as a number in any way (`Value.asMember`), as a character or a decimal
without fraction do.  The item of a list becomes one only if it is an integer
(`Value.asListedMember`).

The two places write the same for integers and for what is no number.  For any other value they
write the same if and only if its own literal happens to say the name that the comparison writes
(`Context.coercions_agree_iff`); the decimal one is a value for which it does not
(`Context.not_coercions_agree`).
-/

namespace QueryClause

namespace Value

/-- The operand of a comparison with a column of an enumeration: a constant of the enumeration, if
it counts as a number. -/
def asMember (v : Value) (e : EnumType) : Value :=
  match v.asInt? with
  | some n => .enum e n
  | none => v

/-- The item of a list that is searched for a column of an enumeration: a constant of the
enumeration, if it is an integer. -/
def asListedMember (v : Value) (e : EnumType) : Value :=
  match v with
  | .int n => .enum e n
  | v => v

/-- What counts as a number is none of the floats that are no numbers. -/
theorem isFinite_of_asInt {x : Float} {n : Int64} (h : asInt? (.float x) = some n) :
    Binary64.isFinite x = true := by
  -- a number is whole, and only a finite one can be
  have hwhole : Binary64.isWhole x = true := by
    by_contra hfraction
    rw [asInt?, if_neg hfraction] at h
    cases h
  unfold Binary64.isWhole at hwhole
  unfold Binary64.isFinite
  split at hwhole
  · rfl
  · cases hwhole

end Value

namespace Target

variable {t : Target} {v : Value} {s : String}

/-- A constant of an enumeration is written as the name of its member. -/
theorem ownLiteral_enum (t : Target) (e : EnumType) (n : Int64) :
    t.ownLiteral (.enum e n) = t.dialect.quoteString (Value.enum e n).text := by
  obtain ⟨d, compact⟩ := t
  cases d <;> rfl

/-- So is an integer that is declared with the enumeration. -/
theorem literal_int_enum (t : Target) (e : EnumType) (n : Int64) :
    t.literal (.int n) (.enum e) = t.ownLiteral (.enum e n) := by
  rw [ownLiteral_enum]
  obtain ⟨d, compact⟩ := t
  cases d <;> rfl

theorem ownLiteral_of_common (hliteral : t.ownLiteral v = t.commonLiteral v v.hostType)
    (hmeaning : t.written v = meaning ⟨.generic, t.compactGuid⟩ v) (h : t.written v = .text s) :
    t.ownLiteral v = t.dialect.quoteString s := by
  rw [hmeaning] at h
  rw [hliteral, commonLiteral_hostType]
  cases v with
  | char | string | dateTime | guid | enum | list | object =>
    cases h
    rfl
  | _ => cases h

/-- What says a text is written as its literal. -/
theorem ownLiteral_of_written (h : t.written v = .text s) :
    t.ownLiteral v = t.dialect.quoteString s := by
  obtain ⟨d, compact⟩ := t
  cases d with
  -- most values are written in every dialect as in the generic one; the others one by one
  | generic => exact ownLiteral_of_common rfl rfl h
  | postgres => exact ownLiteral_of_common rfl (by cases v <;> rfl) h
  | mysql | sqlite =>
    cases v with
    | bool b => cases h
    | _ => exact ownLiteral_of_common rfl rfl h
  | sqlServer =>
    cases v with
    | bool b => cases h
    | dateTime i =>
      cases h
      rfl
    | _ => exact ownLiteral_of_common rfl rfl h
  | oracle =>
    cases v with
    | null => cases h
    | bool | float | decimal =>
      cases h
      rfl
    | dateTime i =>
      -- an instant is no text, whether it is cut or not
      simp only [written, cuts, meaning, instant, Bool.false_eq_true, if_false] at h
      split at h <;> cases h
    | guid g =>
      cases compact with
      | false => cases h
      | true =>
        cases h
        rfl
    | _ => exact ownLiteral_of_common rfl rfl h

/-- A value is written as the literal of a text if and only if its own literal says this text. -/
theorem ownLiteral_eq_quoteString_iff
    (hfinite : ∀ x, v = .float x → Binary64.isFinite x = true) :
    t.ownLiteral v = t.dialect.quoteString s ↔ t.written v = .text s := by
  refine ⟨fun h => ?_, ownLiteral_of_written⟩
  have hends : ∀ l : SqlLiteral, l.EndsBefore [] := by
    intro l
    cases l <;> simp [SqlLiteral.EndsBefore]
  -- the literal is read back, and a literal of a text as this text
  have hown := readLiteral?_ownLiteral (t := t) hfinite (hends _)
  rw [h, Dialect.readLiteral?_quoteString s (hends (.text s))] at hown
  exact (congrArg Prod.fst (Option.some.inj hown)).symm

/-- The two ways to bring a value to an enumeration write the same if and only if the value is an
integer, or no number, or its own literal says the name. -/
theorem ownLiteral_asMember_eq_iff (t : Target) (v : Value) (e : EnumType) :
    t.ownLiteral (v.asMember e) = t.ownLiteral (v.asListedMember e) ↔
      ∀ n, v.asInt? = some n →
        (∃ m, v = .int m) ∨ t.written v = .text (Value.enum e n).text := by
  cases hn : v.asInt? with
  | none =>
    have hlisted : v.asListedMember e = v := by
      cases v with
      | int m => cases hn
      | _ => rfl
    -- what counts as no number is left as it is in both ways
    simp [Value.asMember, hn, hlisted]
  | some n =>
    by_cases hint : ∃ m, v = .int m
    · obtain ⟨m, rfl⟩ := hint
      cases hn
      simp [Value.asMember, Value.asInt?, Value.asListedMember]
    · have hlisted : v.asListedMember e = v := by
        cases v with
        | int m => exact absurd ⟨m, rfl⟩ hint
        | _ => rfl
      -- any other number is a member in a comparison, and stands as it is in a list
      have hfinite : ∀ x, v = .float x → Binary64.isFinite x = true := by
        rintro x rfl
        exact Value.isFinite_of_asInt hn
      rw [Value.asMember, hn, hlisted, eq_comm]
      simp only [ownLiteral_enum, ownLiteral_eq_quoteString_iff hfinite, hint, false_or,
        Option.some.injEq, forall_eq']

end Target

namespace Context

variable {c : Context} {s : Search} {depth : Nat} {x y collection : Expr} {text : String}
  {e : EnumType} {v : Value}

theorem render_coerced (t : Target) :
    (c.coerced e v).render t = c.target.ownLiteral (v.asMember e) := by
  unfold coerced Value.asMember
  cases v.asInt? with
  | none => rfl
  | some n => exact (Target.ownLiteral_enum c.target e n).symm

theorem candidateText_eq :
    c.candidateText (some e) v = c.target.ownLiteral (v.asListedMember e) := by
  cases v with
  | int n => exact Target.literal_int_enum c.target e n
  | _ => rfl

/-- The operand beside a column of an enumeration. -/
theorem compileAt_equal_enum (hx : c.compileAt (depth + 1) x = .ok (.enumColumn text e))
    (hy : c.compileAt (depth + 1) y = .ok (.native v)) :
    c.compileAt depth (.binary .equal x y) =
      .ok (.sql (operatorText .equal text (c.target.ownLiteral (v.asMember e)))) := by
  rw [compileAt_operator rfl hx hy, ← render_coerced c.target]
  rfl

/-- The only item of a list beside a column of an enumeration. -/
theorem compileAt_search_enum (hs : s.Proper)
    (hx : c.compileAt (depth + 1) x = .ok (.enumColumn text e)) (hv : ∀ items, v ≠ .list items)
    (hcollection : c.fold collection = .ok (.list [v])) :
    c.compileAt depth (s.expr collection x) =
      .ok (.sql (text ++ " In (" ++ c.target.ownLiteral (v.asListedMember e) ++ ")")) := by
  have hdepth := (compileNode_of_compileAt hx).1
  -- a list as the only item would be searched instead
  have hitems : candidates (.list [v]) = [v] := by
    cases v with
    | list items => exact absurd rfl (hv items)
    | _ => rfl
  rw [compileAt_eq, if_neg (by omega), compileNode_search (Search.search?_expr hs)
    (Search.isQueryCall_expr hs), containment_eq, hx]
  simp only [bind, Except.bind, Fragment.isSql, if_true, hcollection, inList, hitems]
  rw [← candidateText_eq]
  rfl

/-- **Comparisons and lists agree on what is an integer or no number.**  Beside a column of an
enumeration, a value is written the same as the operand of an equality and as the item of a list,
if and only if it is an integer, or does not count as one, or its own literal says the name of the
member with its number. -/
theorem coercions_agree_iff (hs : s.Proper)
    (hx : c.compileAt (depth + 1) x = .ok (.enumColumn text e))
    (hy : c.compileAt (depth + 1) y = .ok (.native v)) (hv : ∀ items, v ≠ .list items)
    (hcollection : c.fold collection = .ok (.list [v])) :
    ∃ operand item,
      c.compileAt depth (.binary .equal x y) = .ok (.sql (operatorText .equal text operand)) ∧
      c.compileAt depth (s.expr collection x) = .ok (.sql (text ++ " In (" ++ item ++ ")")) ∧
      (operand = item ↔ ∀ n, v.asInt? = some n →
        (∃ m, v = .int m) ∨ c.target.written v = .text (Value.enum e n).text) :=
  ⟨c.target.ownLiteral (v.asMember e), c.target.ownLiteral (v.asListedMember e),
    compileAt_equal_enum hx hy, compileAt_search_enum hs hx hv hcollection,
    Target.ownLiteral_asMember_eq_iff c.target v e⟩

/-- The races of players. -/
def races : EnumType := ⟨"Race", [⟨"Elf", 1⟩, ⟨"Dwarf", 2⟩]⟩

/-- The race of a player. -/
def race : Expr :=
  .member (.parameter "p" (.entity "Players")) "Race" (some "Players") (.enum races)

theorem coercions_agree_iff_dwarf :
    let c := bare .sqlServer
    let s := Search.function (.object "Enumerable") .bool
    let dwarf := Value.enum races 2
    ∃ operand item,
      c.compileAt 0 (.binary .equal race (.ofValue dwarf)) =
        .ok (.sql (operatorText .equal "[Race]" operand)) ∧
      c.compileAt 0 (s.expr (.ofValue (.list [dwarf])) race) =
        .ok (.sql ("[Race]" ++ " In (" ++ item ++ ")")) ∧
      (operand = item ↔ ∀ n, dwarf.asInt? = some n →
        (∃ m, dwarf = .int m) ∨ c.target.written dwarf = .text (Value.enum races n).text) := by
  intro c s dwarf
  have hquoted : Identifier.quoteWith '[' ']' "Race" = "[Race]" := by decide
  have hrace : c.compileAt (0 + 1) race = .ok (.enumColumn "[Race]" races) := by
    rw [← hquoted, compileAt_column rfl (by decide : 0 + 1 ≤ Expr.defaultMaxDepth)]
    rfl
  exact coercions_agree_iff (s := s) rfl hrace (y := .ofValue dwarf) rfl (by simp [dwarf]) rfl

/-- The decimal one is an elf in a comparison, and a number in a list. -/
theorem not_coercions_agree :
    let c := bare .generic
    let one := Value.decimal ⟨false, 1, 0, by decide, by decide⟩
    let equality := Expr.binary .equal race (.ofValue one)
    let search := (Search.method (.list .decimal) .bool).expr (.ofValue (.list [one])) race
    c.sql equality = .ok "(Race = 'Elf')" ∧ c.sql search = .ok "Race In (1)" ∧
      ¬ ∃ written, c.sql equality = .ok (operatorText .equal "Race" written) ∧
        c.sql search = .ok ("Race" ++ " In (" ++ written ++ ")") := by
  intro c one equality search
  have hequality : c.sql equality = .ok "(Race = 'Elf')" :=
    Except.eq_ok_of_toOption (by decide)
  have hsearch : c.sql search = .ok ("Race" ++ " In (" ++ "1" ++ ")") :=
    Except.eq_ok_of_toOption (by decide)
  refine ⟨hequality, hsearch, ?_⟩
  rintro ⟨written, hoperand, hitem⟩
  have hone : "1" = written := by
    have htexts := Except.ok.inj (hsearch.symm.trans hitem)
    rwa [String.append_left_inj, String.append_right_inj] at htexts
  rw [hequality, ← hone] at hoperand
  exact absurd (Except.ok.inj hoperand) (by decide)

end Context

end QueryClause
