import QueryClause.Eval.Environment
import Mathlib.Data.List.Basic
import Mathlib.Data.List.Induction

/-!
# What is registered

An environment is made of registrations, one after the other (`Registration`).  They are kept under
dotted names, so a member or a function is found under the owner and the name that make up its
dotted name, whatever the owner and the name were that it was registered under: the last
registration with this dotted name counts (`Captures.get?_statics`, `Captures.get?_functions`).

Two different pairs of an owner and a name have one dotted name if and only if one of the names
goes on where the other owner stops (`Captures.key_eq_iff`), and then this name has a dot in it.
Among names without dots, registrations are never confused (`Captures.answers_registered`).
-/

namespace QueryClause

/-- One registration. -/
inductive Registration where
  | static (owner member : String) (v : Value)
  | function (owner method : String) (f : HostFunction)

namespace Registration

/-- The owner and the name that are registered. -/
def pair : Registration → String × String
  | static owner member _ => (owner, member)
  | function owner method _ => (owner, method)

/-- The value of the member that is registered, if its pair is accepted. -/
def static? (accepts : String × String → Bool) : Registration → Option Value
  | static owner member v => if accepts (owner, member) then some v else none
  | function .. => none

/-- The function that is registered, if its pair is accepted. -/
def function? (accepts : String × String → Bool) : Registration → Option HostFunction
  | static .. => none
  | function owner method f => if accepts (owner, method) then some f else none

variable {α : Type} {accepts accepts' : String × String → Bool} {r : Registration}
  {regs : List Registration}

/-- Of what is found in some registrations, the last one. -/
def last? (find? : Registration → Option α) (regs : List Registration) : Option α :=
  (regs.filterMap find?).getLast?

theorem last?_concat (find? : Registration → Option α) (regs : List Registration)
    (r : Registration) : last? find? (regs ++ [r]) = (find? r).or (last? find? regs) := by
  rw [last?, List.filterMap_append, List.getLast?_append]
  cases h : find? r <;> simp [h, last?]

theorem last?_congr {find? find?' : Registration → Option α} (h : ∀ r ∈ regs, find? r = find?' r) :
    last? find? regs = last? find?' regs :=
  congrArg List.getLast? (List.filterMap_congr h)

theorem static?_congr (h : accepts r.pair = accepts' r.pair) :
    r.static? accepts = r.static? accepts' := by
  cases r with
  | static _ _ v => exact congrArg (fun b : Bool => if b then some v else none) h
  | function => rfl

theorem function?_congr (h : accepts r.pair = accepts' r.pair) :
    r.function? accepts = r.function? accepts' := by
  cases r with
  | static => rfl
  | function _ _ f => exact congrArg (fun b : Bool => if b then some f else none) h

end Registration

namespace Captures

open Registration

/-! ### Dotted names -/

theorem toList_key (owner member : String) :
    (key owner member).toList = owner.toList ++ '.' :: member.toList := by
  simp [key]

/-- A dotted name that can be split at another dot. -/
theorem key_key (owner inner member : String) :
    key (key owner inner) member = key owner (key inner member) := by
  simp [key, String.append_assoc]

/-- Where an owner goes on after another one, it goes on with a dot and the start of the name. -/
theorem key_of_append {o m o' m' : String} {between : List Char}
    (howner : o.toList = o'.toList ++ between)
    (hname : '.' :: m'.toList = between ++ '.' :: m.toList) :
    (o', m') = (o, m) ∨ ∃ x, o = key o' x ∧ m' = key x m := by
  cases between with
  | nil =>
    rw [List.append_nil] at howner
    rw [String.toList_inj.1 howner, String.toList_inj.1 (List.cons.inj hname).2]
    exact .inl rfl
  | cons c x =>
    obtain ⟨rfl, hm'⟩ := List.cons.inj hname
    refine .inr ⟨String.ofList x, String.toList_inj.1 ?_, String.toList_inj.1 ?_⟩
    · rw [toList_key, String.toList_ofList, howner]
    · rw [toList_key, String.toList_ofList, hm']
      rfl

/-- Two pairs of an owner and a name have one dotted name if and only if they are the same or one of
the names goes on where the other owner stops. -/
theorem key_eq_iff {o m o' m' : String} :
    key o' m' = key o m ↔
      (o', m') = (o, m) ∨ (∃ x, o = key o' x ∧ m' = key x m) ∨
        ∃ x, o' = key o x ∧ m = key x m' := by
  constructor
  · intro h
    have hchars := congrArg String.toList h
    rw [toList_key, toList_key, List.append_eq_append_iff] at hchars
    rcases hchars with ⟨between, howner, hname⟩ | ⟨between, howner, hname⟩
    · exact (key_of_append howner hname).imp_right .inl
    · exact (key_of_append howner hname).imp Eq.symm .inr
  · rintro (h | ⟨x, rfl, rfl⟩ | ⟨x, rfl, rfl⟩)
    · obtain ⟨rfl, rfl⟩ := Prod.mk.inj h
      rfl
    · exact (key_key o' x m).symm
    · exact key_key o x m'

/-- A name without a dot is the part of a dotted name behind its last dot. -/
theorem key_inj {o m o' m' : String} (hm : '.' ∉ m.toList) (hm' : '.' ∉ m'.toList) :
    key o' m' = key o m ↔ (o', m') = (o, m) := by
  rw [key_eq_iff]
  refine ⟨?_, .inl⟩
  rintro (h | ⟨x, -, rfl⟩ | ⟨x, -, rfl⟩)
  · exact h
  · exact absurd (by simp [toList_key]) hm'
  · exact absurd (by simp [toList_key]) hm

/-! ### Runs of registrations -/

/-- Make a registration. -/
def register (c : Captures) : Registration → Captures
  | .static owner member v => c.withStatic owner member v
  | .function owner method f => c.withFunction owner method f

/-- What is registered after some registrations. -/
def ofRegistrations (regs : List Registration) : Captures := regs.foldl register empty

theorem ofRegistrations_concat (regs : List Registration) (r : Registration) :
    ofRegistrations (regs ++ [r]) = (ofRegistrations regs).register r := by
  simp [ofRegistrations]

/-- Whether a pair of an owner and a name has a dotted name. -/
def hasKey (name : String) (p : String × String) : Bool := key p.1 p.2 = name

variable {name : String} {regs : List Registration} {r : Registration}

/-- One more member is found under its dotted name. -/
theorem get?_statics_register (c : Captures) :
    (c.register r).statics.get? name = (r.static? (hasKey name)).or (c.statics.get? name) := by
  cases r with
  | function => rfl
  | static owner member v =>
    refine (Dict.get?_alter ..).trans ?_
    by_cases h : key owner member = name
    · simp [static?, hasKey, h]
    · simp [static?, hasKey, h, Ne.symm h]

/-- One more function is found under its dotted name. -/
theorem get?_functions_register (c : Captures) :
    (c.register r).functions.get? name =
      (r.function? (hasKey name)).or (c.functions.get? name) := by
  cases r with
  | static => rfl
  | function owner method f =>
    refine (Dict.get?_alter ..).trans ?_
    by_cases h : key owner method = name
    · simp [function?, hasKey, h]
    · simp [function?, hasKey, h, Ne.symm h]

theorem get?_statics (regs : List Registration) :
    (ofRegistrations regs).statics.get? name = last? (static? (hasKey name)) regs := by
  induction regs using List.reverseRecOn with
  | nil => rfl
  | append_singleton regs r ih =>
    rw [ofRegistrations_concat, get?_statics_register, last?_concat, ih]

theorem get?_functions (regs : List Registration) :
    (ofRegistrations regs).functions.get? name = last? (function? (hasKey name)) regs := by
  induction regs using List.reverseRecOn with
  | nil => rfl
  | append_singleton regs r ih =>
    rw [ofRegistrations_concat, get?_functions_register, last?_concat, ih]

/-! ### Answers -/

/-- The environment of some registrations. -/
def registered (regs : List Registration) (fresh : Guid) : Environment :=
  (ofRegistrations regs).environment fresh

/-- For an owner and a name, an environment answers with what some registrations register last
under a pair that is accepted. -/
structure Answers (env : Environment) (regs : List Registration)
    (accepts : String × String → Bool) (o m : String) : Prop where
  static : env.staticMember o m = (last? (static? accepts) regs).map .ok
  function (owner : HostType) (howner : owner.text = o) (target : Option Value)
    (args : List Value) :
    env.callMethod owner target m args =
      (last? (function? accepts) regs).map fun f => f target args

/-- Two environments give the same answers for an owner and a name. -/
structure SameAnswers (env env' : Environment) (o m : String) : Prop where
  static : env.staticMember o m = env'.staticMember o m
  function (owner : HostType) (howner : owner.text = o) (target : Option Value)
    (args : List Value) : env.callMethod owner target m args = env'.callMethod owner target m args

variable {fresh : Guid} {o m : String}

/-- The answers come from the last registration under the dotted name. -/
theorem answers_hasKey (regs : List Registration) (fresh : Guid) (o m : String) :
    Answers (registered regs fresh) regs (hasKey (key o m)) o m where
  static := by rw [← get?_statics]; rfl
  function owner howner target args := by rw [← get?_functions, ← howner]; rfl

/-- If no other pair has the dotted name, the answers are from the last registration of the pair. -/
theorem answers_pair (fresh : Guid)
    (h : ∀ r ∈ regs, hasKey (key o m) r.pair = true → r.pair = (o, m)) :
    Answers (registered regs fresh) regs (· = (o, m)) o m := by
  have hpair : ∀ r ∈ regs, hasKey (key o m) r.pair = decide (r.pair = (o, m)) := by
    intro r hr
    rw [Bool.eq_iff_iff, decide_eq_true_iff]
    refine ⟨h r hr, fun hp => ?_⟩
    rw [hp, hasKey, decide_eq_true_iff]
  obtain ⟨hstatic, hfunction⟩ := answers_hasKey regs fresh o m
  constructor
  · rw [hstatic]
    exact congrArg _ (last?_congr fun r hr => static?_congr (hpair r hr))
  · intro owner howner target args
    rw [hfunction owner howner]
    exact congrArg _ (last?_congr fun r hr => function?_congr (hpair r hr))

/-- A registration under another dotted name changes no answer. -/
theorem sameAnswers_register (regs : List Registration) (fresh : Guid)
    (h : hasKey (key o m) r.pair = false) :
    SameAnswers (registered (regs ++ [r]) fresh) (registered regs fresh) o m := by
  obtain ⟨hstatic, hfunction⟩ := answers_hasKey regs fresh o m
  obtain ⟨hstatic', hfunction'⟩ := answers_hasKey (regs ++ [r]) fresh o m
  constructor
  · rw [hstatic, hstatic', last?_concat]
    cases r <;> simp_all [static?, pair]
  · intro owner howner target args
    rw [hfunction owner howner, hfunction' owner howner, last?_concat]
    cases r <;> simp_all [function?, pair]

/-- **Registrations are told apart by their dotted names.**  For an owner and a name, an environment
answers with what is registered last under their dotted name, and a registration under another one
changes no answer.  Where no other registered pair has the dotted name, this is what is registered
last for the very owner and the very name.  Another pair has it if and only if one of the names goes
on where the other owner stops; so no two pairs share a dotted name whose names have no dot. -/
theorem answers_registered (regs : List Registration) (fresh : Guid) (o m : String) :
    Answers (registered regs fresh) regs (hasKey (key o m)) o m ∧
    ((∀ r ∈ regs, hasKey (key o m) r.pair = true → r.pair = (o, m)) →
      Answers (registered regs fresh) regs (· = (o, m)) o m) ∧
    (∀ r : Registration, hasKey (key o m) r.pair = false →
      SameAnswers (registered (regs ++ [r]) fresh) (registered regs fresh) o m) ∧
    ∀ o' m', (key o' m' = key o m ↔ (o', m') = (o, m) ∨ (∃ x, o = key o' x ∧ m' = key x m) ∨
        ∃ x, o' = key o x ∧ m = key x m') ∧
      ('.' ∉ m.toList → '.' ∉ m'.toList → (key o' m' = key o m ↔ (o', m') = (o, m))) :=
  ⟨answers_hasKey regs fresh o m, answers_pair fresh, fun _ h => sameAnswers_register regs fresh h,
    fun _ _ => ⟨key_eq_iff, key_inj⟩⟩

theorem answers_registered_twice :
    let regs : List Registration :=
      [.static "A.B" "C" (.int 1), .static "A" "B" (.int 3), .static "A.B" "C" (.int 2)]
    let r : Registration := .static "A" "B.D" (.int 4)
    (∀ r ∈ regs, hasKey (key "A.B" "C") r.pair = true → r.pair = ("A.B", "C")) ∧
    hasKey (key "A.B" "C") r.pair = false ∧
    '.' ∉ "C".toList ∧
    (registered regs .nil).staticMember "A.B" "C" = some (.ok (.int 2)) ∧
    (registered (regs ++ [r]) .nil).staticMember "A.B" "C" = some (.ok (.int 2)) ∧
    key "A" "C" ≠ key "A.B" "C" := by
  intro regs r
  have hpairs : ∀ r ∈ regs, hasKey (key "A.B" "C") r.pair = true → r.pair = ("A.B", "C") := by
    simp only [regs, List.forall_mem_cons, pair]
    decide
  have hother : hasKey (key "A.B" "C") r.pair = false := by decide
  have hdots : '.' ∉ "C".toList := by decide
  obtain ⟨-, hpair, hsame, hnames⟩ := answers_registered regs .nil "A.B" "C"
  have hlast : (registered regs .nil).staticMember "A.B" "C" = some (.ok (.int 2)) :=
    (hpair hpairs).static
  refine ⟨hpairs, hother, hdots, hlast, (hsame r hother).static.trans hlast, ?_⟩
  rw [Ne, (hnames "A" "C").2 hdots hdots]
  decide

/-- A member of `A.B` is found as a member of `A`. -/
theorem not_answers_pair :
    let r : Registration := .static "A.B" "C" (.int 1)
    r.pair ≠ ("A", "B.C") ∧
    (registered [r] .nil).staticMember "A" "B.C" = some (.ok (.int 1)) ∧
    last? (static? (· = ("A", "B.C"))) [r] = none ∧
    ¬ Answers (registered [r] .nil) [r] (· = ("A", "B.C")) "A" "B.C" := by
  intro r
  have hfound : (registered [r] .nil).staticMember "A" "B.C" = some (.ok (.int 1)) := by
    rw [(answers_hasKey [r] .nil "A" "B.C").static]
    have hkey : hasKey (key "A" "B.C") ("A.B", "C") = true := by decide
    simp [r, last?, static?, hkey]
  refine ⟨by decide, hfound, rfl, fun h => ?_⟩
  rw [h.static] at hfound
  cases hfound

end Captures

end QueryClause
