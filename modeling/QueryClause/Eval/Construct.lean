import QueryClause.Eval.Convert
import QueryClause.Number.Power

/-!
# Built-in constructors

`constructValue?` makes a value of a type from arguments, and is `none` for a type that only the
environment can construct.
-/

namespace QueryClause

/-- The instant with the given year, month, day, hour, minute, second and millisecond; those after
the day may be missing.  The year needs 32 bits, and of the others the low 32 bits count. -/
def dateTimeOfParts? (parts : List Int64) : Option DateTime :=
  let part (i : Nat) : Int := (parts.getD i 0).toInt
  let low (i : Nat) : Nat := (part i % twoTo 32).toNat
  if part 0 < -twoTo 31 || twoTo 31 ≤ part 0 then none
  else
    match Date.ofCivil? ⟨part 0, low 1, low 2⟩ with
    | none => none
    | some date =>
      (TimeOfDay.ofParts? (low 3) (low 4) (low 5) (low 6 * 1000000)).map fun time => ⟨date, time⟩

/-- The number of seconds in days, hours, minutes and seconds. -/
def secondsOf (d h m s : Int64) : Int64 := ((d * 24 + h) * 60 + m) * 60 + s

/-- The span with the given parts: ticks alone, or time parts up to milliseconds. -/
def timeSpanOfParts? : List Int64 → Option TimeSpan
  | [t] => some ⟨t⟩
  | [h, m, s] => some ⟨secondsOf 0 h m s * TimeSpan.ticksPerSecond⟩
  | [d, h, m, s] => some ⟨secondsOf d h m s * TimeSpan.ticksPerSecond⟩
  | [d, h, m, s, ms] =>
    some ⟨secondsOf d h m s * TimeSpan.ticksPerSecond + ms * TimeSpan.ticksPerMillisecond⟩
  | _ => none

/-- Give names to values; those beyond the last name are numbered, and `i` counts from zero. -/
def nameFields (members : List String) (i : Nat) : List Value → List (String × Value)
  | [] => []
  | v :: rest =>
    (members.getD i ("Item" ++ Text.ofNat (i + 1)), v) :: nameFields members (i + 1) rest

/-- Construct a value of a type. -/
def constructValue? (type : HostType) (members : List String) (args : List Value) :
    Option (Except EvalError Value) :=
  let invalid (fault : ArgumentFault) : Except EvalError Value :=
    .error (.invalidArgument (.inNew type fault))
  match type.underlying with
  | .dateTime => (args.mapM Value.asInt?).map fun parts =>
    if parts.length = 3 || parts.length = 6 || parts.length = 7 then
      match dateTimeOfParts? parts with
      | some t => .ok (.dateTime t)
      | none => invalid .dateTimeRange
    else invalid .dateTimeCount
  | .timeSpan => (args.mapM Value.asInt?).map fun parts =>
    match timeSpanOfParts? parts with
    | some s => .ok (.timeSpan s)
    | none => invalid .timeSpanCount
  | .guid => some (match args with
    | [.string s] => match Guid.ofText? s with
      | some g => .ok (.guid g)
      | none => invalid .malformedGuid
    | [] => .ok (.guid Guid.nil)
    | _ => invalid .notString)
  | .decimal => match args with
    | [v] => some (v.convert .decimal)
    | _ => none
  | .string => match args with
    | [.char c, n] => some (match n.asInt? with
      | some n =>
        if n < 0 then invalid .repeatCount
        else .ok (.string (String.ofList (List.replicate n.toNatClampNeg c)))
      | none => invalid .repeatCount)
    | _ => none
  | .list _ | .array _ => some (match args with
    | [] => .ok (.list [])
    | [.list items] => .ok (.list items)
    -- an expected size
    | [.int _] => .ok (.list [])
    | _ => invalid .notCollection)
  | .entity name | .object name => some (.ok (.object name (nameFields members 0 args)))
  | _ => none

end QueryClause
