import QueryClause.Eval.Method
import QueryClause.Proofs.Calendar.Notation

/-!
# What is printed reads back

`ToString` and `Parse` are opposite to each other on instants, up to the fraction of a millisecond,
which is not printed (`parse_toString_instant`).
-/

namespace QueryClause

theorem callMethod?_parse {fresh : Guid} {owner : HostType} {s : String} {v : Value}
    (h : parseText? owner.text s = some (.ok v)) :
    callMethod? fresh owner none "Parse" [.string s] = some (.ok v) := by
  rw [callMethod?, typeMethod?, h]
  rfl

/-- **The text of an instant reads back as the instant without what is less than a millisecond.**
The year may be any of the calendar and the instant may lie in a leap second. -/
theorem parse_toString_instant (fresh : Guid) (valueOwner : HostType) {owner : HostType}
    (howner : owner.text = "DateTime") (t : DateTime) :
    ∃ s, callMethod? fresh valueOwner (some (.dateTime t)) "ToString" [] = some (.ok (.string s)) ∧
      callMethod? fresh owner none "Parse" [.string s] = some (.ok (.dateTime t.wholeMillis)) := by
  have hparse : parseText? owner.text t.text = some (.ok (.dateTime t.wholeMillis)) := by
    rw [howner, parseText?, DateTime.parse?_text]
  exact ⟨t.text, rfl, callMethod?_parse hparse⟩

/-- Less than a millisecond after the earliest point. -/
def afterFirst : DateTime := ⟨Date.first, TimeOfDay.ofNanos 999999⟩

theorem parse_toString_instant_first :
    HostType.dateTime.text = "DateTime" ∧
    callMethod? .nil .dateTime (some (.dateTime afterFirst)) "ToString" [] =
      some (.ok (.string "-262143-01-01 00:00:00")) ∧
    callMethod? .nil .dateTime none "Parse" [.string "-262143-01-01 00:00:00"] =
      some (.ok (.dateTime .first)) := by
  have howner : HostType.dateTime.text = "DateTime" := rfl
  have htext : afterFirst.text = "-262143-01-01 00:00:00" := by decide
  have hprint : callMethod? .nil .dateTime (some (.dateTime afterFirst)) "ToString" [] =
      some (.ok (.string "-262143-01-01 00:00:00")) := by
    rw [← htext]
    rfl
  obtain ⟨s, hprint', hparse⟩ := parse_toString_instant .nil .dateTime howner afterFirst
  rw [hprint] at hprint'
  cases hprint'
  exact ⟨howner, hprint, hparse⟩

end QueryClause
