import EntityQuery.Proofs.Calendar.Instants
import EntityQuery.Proofs.Schema.Conformity
import EntityQuery.Value.Text

/-!
Points in time that are sent back. Literals may have years with a sign, and offsets lead into such
years as well; but the text that a point in time is written as is a literal only if its year has
four digits and no sign. Main statement: `returns_iff_hasPlainYear`.
-/

namespace EntityQuery.Literal

variable {t : FieldType} {text : String} {v : Value} {time : Instant}

lemma coerce_dateTime_eq_ok_iff (ht : t.kind = .dateTime) :
    coerce t (some text) = .ok v ↔
      ∃ time, v = .dateTime time ∧
        Calendar.readInstant (Text.trimChars text.toList) = some time := by
  rw [coerce_some_eq_ok_iff, ht, valueOf]
  cases Calendar.readInstant (Text.trimChars text.toList) <;> simp [eq_comm]

lemma coerce_dateTime_eq_error (ht : t.kind = .dateTime)
    (h : Calendar.readInstant (Text.trimChars text.toList) = none) :
    coerce t (some text) = .error (.invalidValue (some text) t.text .dateTime) := by
  rw [coerce, ht, valueOf, h]
  rfl

lemma readInstant_text (time : Instant) :
    Calendar.readInstant (Text.trimChars (time.text .shortest).toList) =
      if time.date.HasPlainYear then some time else none := by
  rw [Instant.text, String.toList_ofList, Text.trimChars_eq_self (time.hasNoBlank_toChars _),
    Calendar.readInstant_toChars]

/-- **A point in time that a literal stands for can be sent back** exactly if its year, in universal
time, has four digits and no sign: what it is written as is then accepted again and stands for the
same point, leap seconds and nanoseconds included. Otherwise it is refused. -/
theorem returns_iff_hasPlainYear (ht : t.kind = .dateTime) (h : coerce t (some text) = .ok v) :
    ∃ time, v = .dateTime time ∧ v.toJson = .string (time.text .shortest) ∧
      (coerce t (some (time.text .shortest)) = .ok v ↔ time.date.HasPlainYear) ∧
      (¬ time.date.HasPlainYear → coerce t (some (time.text .shortest)) =
        .error (.invalidValue (some (time.text .shortest)) t.text .dateTime)) := by
  obtain ⟨time, rfl, -⟩ := (coerce_dateTime_eq_ok_iff ht).1 h
  have hread := readInstant_text time
  refine ⟨time, rfl, rfl, ?_, fun hyear => ?_⟩
  · rw [coerce_dateTime_eq_ok_iff ht, hread]
    constructor
    · rintro ⟨time', -, hsome⟩
      by_contra hyear
      rw [if_neg hyear] at hsome
      cases hsome
    · intro hyear
      exact ⟨time, rfl, if_pos hyear⟩
  · rw [if_neg hyear] at hread
    exact coerce_dateTime_eq_error ht hread

/-- A quarter of a second into the leap second before 2017, as a clock one hour ahead shows it. -/
theorem returns_of_leap_second :
    let t : FieldType := .optional .dateTime
    let time : Instant :=
      ⟨⟨2016, 12, 31, by decide⟩, 86399, 1250000000, by decide, by decide, by decide⟩
    t.kind = .dateTime ∧ coerce t (some " 2017-01-01t00:59:60.2500+01:00") = .ok (.dateTime time) ∧
      time.text .shortest = "2016-12-31T23:59:60.250Z" ∧
      coerce t (some "2016-12-31T23:59:60.250Z") = .ok (.dateTime time) := by
  intro t time
  have accepted : coerce t (some " 2017-01-01t00:59:60.2500+01:00") = .ok (.dateTime time) :=
    (coerce_dateTime_eq_ok_iff rfl).2 ⟨time, rfl, by decide +kernel⟩
  have written : time.text .shortest = "2016-12-31T23:59:60.250Z" := by decide +kernel
  obtain ⟨time', same, -, returns, -⟩ := returns_iff_hasPlainYear rfl accepted
  obtain rfl : time = time' := Value.dateTime.inj same
  rw [written] at returns
  exact ⟨rfl, accepted, written, returns.2 (by decide)⟩

/-- Half an hour before the year 10000 on a clock that is one hour behind: the literal is accepted,
but what the point in time is written as is not. -/
theorem not_returns_of_year_10000 :
    let t : FieldType := .required .dateTime
    let time : Instant := ⟨⟨10000, 1, 1, by decide⟩, 1800, 0, by decide, by decide, by decide⟩
    coerce t (some "9999-12-31T23:30:00-01:00") = .ok (.dateTime time) ∧
      (Value.dateTime time).toJson = .string "+10000-01-01T00:30:00Z" ∧
      coerce t (some "+10000-01-01T00:30:00Z") =
        .error (.invalidValue (some "+10000-01-01T00:30:00Z") t.text .dateTime) := by
  intro t time
  exact ⟨(coerce_dateTime_eq_ok_iff rfl).2 ⟨time, rfl, by decide +kernel⟩,
    congrArg Json.string (by decide +kernel), coerce_dateTime_eq_error rfl (by decide +kernel)⟩

end EntityQuery.Literal
