import ClusterUpgrade.Time.Instant

/-!
The order of instants. Main statements: `addMinutes_not_isBefore` and `isBefore_addMinutes_iff`. To
wait before adding some minutes leads to a later instant, or the same, so whatever is due within a
time span from an instant is due within the same span from every later one. An instant is due within
a span if fewer nanoseconds than the span has lie between. Leap seconds are the exception.
-/

namespace ClusterUpgrade

namespace Date

/-- Strictly earlier on the calendar. -/
def Precedes (first second : Date) : Prop :=
  first.year < second.year ∨ first.year = second.year ∧
    (first.month < second.month ∨ first.month = second.month ∧ first.day < second.day)

variable {date other next previous : Date}

theorem eq_iff :
    date = other ↔ date.year = other.year ∧ date.month = other.month ∧ date.day = other.day := by
  rw [Date.mk.injEq]

theorem Precedes.trans (hfirst : date.Precedes next) (hsecond : next.Precedes other) :
    date.Precedes other := by
  unfold Precedes at *
  omega

theorem not_precedes_iff : ¬other.Precedes date ↔ date = other ∨ date.Precedes other := by
  rw [eq_iff]
  unfold Precedes
  omega

theorem precedes_of_next? (hnext : date.next? = some next) : date.Precedes next := by
  unfold next? at hnext
  unfold Precedes
  split at hnext
  · cases hnext
    dsimp only
    omega
  · split at hnext
    · cases hnext
      dsimp only
      omega
    · split at hnext
      · cases hnext
        dsimp only
        omega
      · cases hnext

/-- Where a day of the calendar comes behind a date, the date has a next day, which is not behind that
day. -/
theorem exists_next?_of_precedes (hother : other.IsValid) (h : date.Precedes other) :
    ∃ next, date.next? = some next ∧ ¬other.Precedes next := by
  obtain ⟨-, hyears, hmonth, hmonths, hday, hdays⟩ := hother
  -- In the month of the later day, the earlier one cannot be the last.
  have hsameMonth : date.year = other.year → date.month = other.month →
      date.day < daysInMonth date.year date.month := by
    intro hyear hmonth
    unfold Precedes at h
    rw [hyear, hmonth]
    omega
  unfold Precedes at h
  unfold next? Precedes
  by_cases hlastDay : date.day < daysInMonth date.year date.month
  · rw [if_pos hlastDay]
    refine ⟨_, rfl, ?_⟩
    dsimp only
    omega
  · rw [if_neg hlastDay]
    by_cases hlastMonth : date.month < 12
    · rw [if_pos hlastMonth]
      refine ⟨_, rfl, ?_⟩
      dsimp only
      omega
    · have hlastYear : date.year < maxYear := by omega
      rw [if_neg hlastMonth, if_pos hlastYear]
      refine ⟨_, rfl, ?_⟩
      dsimp only
      omega

/-! ### Neighbours -/

theorem daysInMonth_bounds (year : Int) (month : Nat) :
    1 ≤ daysInMonth year month ∧ daysInMonth year month ≤ 31 := by
  unfold daysInMonth
  split <;> split <;> omega

theorem isValid_of_next? (h : date.IsValid) (hnext : date.next? = some next) : next.IsValid := by
  unfold IsValid at *
  unfold next? at hnext
  split at hnext
  · cases hnext
    dsimp only
    omega
  · split at hnext
    · cases hnext
      have hdays := daysInMonth_bounds date.year (date.month + 1)
      dsimp only
      omega
    · split at hnext
      · cases hnext
        have hdays := daysInMonth_bounds (date.year + 1) 1
        dsimp only
        omega
      · cases hnext

theorem isValid_of_previous? (h : date.IsValid) (hprevious : date.previous? = some previous) :
    previous.IsValid := by
  unfold IsValid at *
  unfold previous? at hprevious
  split at hprevious
  · cases hprevious
    dsimp only
    omega
  · split at hprevious
    · cases hprevious
      have hdays := daysInMonth_bounds date.year (date.month - 1)
      dsimp only
      omega
    · split at hprevious
      · cases hprevious
        have hdecember : daysInMonth (date.year - 1) 12 = 31 := rfl
        dsimp only
        omega
      · cases hprevious

/-! ### Days

The days of the calendar are numbered one after the other from the beginning of the year 1 on, and
numbers are ordered as days are. -/

/-- The days from the beginning of the year 1 to that of a year: 365 for each year between, and one
for each leap year. -/
def daysBeforeYear (year : Int) : Int :=
  365 * (year - 1) + (year - 1) / 4 - (year - 1) / 100 + (year - 1) / 400

/-- The days of a year before a month. -/
def daysBeforeMonth (year : Int) : Nat → Nat
  | 0 | 1 => 0
  | month + 2 => daysBeforeMonth year (month + 1) + daysInMonth year (month + 1)

def dayNumber (date : Date) : Int :=
  daysBeforeYear date.year + daysBeforeMonth date.year date.month + date.day

example : dayNumber { year := 1970, month := 1, day := 1 } = 719163 := by decide

theorem daysBeforeMonth_succ (year : Int) {month : Nat} (h : 1 ≤ month) :
    daysBeforeMonth year (month + 1) = daysBeforeMonth year month + daysInMonth year month := by
  obtain ⟨before, rfl⟩ := Nat.exists_eq_add_of_le' h
  rfl

theorem daysBeforeMonth_le (year : Int) {first second : Nat} (hfirst : 1 ≤ first)
    (h : first ≤ second) : daysBeforeMonth year first ≤ daysBeforeMonth year second := by
  induction h with
  | refl => exact Nat.le_refl _
  | step hmonth ih =>
    rw [daysBeforeMonth_succ year (Nat.le_trans hfirst hmonth)]
    exact Nat.le_add_right_of_le ih

/-- The days of a whole year. -/
theorem daysBeforeYear_succ (year : Int) :
    daysBeforeYear (year + 1) = daysBeforeYear year + daysBeforeMonth year 13 := by
  have hmonths : daysBeforeMonth year 13 = if isLeapYear year then 366 else 365 := by
    have hfebruary : daysInMonth year 2 = if isLeapYear year then 29 else 28 := rfl
    have hsum : daysBeforeMonth year 13 = 337 + daysInMonth year 2 := by
      simp [daysBeforeMonth, daysInMonth]
      omega
    rw [hsum, hfebruary]
    split <;> rfl
  rw [hmonths, isLeapYear]
  unfold daysBeforeYear
  split
  · next hleap =>
    simp only [Bool.and_eq_true, Bool.or_eq_true, beq_iff_eq, bne_iff_ne] at hleap
    omega
  · next hcommon =>
    simp only [Bool.and_eq_true, Bool.or_eq_true, beq_iff_eq, bne_iff_ne] at hcommon
    omega

theorem daysBeforeYear_le {first second : Int} (h : first ≤ second) :
    daysBeforeYear first ≤ daysBeforeYear second := by
  unfold daysBeforeYear
  omega

theorem dayNumber_of_next? (hvalid : date.IsValid) (hnext : date.next? = some next) :
    next.dayNumber = date.dayNumber + 1 := by
  obtain ⟨-, -, hmonth, hmonths, -, hdays⟩ := hvalid
  unfold next? at hnext
  unfold dayNumber
  split at hnext
  · cases hnext
    push_cast
    omega
  · have hlastDay : date.day = daysInMonth date.year date.month := by omega
    have hsucc := daysBeforeMonth_succ date.year hmonth
    split at hnext
    · cases hnext
      dsimp only
      omega
    · have hlastMonth : date.month = 12 := by omega
      have hyear := daysBeforeYear_succ date.year
      have hfirst (year : Int) : daysBeforeMonth year 1 = 0 := rfl
      rw [hlastMonth] at hsucc hlastDay ⊢
      split at hnext
      · cases hnext
        dsimp only at *
        rw [hfirst, hyear, hsucc]
        omega
      · cases hnext

/-- A day lies among the days of its month, and that month among those of its year. -/
theorem dayNumber_bounds (hvalid : date.IsValid) :
    daysBeforeYear date.year + daysBeforeMonth date.year date.month < date.dayNumber ∧
      date.dayNumber ≤ daysBeforeYear date.year + daysBeforeMonth date.year (date.month + 1) ∧
      date.dayNumber ≤ daysBeforeYear (date.year + 1) := by
  obtain ⟨-, -, hmonth, hmonths, hday, hdays⟩ := hvalid
  have hsucc := daysBeforeMonth_succ date.year hmonth
  have hwithin : daysBeforeMonth date.year (date.month + 1) ≤ daysBeforeMonth date.year 13 :=
    daysBeforeMonth_le date.year (by omega) (by omega)
  rw [daysBeforeYear_succ]
  unfold dayNumber
  omega

theorem Precedes.dayNumber_lt (h : date.Precedes other) (hdate : date.IsValid)
    (hother : other.IsValid) : date.dayNumber < other.dayNumber := by
  obtain ⟨-, hmonthEnd, hyearEnd⟩ := dayNumber_bounds hdate
  obtain ⟨hbegin, -, -⟩ := dayNumber_bounds hother
  rcases h with hyear | ⟨hyear, hmonth | ⟨hmonth, hday⟩⟩
  · have hyears : daysBeforeYear (date.year + 1) ≤ daysBeforeYear other.year :=
      daysBeforeYear_le hyear
    omega
  · have hmonths : daysBeforeMonth other.year (date.month + 1) ≤
        daysBeforeMonth other.year other.month := daysBeforeMonth_le other.year (by omega) hmonth
    rw [hyear] at hmonthEnd
    omega
  · unfold dayNumber
    rw [hyear, hmonth]
    omega

theorem precedes_iff_dayNumber (hdate : date.IsValid) (hother : other.IsValid) :
    date.Precedes other ↔ date.dayNumber < other.dayNumber := by
  refine ⟨fun h => h.dayNumber_lt hdate hother, fun h => ?_⟩
  rcases Classical.em (other.Precedes date) with hbehind | hnot
  · have hlater := hbehind.dayNumber_lt hother hdate
    omega
  · refine (not_precedes_iff.mp hnot).resolve_left ?_
    rintro rfl
    omega

theorem eq_iff_dayNumber (hdate : date.IsValid) (hother : other.IsValid) :
    date = other ↔ date.dayNumber = other.dayNumber := by
  refine ⟨congrArg dayNumber, fun h => ?_⟩
  have hnot : ¬other.Precedes date := fun hbehind => by
    have hlater := hbehind.dayNumber_lt hother hdate
    omega
  refine (not_precedes_iff.mp hnot).resolve_right fun hbefore => ?_
  have hlater := hbefore.dayNumber_lt hdate hother
  omega

end Date

namespace Instant

variable {first second third now time : Instant}

theorem isBefore_iff :
    first.isBefore second = true ↔
      first.date.Precedes second.date ∨ first.date = second.date ∧
        (first.minuteOfDay < second.minuteOfDay ∨ first.minuteOfDay = second.minuteOfDay ∧
          (first.second < second.second ∨ first.second = second.second ∧
            first.nanosecond < second.nanosecond)) := by
  unfold isBefore fields Date.Precedes
  simp only [decide_eq_true_eq, List.cons_lt_cons_iff, List.not_lt_nil, and_false, or_false]
  rw [Date.eq_iff]
  omega

theorem shiftMinutes?_eq {instant : Instant} {minutes : Nat} :
    instant.shiftMinutes? minutes =
      if instant.minuteOfDay + minutes < minutesPerDay then
        some { instant with minuteOfDay := instant.minuteOfDay + minutes }
      else
        instant.date.next?.map fun next =>
          { instant with
            date := next, minuteOfDay := instant.minuteOfDay + minutes - minutesPerDay } := by
  have hforward : ¬(instant.minuteOfDay : Int) + minutes < 0 := by omega
  unfold shiftMinutes?
  rw [if_neg hforward]
  by_cases hday : instant.minuteOfDay + minutes < minutesPerDay
  · have hshifted : (instant.minuteOfDay : Int) + minutes < minutesPerDay := by omega
    rw [if_pos hday, if_pos hshifted]
    rfl
  · have hshifted : ¬(instant.minuteOfDay : Int) + minutes < minutesPerDay := by omega
    have hminute : ((instant.minuteOfDay : Int) + minutes - minutesPerDay).toNat =
        instant.minuteOfDay + minutes - minutesPerDay := by omega
    rw [if_neg hday, if_neg hshifted, hminute]
    cases instant.date.next? <;> rfl

theorem not_isBefore_iff :
    ¬time.isBefore now = true ↔
      now.date.Precedes time.date ∨ now.date = time.date ∧
        (now.minuteOfDay < time.minuteOfDay ∨ now.minuteOfDay = time.minuteOfDay ∧
          (now.second < time.second ∨ now.second = time.second ∧
            now.nanosecond ≤ time.nanosecond)) := by
  rw [isBefore_iff, Date.eq_iff, Date.eq_iff]
  unfold Date.Precedes
  omega

theorem isBefore_of_not_isBefore (h : first.isBefore second = true)
    (hthird : ¬third.isBefore second = true) : first.isBefore third = true := by
  unfold isBefore at *
  rw [decide_eq_true_eq] at *
  refine Decidable.byContradiction fun hlate => hthird ?_
  exact List.lt_of_le_of_lt (List.not_lt.mp hlate) h

/-- **Time spans end in the order in which they begin.** -/
theorem addMinutes_not_isBefore {minutes : Nat} (hnow : now.minuteOfDay < minutesPerDay)
    (htime : time.date.IsValid) (hleap : time.second ≤ 59)
    (hend : (time.shiftMinutes? minutes).isSome = true) (h : ¬time.isBefore now = true) :
    ¬(time.addMinutes minutes).isBefore (now.addMinutes minutes) = true := by
  rw [not_isBefore_iff] at h ⊢
  unfold addMinutes
  rw [shiftMinutes?_eq] at hend
  rw [shiftMinutes?_eq, shiftMinutes?_eq]
  -- The cases are whether each of the two spans reaches the next day.
  by_cases hnowDay : now.minuteOfDay + minutes < minutesPerDay
  · rw [if_pos hnowDay]
    by_cases htimeDay : time.minuteOfDay + minutes < minutesPerDay
    · rw [if_pos htimeDay]
      dsimp only [Option.map_some, Option.getD_some]
      refine h.imp_right fun ⟨hdate, hminute⟩ => ⟨hdate, ?_⟩
      omega
    · rw [if_neg htimeDay] at hend ⊢
      obtain ⟨next, hnext⟩ := Option.isSome_iff_exists.mp (Option.isSome_map.symm.trans hend)
      have hbehind := Date.precedes_of_next? hnext
      rw [hnext]
      dsimp only [Option.map_some, Option.getD_some]
      rcases h with hdate | ⟨hdate, -⟩
      · exact .inl (hdate.trans hbehind)
      · exact .inl (hdate ▸ hbehind)
  · rw [if_neg hnowDay]
    rcases h with hdate | ⟨hdate, hminute⟩
    · obtain ⟨nowNext, hnowNext, hnotBehind⟩ := Date.exists_next?_of_precedes htime hdate
      rw [hnowNext]
      by_cases htimeDay : time.minuteOfDay + minutes < minutesPerDay
      · rw [if_pos htimeDay]
        dsimp only [Option.map_some, Option.getD_some]
        refine (Date.not_precedes_iff.mp hnotBehind).symm.imp_right fun heq => ⟨heq, ?_⟩
        omega
      · rw [if_neg htimeDay] at hend ⊢
        obtain ⟨next, hnext⟩ := Option.isSome_iff_exists.mp (Option.isSome_map.symm.trans hend)
        have hbehind := Date.precedes_of_next? hnext
        rw [hnext]
        dsimp only [Option.map_some, Option.getD_some]
        rcases Date.not_precedes_iff.mp hnotBehind with rfl | hnotLater
        · exact .inl hbehind
        · exact .inl (hnotLater.trans hbehind)
    · have htimeDay : ¬time.minuteOfDay + minutes < minutesPerDay := by omega
      rw [if_neg htimeDay] at hend ⊢
      obtain ⟨next, hnext⟩ := Option.isSome_iff_exists.mp (Option.isSome_map.symm.trans hend)
      rw [hdate, hnext]
      dsimp only [Option.map_some, Option.getD_some]
      refine .inr ⟨rfl, ?_⟩
      omega

/-! ### Time spans in nanoseconds -/

/-- The minutes before an instant from the beginning of the numbered days on. -/
def minuteNumber (instant : Instant) : Int :=
  instant.date.dayNumber * minutesPerDay + instant.minuteOfDay

/-- The nanoseconds before an instant. All minutes have as many, those with leap seconds too. -/
def nanoseconds (instant : Instant) : Int :=
  (instant.minuteNumber * 60 + instant.second) * 1000000000 + instant.nanosecond

theorem isBefore_iff_nanoseconds (hfirst : first.IsValid) (hsecond : second.IsValid)
    (hfirstLeap : first.second ≤ 59) (hsecondLeap : second.second ≤ 59) :
    first.isBefore second = true ↔ first.nanoseconds < second.nanoseconds := by
  obtain ⟨hfirstDate, hfirstMinute, -, hfirstNano⟩ := hfirst
  obtain ⟨hsecondDate, hsecondMinute, -, hsecondNano⟩ := hsecond
  rw [isBefore_iff, Date.precedes_iff_dayNumber hfirstDate hsecondDate,
    Date.eq_iff_dayNumber hfirstDate hsecondDate]
  unfold nanoseconds minuteNumber
  unfold minutesPerDay at *
  omega

/-- **Minutes are added**, unless the calendar ends before. -/
theorem nanoseconds_addMinutes {minutes : Nat} (hvalid : now.IsValid) (hleap : now.second ≤ 59)
    (hend : (now.shiftMinutes? minutes).isSome = true) :
    (now.addMinutes minutes).nanoseconds = now.nanoseconds + minutes * 60 * 1000000000 := by
  have hsecond : min now.second 59 = now.second := Nat.min_eq_left hleap
  unfold addMinutes
  rw [shiftMinutes?_eq] at hend ⊢
  by_cases hday : now.minuteOfDay + minutes < minutesPerDay
  · rw [if_pos hday]
    dsimp only [Option.map_some, Option.getD_some, nanoseconds, minuteNumber]
    rw [hsecond]
    unfold minutesPerDay
    omega
  · rw [if_neg hday] at hend ⊢
    obtain ⟨next, hnext⟩ := Option.isSome_iff_exists.mp (Option.isSome_map.symm.trans hend)
    rw [hnext]
    dsimp only [Option.map_some, Option.getD_some, nanoseconds, minuteNumber]
    rw [hsecond, Date.dayNumber_of_next? hvalid.1 hnext]
    unfold minutesPerDay at *
    omega

theorem isValid_addMinutes {minutes : Nat} (hvalid : now.IsValid)
    (hspan : minutes ≤ minutesPerDay) : (now.addMinutes minutes).IsValid := by
  obtain ⟨hdate, hminute, hsecond, hnano⟩ := hvalid
  have hleft : min now.second 59 ≤ 60 := Nat.le_trans (Nat.min_le_left _ _) hsecond
  unfold addMinutes
  rw [shiftMinutes?_eq]
  split
  · next hday => exact ⟨hdate, hday, hleft, hnano⟩
  · cases hnext : now.date.next? with
    | none => exact ⟨hdate, hminute, hsecond, hnano⟩
    | some next =>
      have hrest : now.minuteOfDay + minutes - minutesPerDay < minutesPerDay := by omega
      exact ⟨Date.isValid_of_next? hdate hnext, hrest, hleft, hnano⟩

/-- **What is due within a time span.** -/
theorem isBefore_addMinutes_iff {minutes : Nat} (hnow : now.IsValid) (hnowLeap : now.second ≤ 59)
    (htime : time.IsValid) (htimeLeap : time.second ≤ 59) (hspan : minutes ≤ minutesPerDay)
    (hend : (now.shiftMinutes? minutes).isSome = true) :
    time.isBefore (now.addMinutes minutes) = true ↔
      time.nanoseconds - now.nanoseconds < minutes * 60 * 1000000000 := by
  have hlater : (now.addMinutes minutes).second ≤ 59 := by
    obtain ⟨later, hshifted⟩ := Option.isSome_iff_exists.mp hend
    rw [addMinutes, hshifted]
    exact Nat.min_le_right _ _
  rw [isBefore_iff_nanoseconds htime (isValid_addMinutes hnow hspan) htimeLeap hlater,
    nanoseconds_addMinutes hnow hnowLeap hend]
  omega

end Instant

end ClusterUpgrade
