import ClusterUpgrade.Proofs.Text.Digits
import ClusterUpgrade.Proofs.Time.Instant
import ClusterUpgrade.Time.Rfc3339

/-!
Reading back the texts of instants. Main statements: `parse?_text`, the text of a valid instant
names this instant, and `isValid_of_parse?`, every text that names an instant names a valid one.

A reader of a field takes as many digits as the field is wide and leaves the rest, so each field is
read back in front of any text. Only a year with a sign needs to know that no digit follows.
-/

namespace ClusterUpgrade

namespace Instant

open Text

/-! ### Reading what is written -/

theorem takeDigits?_paddedDigits {width n : Nat} (h : n < 10 ^ (width + 1)) (rest : List Char) :
    takeDigits? (width + 1) (paddedDigits (width + 1) n ++ rest) = some (n, rest) := by
  have hlength := length_paddedDigits h
  have hrun : ((paddedDigits (width + 1) n ++ rest).take (width + 1)).takeWhile isDigit =
      paddedDigits (width + 1) n := by
    rw [List.take_left' hlength, List.takeWhile_eq_self_iff]
    exact fun _ => isDigit_of_mem_paddedDigits
  have hempty : (paddedDigits (width + 1) n).isEmpty = false := by
    simp [paddedDigits_ne_nil]
  simp only [takeDigits?, hrun, hempty, ofDigits_paddedDigits, List.drop_left]
  rfl

theorem skipBlank_cons {c : Char} (h : isBlank c = false) (rest : List Char) :
    skipBlank (c :: rest) = c :: rest := by
  rw [skipBlank, List.dropWhile_cons_of_neg (by simp [h])]

theorem skipBlank_paddedDigits (width n : Nat) (rest : List Char) :
    skipBlank (paddedDigits width n ++ rest) = paddedDigits width n ++ rest := by
  obtain ⟨c, tail, htext, hdigit⟩ := exists_paddedDigits_eq_cons width n
  rw [htext, List.cons_append, skipBlank_cons (isBlank_of_isDigit hdigit)]

theorem takeField?_paddedDigits {n low high : Nat} (hlow : low ≤ n) (hhigh : n ≤ high)
    (hwidth : n < 100) (rest : List Char) :
    takeField? 2 low high (paddedDigits 2 n ++ rest) = some (n, rest) := by
  rw [takeField?, skipBlank_paddedDigits, takeDigits?_paddedDigits hwidth]
  exact if_pos ⟨hlow, hhigh⟩

theorem takeMark?_cons {mark : Char} (h : isBlank mark = false) (rest : List Char) :
    takeMark? mark (mark :: rest) = some rest := by
  simp [takeMark?, skipBlank_cons h]

theorem takeYear?_yearChars (year : Int) (rest : List Char) :
    takeYear? (yearChars year ++ '-' :: rest) = some (year, '-' :: rest) := by
  have hdash : isDigit '-' = false := rfl
  unfold yearChars
  by_cases hshort : 0 ≤ year ∧ year ≤ 9999
  · have hyear : (year.toNat : Int) = year := Int.toNat_of_nonneg hshort.1
    have hread : takeDigits? 4 (paddedDigits 4 year.toNat ++ '-' :: rest) =
        some (year.toNat, '-' :: rest) := takeDigits?_paddedDigits (by omega) _
    rw [if_pos hshort, takeYear?, skipBlank_paddedDigits]
    split
    · next heq => exact absurd heq (paddedDigits_append_ne_cons rfl _ _ _ _)
    · next heq => exact absurd heq (paddedDigits_append_ne_cons rfl _ _ _ _)
    · simp only [hread, Option.map_some, hyear]
  · rw [if_neg hshort]
    by_cases hsign : 0 ≤ year
    · have hyear : (year.natAbs : Int) = year := by omega
      rw [if_pos hsign, List.cons_append, takeYear?, skipBlank_cons rfl]
      simp only [takeNumber?_paddedDigits hdash, Option.map_some, hyear]
    · have hyear : -(year.natAbs : Int) = year := by omega
      rw [if_neg hsign, List.cons_append, takeYear?, skipBlank_cons rfl]
      simp only [takeNumber?_paddedDigits hdash, Option.map_some, hyear]

theorem takeDate?_dateChars {date : Date} (h : date.IsValid) (rest : List Char) :
    takeDate? (dateChars date ++ rest) = some (date, rest) := by
  have hdays := (Date.daysInMonth_bounds date.year date.month).2
  obtain ⟨hmonth, hmonths, hday, hdayOfMonth⟩ := h.2.2
  have hdash : isBlank '-' = false := rfl
  have hmonthField (rest : List Char) :=
    takeField?_paddedDigits hmonth hmonths (by omega : date.month < 100) rest
  have hdayField (rest : List Char) :=
    takeField?_paddedDigits hday (hdayOfMonth.trans hdays) (by omega : date.day < 100) rest
  simp only [takeDate?, dateChars, List.append_assoc, List.cons_append, takeYear?_yearChars,
    takeMark?_cons hdash, hmonthField, hdayField, Option.bind_eq_bind, Option.bind_some]
  exact if_pos h

theorem takeFraction?_paddedDigits {width n : Nat} (hwidth : width < 9) (h : n < 10 ^ (width + 1))
    {c : Char} (hc : isDigit c = false) (rest : List Char) :
    takeFraction? ('.' :: (paddedDigits (width + 1) n ++ c :: rest)) =
      some (n * 10 ^ (8 - width), c :: rest) := by
  have hlength := length_paddedDigits h
  have hstop (count : Nat) : ((c :: rest).take count).takeWhile isDigit = [] := by
    cases count with
    | zero => rfl
    | succ count => rw [List.take_succ_cons, List.takeWhile_cons_of_neg (by simp [hc])]
  have hrun : ((paddedDigits (width + 1) n ++ c :: rest).take 9).takeWhile isDigit =
      paddedDigits (width + 1) n := by
    rw [List.take_append, List.take_of_length_le (by omega),
      List.takeWhile_append_of_pos fun _ => isDigit_of_mem_paddedDigits, hstop, List.append_nil]
  have hempty : (paddedDigits (width + 1) n).isEmpty = false := by
    simp [paddedDigits_ne_nil]
  have hrest : (c :: rest).dropWhile isDigit = c :: rest :=
    List.dropWhile_cons_of_neg (by simp [hc])
  have hscale : 9 - (width + 1) = 8 - width := by omega
  have hdrop : (paddedDigits (width + 1) n ++ c :: rest).drop (width + 1) = c :: rest :=
    List.drop_left' hlength
  simp only [takeFraction?, hrun, hempty, hlength, hdrop, hrest, ofDigits_paddedDigits, hscale]
  rfl

theorem takeFraction?_fractionChars {nanosecond : Nat} (h : nanosecond < 1000000000)
    (rest : List Char) :
    takeFraction? (fractionChars nanosecond ++ 'Z' :: rest) = some (nanosecond, 'Z' :: rest) := by
  have hZ : isDigit 'Z' = false := rfl
  unfold fractionChars
  by_cases hwhole : nanosecond = 0
  · rw [if_pos hwhole, hwhole]
    rfl
  · rw [if_neg hwhole]
    by_cases hmilli : nanosecond % 1000000 = 0
    · have hscaled : nanosecond / 1000000 * 10 ^ (8 - 2) = nanosecond := by omega
      rw [if_pos hmilli, List.cons_append,
        takeFraction?_paddedDigits (by decide) (by omega) hZ, hscaled]
    · rw [if_neg hmilli]
      by_cases hmicro : nanosecond % 1000 = 0
      · have hscaled : nanosecond / 1000 * 10 ^ (8 - 5) = nanosecond := by omega
        rw [if_pos hmicro, List.cons_append,
          takeFraction?_paddedDigits (by decide) (by omega) hZ, hscaled]
      · have hscaled : nanosecond * 10 ^ (8 - 8) = nanosecond := by omega
        rw [if_neg hmicro, List.cons_append, takeFraction?_paddedDigits (by decide) h hZ, hscaled]

theorem shiftMinutes?_zero {instant : Instant} (h : instant.minuteOfDay < minutesPerDay) :
    instant.shiftMinutes? 0 = some instant := by
  have hshift := @shiftMinutes?_eq instant 0
  rwa [Nat.add_zero, if_pos h] at hshift

theorem ofChars?_toChars {instant : Instant} (h : instant.IsValid) :
    ofChars? (toChars instant) = some instant := by
  obtain ⟨hdate, hminute, hsecond, hnanosecond⟩ := h
  have hcolon : isBlank ':' = false := rfl
  have hhours : instant.minuteOfDay / 60 ≤ 23 := by
    unfold minutesPerDay at hminute
    omega
  have hminutes : instant.minuteOfDay % 60 ≤ 59 := by omega
  have hclock : instant.minuteOfDay / 60 * 60 + instant.minuteOfDay % 60 = instant.minuteOfDay := by
    omega
  have hhourField (rest : List Char) :=
    takeField?_paddedDigits (Nat.zero_le _) hhours (by omega) rest
  have hminuteField (rest : List Char) :=
    takeField?_paddedDigits (Nat.zero_le _) hminutes (by omega) rest
  have hsecondField (rest : List Char) :=
    takeField?_paddedDigits (Nat.zero_le _) hsecond (by omega) rest
  have hoffset : takeOffset? (skipBlank ['Z']) = some (0, []) := rfl
  have hend : (skipBlank []).isEmpty = true := rfl
  simp only [ofChars?, toChars, localChars, clockChars, List.append_assoc, List.cons_append,
    takeDate?_dateChars hdate, hhourField, takeMark?_cons hcolon, hminuteField, hsecondField,
    takeFraction?_fractionChars hnanosecond, hoffset, hclock, hend, if_true,
    Int.neg_zero, Option.bind_eq_bind, Option.bind_some]
  exact shiftMinutes?_zero hminute

theorem parse?_text {instant : Instant} (h : instant.IsValid) :
    parse? instant.text = some instant := by
  have hchars : instant.text.toList = instant.toChars := String.toList_ofList
  unfold parse?
  rw [hchars, ofChars?_toChars h]

/-! ### What is read -/

theorem takeField?_bounds {width low high n : Nat} {text rest : List Char}
    (h : takeField? width low high text = some (n, rest)) : low ≤ n ∧ n ≤ high := by
  simp only [takeField?, Option.bind_eq_bind, Option.bind_eq_some_iff] at h
  obtain ⟨⟨value, tail⟩, -, h⟩ := h
  split at h
  · next hbounds =>
    cases h
    exact hbounds
  · cases h

theorem isValid_of_takeDate? {date : Date} {text rest : List Char}
    (h : takeDate? text = some (date, rest)) : date.IsValid := by
  simp only [takeDate?, Option.bind_eq_bind, Option.bind_eq_some_iff] at h
  obtain ⟨_, -, _, -, _, -, _, -, _, -, h⟩ := h
  split at h
  · next hvalid =>
    cases h
    exact hvalid
  · cases h

theorem takeFraction?_lt {n : Nat} {text rest : List Char}
    (h : takeFraction? text = some (n, rest)) : n < 1000000000 := by
  unfold takeFraction? at h
  split at h
  · next digits =>
    dsimp only at h
    have hrun : ∀ c ∈ (digits.take 9).takeWhile isDigit, isDigit c = true := fun _ =>
      List.mem_takeWhile_imp
    have hlength : ((digits.take 9).takeWhile isDigit).length ≤ 9 :=
      (List.takeWhile_prefix _).length_le.trans (List.length_take_le 9 digits)
    have hless := ofDigits_lt hrun
    split at h
    · cases h
    · cases h
      calc
        _ < 10 ^ ((digits.take 9).takeWhile isDigit).length *
            10 ^ (9 - ((digits.take 9).takeWhile isDigit).length) :=
          Nat.mul_lt_mul_of_pos_right hless (Nat.pow_pos (by decide))
        _ = 1000000000 := by
          rw [← Nat.pow_add, Nat.add_sub_cancel' hlength]
  · cases h
    decide

theorem takeOffset?_bounds {ahead : Int} {text rest : List Char}
    (h : takeOffset? text = some (ahead, rest)) :
    -(minutesPerDay : Int) < ahead ∧ ahead < minutesPerDay := by
  have hzero : -(minutesPerDay : Int) < 0 ∧ 0 < (minutesPerDay : Int) := by decide
  unfold takeOffset? at h
  split at h
  · cases h
    exact hzero
  · cases h
    exact hzero
  · split at h
    · cases h
      exact hzero
    · split at h
      · simp only [Option.bind_eq_bind, Option.bind_eq_some_iff] at h
        obtain ⟨⟨hours, _⟩, -, ⟨minutes, _⟩, -, h⟩ := h
        dsimp only at h
        split at h
        · next hclock =>
          unfold minutesPerDay
          cases h
          split <;> omega
        · cases h
      · cases h
  · cases h

theorem minuteOfDay_lt {hour minute : Nat} (hhour : hour ≤ 23) (hminute : minute ≤ 59) :
    hour * 60 + minute < minutesPerDay := by
  unfold minutesPerDay
  omega

theorem isValid_of_shiftMinutes? {instant shifted : Instant} {minutes : Int}
    (h : instant.IsValid) (hback : -(minutesPerDay : Int) < minutes)
    (hforth : minutes < minutesPerDay) (hshift : instant.shiftMinutes? minutes = some shifted) :
    shifted.IsValid := by
  obtain ⟨hdate, hminute, hsecond, hnanosecond⟩ := h
  unfold shiftMinutes? at hshift
  dsimp only at hshift
  split at hshift
  · simp only [Option.bind_eq_bind, Option.bind_eq_some_iff] at hshift
    obtain ⟨previous, hprevious, hshift⟩ := hshift
    cases hshift
    refine ⟨Date.isValid_of_previous? hdate hprevious, ?_, hsecond, hnanosecond⟩
    dsimp only
    omega
  · split at hshift
    · cases hshift
      refine ⟨hdate, ?_, hsecond, hnanosecond⟩
      dsimp only
      omega
    · simp only [Option.bind_eq_bind, Option.bind_eq_some_iff] at hshift
      obtain ⟨next, hnext, hshift⟩ := hshift
      cases hshift
      refine ⟨Date.isValid_of_next? hdate hnext, ?_, hsecond, hnanosecond⟩
      dsimp only
      omega

theorem isValid_of_ofChars? {text : List Char} {instant : Instant}
    (h : ofChars? text = some instant) : instant.IsValid := by
  simp only [ofChars?, Option.bind_eq_bind, Option.bind_eq_some_iff] at h
  obtain ⟨⟨date, text⟩, hdate, h⟩ := h
  dsimp only at h
  split at h
  case h_4 => cases h
  -- The same is read behind each of the three separators.
  all_goals
    simp only [Option.bind_some, Option.bind_eq_some_iff] at h
    obtain ⟨⟨hour, _⟩, hhour, _, -, ⟨minute, _⟩, hminute, _, -, ⟨second, _⟩, hsecond,
      ⟨nanosecond, _⟩, hnanosecond, ⟨ahead, _⟩, hoffset, h⟩ := h
    split at h
    · obtain ⟨hbehind, hahead⟩ := takeOffset?_bounds hoffset
      refine isValid_of_shiftMinutes? ?_ (by omega) (by omega) h
      exact ⟨isValid_of_takeDate? hdate,
        minuteOfDay_lt (takeField?_bounds hhour).2 (takeField?_bounds hminute).2,
        (takeField?_bounds hsecond).2, takeFraction?_lt hnanosecond⟩
    · cases h

theorem isValid_of_parse? {text : String} {instant : Instant} (h : parse? text = some instant) :
    instant.IsValid :=
  isValid_of_ofChars? h

end Instant

end ClusterUpgrade
