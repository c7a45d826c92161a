import GameLobby.Timestamp
import Mathlib.Data.List.TakeWhile

/-!
# Written timestamps

A number of days is told by its date (`Date.days_ofDays`), so a timestamp is told by its date and
the time of day. Each of these is written in decimal fields of a fixed width, and the fraction of a
second in one that is left out when it would be nothing. A timestamp without an offset whose year
has four digits is read back from the form of responses (`Timestamp.Civil.ofChars?_responseChars`).
-/

namespace GameLobby

/-! ## Digits -/

namespace Text

/-- The digits of written numbers are digits. -/
theorem isDigit_decimalDigit {d : Nat} (h : d < 10) : (decimalDigit d).isDigit = true := by
  have hall : ∀ d : Fin 10, (decimalDigit d).isDigit = true := by decide
  exact hall ⟨d, h⟩

/-- Digits are written for a number. -/
theorem isDigit_of_mem_decimals {width n : Nat} {c : Char} (h : c ∈ decimals width n) :
    c.isDigit = true := by
  induction width generalizing n with
  | zero => cases h
  | succ width ih =>
    rcases List.mem_append.1 h with h | h
    · exact ih h
    · rw [List.mem_singleton.1 h]
      exact isDigit_decimalDigit (Nat.mod_lt _ (by decide))

/-- A number that fits its field is read back. -/
theorem decimal?_decimals_of_lt (width : Nat) {n : Nat} (h : n < Nat.pow 10 width) :
    decimal? (decimals width n) = some n := by
  rw [decimal?_decimals, Nat.mod_eq_of_lt h]

end Text

namespace Timestamp

/-! ## The calendar -/

section
variable {inEra year inYear : Int}

/-- A day of an era of four hundred years belongs to one of its years. -/
theorem year_bounds (hfrom : 0 ≤ inEra) (hto : inEra < 146097)
    (hyear : year = (inEra - inEra / 1460 + inEra / 36524 - inEra / 146096) / 365) :
    0 ≤ year ∧ year < 400 := by
  omega

/-- A day of an era is one of the days of its year. -/
theorem inYear_bounds (hfrom : 0 ≤ inEra) (hto : inEra < 146097)
    (hyear : year = (inEra - inEra / 1460 + inEra / 36524 - inEra / 146096) / 365)
    (hday : inYear = inEra - (365 * year + year / 4 - year / 100)) : 0 ≤ inYear ∧ inYear ≤ 366 := by
  have hleap : year / 4 ≤ inEra / 1460 := by omega
  have hcentury : inEra / 36524 ≤ year / 100 + inEra / 146096 := by omega
  omega

end

namespace Date

variable {era year month day : Int}

/-- The number of days until a day of a year that starts in March, in an era of four hundred of
them. -/
def daysFromMarch (era year month day : Int) : Int :=
  era * 146097 + (365 * year + year / 4 - year / 100 + ((153 * month + 2) / 5 + day - 1)) - 719468

/-- From March on, the year is the one that starts in March. -/
theorem days_spring (hyear : 0 ≤ year ∧ year < 400) (hmonth : 0 ≤ month) :
    (⟨year + era * 400, month + 3, day⟩ : Date).days = daysFromMarch era year month day := by
  have hera : (year + era * 400) / 400 = era := by omega
  have hlate : ¬ month + 3 ≤ 2 := by omega
  simp only [days, if_neg hlate, Int.fdiv_eq_ediv_of_nonneg _ (show (0 : Int) ≤ 400 by decide),
    Int.add_sub_cancel, hera]
  rw [daysFromMarch]
  omega

/-- January and February belong to the year that started in the March before. -/
theorem days_winter (hyear : 0 ≤ year ∧ year < 400) (hmonth : month < 12) :
    (⟨year + era * 400 + 1, month - 9, day⟩ : Date).days = daysFromMarch era year month day := by
  have hera : (year + era * 400) / 400 = era := by omega
  have hearly : month - 9 ≤ 2 := by omega
  simp only [days, if_pos hearly, Int.fdiv_eq_ediv_of_nonneg _ (show (0 : Int) ≤ 400 by decide),
    Int.add_sub_cancel, Int.sub_add_cancel, hera]
  rw [daysFromMarch]
  omega

/-- The date of a number of days in terms of the year that starts in March. -/
theorem ofDays_cases (n : Int) : ∃ era year month day : Int, daysFromMarch era year month day = n ∧
    (0 ≤ year ∧ year < 400) ∧ (1 ≤ day ∧ day ≤ 31) ∧
      ((0 ≤ month ∧ month < 10 ∧ ofDays n = ⟨year + era * 400, month + 3, day⟩) ∨
        (10 ≤ month ∧ month < 12 ∧ ofDays n = ⟨year + era * 400 + 1, month - 9, day⟩)) := by
  rw [ofDays, Int.fdiv_eq_ediv_of_nonneg _ (by decide)]
  generalize hera : (n + 719468) / 146097 = era
  generalize hinEra : n + 719468 - era * 146097 = inEra
  have hfrom : 0 ≤ inEra := by omega
  have hto : inEra < 146097 := by omega
  generalize hyear : (inEra - inEra / 1460 + inEra / 36524 - inEra / 146096) / 365 = year
  generalize hday : inEra - (365 * year + year / 4 - year / 100) = inYear
  have hyears := year_bounds hfrom hto hyear.symm
  have hdays := inYear_bounds hfrom hto hyear.symm hday.symm
  refine ⟨era, year, (5 * inYear + 2) / 153, inYear - (153 * ((5 * inYear + 2) / 153) + 2) / 5 + 1,
    ?_, hyears, by omega, ?_⟩
  · rw [daysFromMarch]
    omega
  · split
    · next hspring => exact .inl ⟨by omega, hspring, rfl⟩
    · next hwinter => exact .inr ⟨by omega, by omega, rfl⟩

/-- A number of days is told by its date. -/
theorem days_ofDays (n : Int) : (ofDays n).days = n := by
  obtain ⟨era, year, month, day, hn, hyear, -, hdate⟩ := ofDays_cases n
  rcases hdate with ⟨hfrom, -, hdate⟩ | ⟨-, hto, hdate⟩
  · rw [hdate, days_spring hyear hfrom, hn]
  · rw [hdate, days_winter hyear hto, hn]

/-- Months are counted from January, and none is longer than thirty-one days. -/
theorem ofDays_bounds (n : Int) : (1 ≤ (ofDays n).month ∧ (ofDays n).month ≤ 12) ∧
    (1 ≤ (ofDays n).day ∧ (ofDays n).day ≤ 31) := by
  obtain ⟨era, year, month, day, -, -, hday, hdate⟩ := ofDays_cases n
  rcases hdate with ⟨hfrom, hto, hdate⟩ | ⟨hfrom, hto, hdate⟩
  · rw [hdate]
    exact ⟨⟨by dsimp only; omega, by dsimp only; omega⟩, hday⟩
  · rw [hdate]
    exact ⟨⟨by dsimp only; omega, by dsimp only; omega⟩, hday⟩

end Date

/-! ## Written forms -/

/-- A timestamp without an offset in one of the years from 1 to 9999. -/
structure Civil (t : Timestamp) : Prop where
  naive : t.offset = none
  year : 1 ≤ t.date.year ∧ t.date.year ≤ 9999

section
variable {t : Timestamp}

/-- No day has more microseconds than a day has. -/
theorem sinceMidnight_lt (t : Timestamp) : t.sinceMidnight < 86400000000 := by
  have hlt : t.wall.fmod dayLength < dayLength := Int.fmod_lt_of_pos _ (by decide)
  rw [sinceMidnight, Int.toNat_lt' (by decide)]
  exact hlt

/-- A timestamp is told by its date and the time of day. -/
theorem days_add_sinceMidnight (t : Timestamp) :
    t.date.days * dayLength + t.sinceMidnight = t.wall := by
  have hnonneg : 0 ≤ t.wall.fmod dayLength := Int.fmod_nonneg_of_pos _ (by decide)
  rw [date, Date.days_ofDays, sinceMidnight, Int.toNat_of_nonneg hnonneg]
  exact Int.fdiv_mul_add_fmod t.wall dayLength

/-- A fraction of a second is read back; the one that is left out is nothing. -/
theorem fraction?_written {n : Nat} (h : n < 1000000) :
    fraction? (if n = 0 then [] else '.' :: Text.decimals 6 n) = some (n, []) := by
  split
  · next hzero => rw [hzero]; rfl
  · have hdigits : ∀ c ∈ Text.decimals 6 n, c.isDigit = true :=
      fun c => Text.isDigit_of_mem_decimals
    have htake : (Text.decimals 6 n).takeWhile Char.isDigit = Text.decimals 6 n :=
      List.takeWhile_eq_self_iff.2 hdigits
    have hdrop : (Text.decimals 6 n).dropWhile Char.isDigit = [] :=
      List.dropWhile_eq_nil_iff.2 hdigits
    have hne : Text.decimals 6 n ≠ [] := by
      rw [← List.length_pos_iff, Text.length_decimals]
      decide
    have hsix : (Text.decimals 6 n ++ List.replicate (6 - (Text.decimals 6 n).length) '0').take 6 =
        Text.decimals 6 n := by
      rw [Text.length_decimals, Nat.sub_self, List.replicate_zero, List.append_nil]
      exact List.take_of_length_le (Nat.le_of_eq (Text.length_decimals 6 n))
    simp only [fraction?, htake, hdrop, if_neg hne, hsix, Text.decimal?_decimals_of_lt 6 h]
    rfl

/-- Date and time in fields of a fixed width are read field by field. -/
theorem ofChars?_fields {year month day hours minutes seconds micros : Nat} {rest : List Char}
    (hyear : year < 10000) (hmonth : month < 100) (hday : day < 100) (hhours : hours < 100)
    (hminutes : minutes < 100) (hseconds : seconds < 100)
    (hrest : fraction? rest = some (micros, [])) :
    ofChars? (
        (Text.decimals 4 year ++ '-' :: Text.decimals 2 month ++ '-' :: Text.decimals 2 day) ++
        'T' :: (Text.decimals 2 hours ++ ':' :: Text.decimals 2 minutes ++ ':' ::
          Text.decimals 2 seconds) ++ rest) =
      some (naive ((⟨year, month, day⟩ : Date).days * dayLength +
        (((hours * 60 + minutes) * 60 + seconds) * 1000000 + micros : Nat))) := by
  have hfour := Text.decimal?_decimals_of_lt 4 hyear
  have htwo := fun n => @Text.decimal?_decimals_of_lt 2 n
  simp only [Text.decimals, List.nil_append, List.cons_append] at hfour htwo ⊢
  simp only [ofChars?, hfour, htwo _ hmonth, htwo _ hday, htwo _ hhours, htwo _ hminutes,
    htwo _ hseconds, hrest]
  rfl

/-- A timestamp is read back from the form of responses. -/
theorem Civil.ofChars?_responseChars (h : t.Civil) : ofChars? t.responseChars = some t := by
  obtain ⟨⟨hmonthFrom, hmonthTo⟩, hdayFrom, hdayTo⟩ := Date.ofDays_bounds (t.wall.fdiv dayLength)
  rw [← date] at hmonthFrom hmonthTo hdayFrom hdayTo
  have hyear := h.year
  have hsince := sinceMidnight_lt t
  have hwritten : t.responseChars = t.dateChars ++ 'T' :: t.timeChars ++
      if t.sinceMidnight % 1000000 = 0 then [] else '.' :: t.fractionChars := by
    rw [responseChars, h.naive]
    exact List.append_nil _
  have hdate : (⟨t.date.year.toNat, t.date.month.toNat, t.date.day.toNat⟩ : Date) = t.date := by
    rw [Int.toNat_of_nonneg (by omega), Int.toNat_of_nonneg (by omega),
      Int.toNat_of_nonneg (by omega)]
  have htime : ((t.sinceMidnight / 1000000 / 3600 * 60 + t.sinceMidnight / 1000000 / 60 % 60) * 60 +
      t.sinceMidnight / 1000000 % 60) * 1000000 + t.sinceMidnight % 1000000 = t.sinceMidnight := by
    omega
  have hread := fraction?_written (Nat.mod_lt t.sinceMidnight (show 0 < 1000000 by decide))
  rw [hwritten, dateChars, timeChars, fractionChars,
    ofChars?_fields (by omega) (by omega) (by omega) (by omega) (by omega) (by omega) hread,
    hdate, htime, days_add_sinceMidnight, Timestamp.naive, ← h.naive]

end

end Timestamp

end GameLobby
