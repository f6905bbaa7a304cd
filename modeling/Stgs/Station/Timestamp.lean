/-
# Station.Timestamp -- the time in front of a log line

`nowIso8601` prints the system clock, in milliseconds since the start of 1970, as a date and
a time of day.  The date comes from `gmtime_r`: the calendar is walked day by day
(`Date.next`) from 1 January 1970.

As long as years have four digits, the text is a record of fixed width (`nowIso8601_eq`)
whose fields grow with the clock (`timeFields_lt`).  So log lines sort as their times
(`timestamp_order`), and no two milliseconds have one text.
-/
import Stgs.Theory.FixedWidth

namespace Stgs.Station

open Stgs.Theory.FixedWidth Stgs.Theory.Numerals

set_option autoImplicit false

/-! ## The calendar -/

structure Date where
  year : Nat
  month : Nat
  day : Nat
deriving DecidableEq, Repr

def isLeapYear (year : Nat) : Bool := year % 4 = 0 && (year % 100 ≠ 0 || year % 400 = 0)

def daysInMonth (year : Nat) : Nat → Nat
  | 2 => if isLeapYear year then 29 else 28
  | 4 | 6 | 9 | 11 => 30
  | _ => 31

/-- The next day. -/
def Date.next (date : Date) : Date :=
  if date.day < daysInMonth date.year date.month then { date with day := date.day + 1 }
  else if date.month < 12 then ⟨date.year, date.month + 1, 1⟩
  else ⟨date.year + 1, 1, 1⟩

/-- The date so many days after the start of 1970. -/
def dateOf : Nat → Date
  | 0 => ⟨1970, 1, 1⟩
  | days + 1 => (dateOf days).next

structure Date.Valid (date : Date) : Prop where
  year : 1970 ≤ date.year
  month : 1 ≤ date.month ∧ date.month ≤ 12
  day : 1 ≤ date.day ∧ date.day ≤ daysInMonth date.year date.month

def Date.fields (date : Date) : List Nat := [date.year, date.month, date.day]

theorem daysInMonth_bounds (year month : Nat) :
    28 ≤ daysInMonth year month ∧ daysInMonth year month ≤ 31 := by
  unfold daysInMonth
  split
  · split <;> omega
  all_goals omega

theorem Date.Valid.next {date : Date} (valid : date.Valid) : date.next.Valid := by
  obtain ⟨year, month, day⟩ := valid
  unfold Date.next
  split
  · exact ⟨year, month, by simp, by simpa⟩
  · split
    · next earlier =>
        refine ⟨year, ⟨by simp, Nat.succ_le_of_lt earlier⟩, Nat.le_refl _, ?_⟩
        exact Nat.le_trans (show 1 ≤ 28 by decide) (daysInMonth_bounds _ _).1
    · exact ⟨Nat.le_succ_of_le year, by simp, Nat.le_refl _, show 1 ≤ 31 by decide⟩

/-- Every day has a date. -/
theorem valid_dateOf (days : Nat) : (dateOf days).Valid := by
  induction days with
  | zero => exact ⟨by decide, by decide, by decide⟩
  | succ days ih => exact ih.next

/-- The next day is later. -/
theorem Date.fields_next (date : Date) : date.fields < date.next.fields := by
  unfold Date.next
  split
  · exact .cons (.cons (.rel (Nat.lt_succ_self _)))
  · split
    · exact .cons (.rel (Nat.lt_succ_self _))
    · exact .rel (Nat.lt_succ_self _)

theorem dateOf_lt {first second : Nat} (less : first < second) :
    (dateOf first).fields < (dateOf second).fields := by
  induction second with
  | zero => exact absurd less (Nat.not_lt_zero _)
  | succ second ih =>
      rcases Nat.lt_succ_iff_lt_or_eq.mp less with before | rfl
      · exact List.lt_trans (ih before) (dateOf second).fields_next
      · exact (dateOf first).fields_next

/-! ## The clock -/

/-- What `put_time` reads of a broken-down time. -/
structure Tm where
  date : Date
  hour : Nat
  minute : Nat
  second : Nat

/-- `gmtime_r`. -/
def gmtime (seconds : Nat) : Tm where
  date := dateOf (seconds / 86400)
  hour := seconds % 86400 / 3600
  minute := seconds % 3600 / 60
  second := seconds % 60

def millisecondsPerSecond : Nat := 1000

def millisecondFieldWidth : Nat := 3

/-- The clock as a date and a time of day. -/
def nowIso8601 (now : Nat) : List Char :=
  let tm := gmtime (now / millisecondsPerSecond)
  let ms := now % millisecondsPerSecond
  decimal tm.date.year ++ ('-' :: filled 2 tm.date.month) ++ ('-' :: filled 2 tm.date.day) ++
    ('T' :: filled 2 tm.hour) ++ (':' :: filled 2 tm.minute) ++ (':' :: filled 2 tm.second) ++
    ('.' :: filled millisecondFieldWidth ms) ++ ['Z']

example : nowIso8601 68169600123 = "1972-02-29T00:00:00.123Z".toList := by decide +kernel

def timestampLayout : Layout :=
  [(4, ['-']), (2, ['-']), (2, ['T']), (2, [':']), (2, [':']), (2, ['.']), (3, ['Z'])]

def clockFields (now : Nat) : List Nat :=
  let tm := gmtime (now / millisecondsPerSecond)
  [tm.hour, tm.minute, tm.second, now % millisecondsPerSecond]

def timeFields (now : Nat) : List Nat :=
  (gmtime (now / millisecondsPerSecond)).date.fields ++ clockFields now

/-- Years are printed with four digits. -/
def FourDigitYear (now : Nat) : Prop := (gmtime (now / millisecondsPerSecond)).date.year < 10000

instance (now : Nat) : Decidable (FourDigitYear now) := inferInstanceAs (Decidable (_ < _))

/-- The clock of a day goes through its fields in order. -/
theorem clockFields_lt {first second : Nat} (less : first < second)
    (same : first / 86400000 = second / 86400000) : clockFields first < clockFields second := by
  simp only [clockFields, gmtime, millisecondsPerSecond, List.cons_lt_cons_iff, List.lt_irrefl,
    and_false, or_false]
  omega

/-- **The fields grow with the clock.** -/
theorem timeFields_lt {first second : Nat} (less : first < second) :
    timeFields first < timeFields second := by
  have day (now : Nat) : now / millisecondsPerSecond / 86400 = now / 86400000 := by
    rw [millisecondsPerSecond, Nat.div_div_eq_div_mul]
  simp only [timeFields, gmtime, day]
  rcases (Nat.div_le_div_right (c := 86400000) less.le).lt_or_eq with before | same
  · exact append_lt (dateOf_lt before) rfl _ _
  · rw [same]
    exact List.append_left_lt (clockFields_lt less same)

theorem decimal_year {year : Nat} (early : 1000 ≤ year) (late : year < 10000) :
    decimal year = filled 4 year := by
  have longer (value : Nat) (large : 10 ≤ value) :
      (decimal value).length = (decimal (value / 10)).length + 1 := by
    rw [decimal, Nat.toDigits_of_base_le (by decide) large, List.length_append]
    rfl
  have filled : (decimal year).length + 0 = 4 := by
    rw [longer year (by omega), longer _ (by omega), longer _ (by omega), decimal,
      Nat.toDigits_of_lt_base (by omega)]
    rfl
  rw [Nat.add_zero] at filled
  simp [Theory.FixedWidth.filled, filled]

theorem fits_timeFields {now : Nat} (year : FourDigitYear now) :
    Fits timestampLayout (timeFields now) := by
  have valid := valid_dateOf (now / millisecondsPerSecond / 86400)
  have days := daysInMonth_bounds (dateOf (now / millisecondsPerSecond / 86400)).year
    (dateOf (now / millisecondsPerSecond / 86400)).month
  have month := valid.month
  have day := valid.day
  simp only [FourDigitYear, gmtime] at year
  simp only [Fits, timestampLayout, timeFields, clockFields, gmtime, Date.fields,
    List.cons_append, List.nil_append, List.forall₂_cons]
  refine ⟨?_, ?_, ?_, ?_, ?_, ?_, ?_, .nil⟩
  all_goals simp only [millisecondsPerSecond] at *
  all_goals omega

/-- **The timestamp is a record.** -/
theorem nowIso8601_eq {now : Nat} (year : FourDigitYear now) :
    nowIso8601 now = render timestampLayout (timeFields now) := by
  have early : 1970 ≤ (gmtime (now / millisecondsPerSecond)).date.year := (valid_dateOf _).year
  have digits := decimal_year (by omega) year
  simp only [nowIso8601, digits]
  simp [render, timestampLayout, timeFields, clockFields, Date.fields, millisecondFieldWidth]

theorem nowIso8601_lt {first second : Nat} (year : FourDigitYear first)
    (year' : FourDigitYear second) (less : first < second) :
    nowIso8601 first < nowIso8601 second := by
  rw [nowIso8601_eq year, nowIso8601_eq year']
  exact render_lt (fits_timeFields year) (fits_timeFields year') (timeFields_lt less)

theorem length_nowIso8601 {now : Nat} (year : FourDigitYear now) :
    (nowIso8601 now).length = 24 := by
  rw [nowIso8601_eq year, length_render (fits_timeFields year)]
  rfl

theorem nowIso8601_inj {first second : Nat} (year : FourDigitYear first)
    (year' : FourDigitYear second) (same : nowIso8601 first = nowIso8601 second) :
    first = second := by
  rcases Nat.lt_trichotomy first second with less | equal | more
  · exact absurd (same ▸ nowIso8601_lt year year' less) (List.lt_irrefl _)
  · exact equal
  · exact absurd (same ▸ nowIso8601_lt year' year more) (List.lt_irrefl _)

/-- **Timestamps sort as the times they stand for**, and each stands for one millisecond. -/
theorem timestamp_order {first second : Nat} (year : FourDigitYear first)
    (year' : FourDigitYear second) :
    (nowIso8601 first < nowIso8601 second ↔ first < second) ∧
      (nowIso8601 first = nowIso8601 second ↔ first = second) ∧
      (nowIso8601 first).length = 24 := by
  refine ⟨⟨fun less => ?_, nowIso8601_lt year year'⟩,
    ⟨nowIso8601_inj year year', fun same => by rw [same]⟩, length_nowIso8601 year⟩
  by_contra later
  rcases Nat.lt_or_eq_of_le (Nat.le_of_not_lt later) with more | same
  · exact absurd (List.lt_trans less (nowIso8601_lt year' year more)) (List.lt_irrefl _)
  · exact absurd (same ▸ less) (List.lt_irrefl _)

theorem timestamp_order_midnight :
    FourDigitYear 86399999 ∧ FourDigitYear 86400000 ∧
      (nowIso8601 86399999 < nowIso8601 86400000 ↔ 86399999 < 86400000) := by
  have year : FourDigitYear 86399999 := by decide
  have year' : FourDigitYear 86400000 := by decide
  exact ⟨year, year', (timestamp_order year year').1⟩

end Stgs.Station
