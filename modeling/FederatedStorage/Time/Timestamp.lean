/-!
# Timestamps

A timestamp is a civil date and a time of day in UTC, down to the nanosecond. The last minute of a
day may have a sixty-first second.

## Main definitions

* `Date.next`, `Date.previous`: the neighbouring days.
* `Timestamp.shift`: a local time moved to UTC by its offset.
-/

namespace FederatedStorage.Time

/-- Whether a year has a leap day. -/
def isLeapYear (year : Int) : Bool :=
  year % 4 == 0 && (year % 100 != 0 || year % 400 == 0)

/-- The number of days of a month. -/
def daysIn (year : Int) (month : Nat) : Nat :=
  match month with
  | 2 => if isLeapYear year then 29 else 28
  | 4 => 30
  | 6 => 30
  | 9 => 30
  | 11 => 30
  | _ => 31

/-- Every month has four weeks. -/
theorem four_weeks_le_daysIn (year : Int) (month : Nat) : 28 ≤ daysIn year month := by
  unfold daysIn
  split <;> first | omega | (split <;> omega)

/-- A day of the calendar. -/
structure Date where
  year : Int
  month : Nat
  day : Nat
  one_le_month : 1 ≤ month
  month_le : month ≤ 12
  one_le_day : 1 ≤ day
  day_le : day ≤ daysIn year month
deriving DecidableEq, Repr

namespace Date

/-- The day of these numbers, if there is one. -/
def of? (year : Int) (month day : Nat) : Option Date :=
  if h : (1 ≤ month ∧ month ≤ 12) ∧ (1 ≤ day ∧ day ≤ daysIn year month) then
    some ⟨year, month, day, h.1.1, h.1.2, h.2.1, h.2.2⟩
  else none

/-- A day's own numbers give the day. -/
theorem of?_self (d : Date) : of? d.year d.month d.day = some d := by
  simp [of?, d.one_le_month, d.month_le, d.one_le_day, d.day_le]

/-- **The next day.** -/
def next (d : Date) : Date :=
  if h : d.day + 1 ≤ daysIn d.year d.month then
    { d with day := d.day + 1, one_le_day := by omega, day_le := h }
  else if hm : d.month + 1 ≤ 12 then
    ⟨d.year, d.month + 1, 1, by omega, hm, by omega,
      by have := four_weeks_le_daysIn d.year (d.month + 1); omega⟩
  else
    ⟨d.year + 1, 1, 1, by omega, by omega, by omega,
      by have := four_weeks_le_daysIn (d.year + 1) 1; omega⟩

/-- **The day before.** -/
def previous (d : Date) : Date :=
  if h : 1 < d.day then
    { d with
      day := d.day - 1
      one_le_day := by omega
      day_le := by have := d.day_le; omega }
  else if hm : 1 < d.month then
    ⟨d.year, d.month - 1, daysIn d.year (d.month - 1), by omega,
      by have := d.month_le; omega,
      by have := four_weeks_le_daysIn d.year (d.month - 1); omega, by omega⟩
  else
    ⟨d.year - 1, 12, 31, by omega, by omega, by omega, by simp [daysIn]⟩

/-- The day that comes so many days later. -/
def later (d : Date) : Nat → Date
  | 0 => d
  | n + 1 => d.next.later n

end Date

/-- A moment of UTC. A sixty-first second is written as second 60. -/
structure Timestamp where
  date : Date
  hour : Nat
  minute : Nat
  second : Nat
  nano : Nat
  hour_lt : hour < 24
  minute_lt : minute < 60
  second_le : second ≤ 60
  nano_lt : nano < 1000000000
deriving DecidableEq, Repr

namespace Timestamp

/-- The moment of these numbers, if there is one. -/
def of? (date : Date) (hour minute second nano : Nat) : Option Timestamp :=
  if h : (hour < 24 ∧ minute < 60) ∧ (second ≤ 60 ∧ nano < 1000000000) then
    some ⟨date, hour, minute, second, nano, h.1.1, h.1.2, h.2.1, h.2.2⟩
  else none

/-- A moment's own numbers give the moment. -/
theorem of?_self (t : Timestamp) : of? t.date t.hour t.minute t.second t.nano = some t := by
  simp [of?, t.hour_lt, t.minute_lt, t.second_le, t.nano_lt]

/-- Sets the time of day, given in minutes. -/
def atMinute (t : Timestamp) (date : Date) (minutes : Nat) : Timestamp :=
  { t with
    date := date
    hour := minutes / 60 % 24
    minute := minutes % 60
    hour_lt := Nat.mod_lt _ (by omega)
    minute_lt := Nat.mod_lt _ (by omega) }

/-- Minutes of a day. -/
def dayMinutes : Nat := 1440

/-- **Moves a local time to UTC**, for a place less than a day ahead (or behind, if negative). -/
def shift (t : Timestamp) (ahead : Int) : Timestamp :=
  let minutes : Int := t.hour * 60 + t.minute - ahead
  if minutes < 0 then t.atMinute t.date.previous (minutes + dayMinutes).toNat
  else if dayMinutes ≤ minutes then t.atMinute t.date.next (minutes - dayMinutes).toNat
  else t.atMinute t.date minutes.toNat

/-- Noon of the first day of a year, to begin a clock with. -/
def yearStart (year : Int) : Timestamp :=
  ⟨⟨year, 1, 1, by omega, by omega, by omega, by simp [daysIn]⟩, 12, 0, 0, 0,
    by omega, by omega, by omega, by omega⟩

/-- The moment so many nanoseconds after the beginning of 1970. -/
def ofEpoch (nanos : Nat) : Timestamp :=
  let seconds := nanos / 1000000000
  ⟨(yearStart 1970).date.later (seconds / 86400), seconds / 3600 % 24, seconds / 60 % 60,
    seconds % 60, nanos % 1000000000, by omega, by omega, by omega, by omega⟩

instance : Inhabited Timestamp := ⟨yearStart 2000⟩

end Timestamp

end FederatedStorage.Time
