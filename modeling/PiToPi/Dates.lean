import PiToPi.Json
import Mathlib.Data.Rat.Floor

/-!
Time values and their wire form: `Date.prototype.toISOString`, and of
`Date.parse` the part that reads that form back. What a host makes of any other
text is left to it (`Host.parseOther`).
-/
namespace PiToPi

/-- What the language leaves to its host. -/
structure Host where
  /-- `Date.parse` of a text `toISOString` does not write. -/
  parseOther : JsString → Option Int

namespace Date

/-- A date of the Gregorian calendar. -/
structure Civil where
  year : Int
  month : Int
  day : Int
  deriving DecidableEq, Repr

/-- Days of a 400-year era before one of its years. Years begin in March here,
so that the leap day comes last. -/
def daysBeforeYear (year : Int) : Int := 365 * year + year / 4 - year / 100

/-- Days of a year before one of its months, March being month 0. -/
def daysBeforeMonth (month : Int) : Int := (153 * month + 2) / 5

/-- The year of its era that a day of it falls in: by century, by leap cycle and
by year, each cut short where the last one is longer by a day. -/
def yearOfEra (day : Int) : Int :=
  let century := min (day / 36524) 3
  let cycle := (day - 36524 * century) / 1461
  let year := min ((day - 36524 * century - 1461 * cycle) / 365) 3
  100 * century + 4 * cycle + year

/-- A date given by its March-based year and month. -/
def Civil.ofMarch (year month day : Int) : Civil where
  year := if month < 10 then year else year + 1
  month := if month < 10 then month + 3 else month - 9
  day := day

/-- The date of a day counted from 1970-01-01. -/
def civilFromDays (days : Int) : Civil :=
  let day := (days + 719468) % 146097
  let year := yearOfEra day
  let dayOfYear := day - daysBeforeYear year
  let month := (5 * dayOfYear + 2) / 153
  .ofMarch (year + (days + 719468) / 146097 * 400) month (dayOfYear - daysBeforeMonth month + 1)

def daysFromCivil (date : Civil) : Int :=
  let year := if date.month ≤ 2 then date.year - 1 else date.year
  let month := if date.month ≤ 2 then date.month + 9 else date.month - 3
  year / 400 * 146097 + daysBeforeYear (year % 400) + daysBeforeMonth month + date.day - 1 - 719468

theorem daysFromCivil_ofMarch (low : 0 ≤ month) (high : month < 12) :
    daysFromCivil (.ofMarch year month day) = year / 400 * 146097 + daysBeforeYear (year % 400) +
      daysBeforeMonth month + day - 1 - 719468 := by
  by_cases early : month < 10
  · have late : ¬ month + 3 ≤ 2 := by omega
    simp [daysFromCivil, Civil.ofMarch, early, late]
  · have late : month - 9 ≤ 2 := by omega
    simp [daysFromCivil, Civil.ofMarch, early, late]

/-- How a day of an era splits into century, leap cycle, year and day of the year. -/
theorem yearOfEra_split (low : 0 ≤ day) (high : day < 146097) :
    ∃ century cycle year : Int, (0 ≤ century ∧ century ≤ 3) ∧ (0 ≤ cycle ∧ cycle ≤ 24) ∧
      (0 ≤ year ∧ year ≤ 3) ∧ yearOfEra day = 100 * century + 4 * cycle + year ∧
      0 ≤ day - (36524 * century + 1461 * cycle + 365 * year) ∧
      day - (36524 * century + 1461 * cycle + 365 * year) < 366 := by
  refine ⟨min (day / 36524) 3, (day - 36524 * min (day / 36524) 3) / 1461,
    min ((day - 36524 * min (day / 36524) 3
      - 1461 * ((day - 36524 * min (day / 36524) 3) / 1461)) / 365) 3, ?_⟩
  have century : 0 ≤ min (day / 36524) 3 ∧ min (day / 36524) 3 ≤ 3 := by omega
  have after : 0 ≤ day - 36524 * min (day / 36524) 3 ∧
      day - 36524 * min (day / 36524) 3 ≤ 36524 := by omega
  generalize hc : min (day / 36524) 3 = c at *
  have cycle : 0 ≤ (day - 36524 * c) / 1461 ∧ (day - 36524 * c) / 1461 ≤ 24 := by omega
  have left : 0 ≤ day - 36524 * c - 1461 * ((day - 36524 * c) / 1461) ∧
      day - 36524 * c - 1461 * ((day - 36524 * c) / 1461) ≤ 1460 := by omega
  refine ⟨century, cycle, by omega, by simp only [yearOfEra, hc], ?_⟩
  generalize (day - 36524 * c) / 1461 = q at *
  omega

theorem yearOfEra_bounds (day : Int) (low : 0 ≤ day) (high : day < 146097) :
    0 ≤ yearOfEra day ∧ yearOfEra day < 400 := by
  obtain ⟨century, cycle, year, _, _, _, split, _⟩ := yearOfEra_split low high
  omega

theorem dayOfYear_bounds (day : Int) (low : 0 ≤ day) (high : day < 146097) :
    0 ≤ day - daysBeforeYear (yearOfEra day) ∧ day - daysBeforeYear (yearOfEra day) < 366 := by
  obtain ⟨century, cycle, year, _, hcycle, hyear, split, _⟩ := yearOfEra_split low high
  have leap : (100 * century + 4 * cycle + year) / 4 = 25 * century + cycle := by omega
  have hundred : (100 * century + 4 * cycle + year) / 100 = century := by omega
  rw [split, daysBeforeYear, leap, hundred]
  omega

theorem civilFromDays_bounds (days : Int) :
    0 < (civilFromDays days).month ∧ (civilFromDays days).month ≤ 12 ∧
      0 < (civilFromDays days).day ∧ (civilFromDays days).day ≤ 31 := by
  have within := dayOfYear_bounds ((days + 719468) % 146097) (by omega) (by omega)
  simp only [civilFromDays, Civil.ofMarch, daysBeforeMonth]
  generalize (days + 719468) % 146097 - daysBeforeYear _ = dayOfYear at within
  omega

theorem daysFromCivil_civilFromDays (days : Int) : daysFromCivil (civilFromDays days) = days := by
  have era := yearOfEra_bounds ((days + 719468) % 146097) (by omega) (by omega)
  have within := dayOfYear_bounds ((days + 719468) % 146097) (by omega) (by omega)
  unfold civilFromDays
  dsimp only
  rw [daysFromCivil_ofMarch (by omega) (by omega)]
  have yearBack : (yearOfEra ((days + 719468) % 146097) + (days + 719468) / 146097 * 400) % 400 =
      yearOfEra ((days + 719468) % 146097) := by omega
  rw [yearBack]
  omega

theorem civilFromDays_year (days : Int) (low : -100000000 ≤ days) (high : days ≤ 100000000) :
    -1000000 < (civilFromDays days).year ∧ (civilFromDays days).year < 1000000 := by
  have era := yearOfEra_bounds ((days + 719468) % 146097) (by omega) (by omega)
  simp only [civilFromDays, Civil.ofMarch]
  generalize yearOfEra _ = year at era
  split <;> omega

/-- The largest time value, in milliseconds either side of the epoch. -/
def maxTime : Int := 8640000000000000

def msPerDay : Int := 86400000

/-- A time value, or `none` for `NaN`. -/
def clip (time : Int) : Option Int := if -maxTime ≤ time ∧ time ≤ maxTime then some time else none

/-- `new Date(number).getTime()`: the number without its fraction. -/
def timeClip (number : ℚ) : Option Int := clip (if 0 ≤ number then number.floor else number.ceil)

/-- A number in a fixed count of decimal digits. -/
def padded : Nat → Nat → List UInt16
  | 0, _ => []
  | width + 1, n => padded width (n / 10) ++ [(n % 10 + 0x30).toUInt16]

/-- The year: four digits, or a sign and six. -/
def yearText (year : Int) : List UInt16 :=
  if 0 ≤ year ∧ year ≤ 9999 then padded 4 year.toNat
  else (if year < 0 then 0x2d else 0x2b) :: padded 6 year.natAbs

/-- The text of a time value. -/
def isoUnits (time : Int) : List UInt16 :=
  let date := civilFromDays (time / msPerDay)
  let ms := (time % msPerDay).toNat
  yearText date.year ++ 0x2d :: padded 2 date.month.toNat ++ 0x2d :: padded 2 date.day.toNat ++
    0x54 :: padded 2 (ms / 3600000) ++ 0x3a :: padded 2 (ms / 60000 % 60) ++
    0x3a :: padded 2 (ms / 1000 % 60) ++ 0x2e :: padded 3 (ms % 1000) ++ [0x5a]

/-- `date.toISOString()`; out of range is a `RangeError`. -/
def toISOString (time : Int) : Option JsString := (clip time).map fun time => ⟨isoUnits time⟩

def isDigit (u : UInt16) : Bool := 0x30 ≤ u.toNat && u.toNat ≤ 0x39

/-- A number of exactly `width` digits at the head of the input. -/
def readPadded (width : Nat) (input : List UInt16) : Option (Nat × List UInt16) :=
  if (input.take width).length = width ∧ (input.take width).all isDigit then
    some ((input.take width).foldl (fun n u => 10 * n + (u.toNat - 0x30)) 0, input.drop width)
  else none

/-- A given code unit at the head of the input. -/
def readUnit (unit : UInt16) : List UInt16 → Option (List UInt16)
  | [] => none
  | u :: rest => if u = unit then some rest else none

def readYear (input : List UInt16) : Option (Int × List UInt16) :=
  match readUnit 0x2d input, readUnit 0x2b input with
  | some rest, _ => (readPadded 6 rest).map fun (n, rest) => (-n, rest)
  | _, some rest => (readPadded 6 rest).map fun (n, rest) => (n, rest)
  | none, none => (readPadded 4 input).map fun (n, rest) => (n, rest)

/-- The time value a text in the form of `isoUnits` denotes. -/
def readIso (input : List UInt16) : Option Int := do
  let (year, input) ← readYear input
  let (month, input) ← readPadded 2 (← readUnit 0x2d input)
  let (day, input) ← readPadded 2 (← readUnit 0x2d input)
  let (hour, input) ← readPadded 2 (← readUnit 0x54 input)
  let (minute, input) ← readPadded 2 (← readUnit 0x3a input)
  let (second, input) ← readPadded 2 (← readUnit 0x3a input)
  let (ms, _) ← readPadded 3 (← readUnit 0x2e input)
  return daysFromCivil ⟨year, month, day⟩ * msPerDay +
    (hour * 3600000 + minute * 60000 + second * 1000 + ms : Nat)

/-- `Date.parse(text)`. -/
def parse (host : Host) (text : JsString) : Option Int :=
  match readIso text.units with
  | some time => if toISOString time = some text then some time else (host.parseOther text).bind clip
  | none => (host.parseOther text).bind clip

@[simp] theorem length_padded (width n : Nat) : (padded width n).length = width := by
  induction width generalizing n with
  | zero => rfl
  | succ width ih => simp [padded, ih]

theorem digit_toNat (n : Nat) : (n % 10 + 0x30).toUInt16.toNat = n % 10 + 0x30 := by
  simp only [Nat.toUInt16, UInt16.toNat_ofNat']
  omega

theorem padded_digits (width n : Nat) : (padded width n).all isDigit = true := by
  induction width generalizing n with
  | zero => rfl
  | succ width ih =>
    have last : isDigit (n % 10 + 0x30).toUInt16 = true := by
      simp only [isDigit, digit_toNat, Bool.and_eq_true, decide_eq_true_eq]
      omega
    rw [padded, List.all_append, ih, List.all_cons, last]
    rfl

theorem padded_value (bound : n < 10 ^ width) :
    (padded width n).foldl (fun n u => 10 * n + (u.toNat - 0x30)) 0 = n := by
  induction width generalizing n with
  | zero =>
    simp only [pow_zero] at bound
    simp [padded]
    omega
  | succ width ih =>
    have smaller : n / 10 < 10 ^ width := by
      rw [pow_succ] at bound
      omega
    rw [padded, List.foldl_append, ih smaller]
    simp only [List.foldl_cons, List.foldl_nil, digit_toNat]
    omega

@[simp] theorem readUnit_cons (unit : UInt16) (rest : List UInt16) :
    readUnit unit (unit :: rest) = some rest := by simp [readUnit]

theorem readPadded_padded (width n : Nat) (bound : n < 10 ^ width) (rest : List UInt16) :
    readPadded width (padded width n ++ rest) = some (n, rest) := by
  have front : (padded width n ++ rest).take width = padded width n := by
    rw [List.take_append_of_le_length (by simp), List.take_of_length_le (by simp)]
  have back : (padded width n ++ rest).drop width = rest := by
    rw [List.drop_append_of_le_length (by simp), List.drop_of_length_le (by simp), List.nil_append]
  rw [readPadded, front, back, padded_value bound]
  simp [padded_digits]

/-- The first digit of a padded number is no sign. -/
theorem readUnit_padded {unit : UInt16} (sign : unit < 0x30) (n : Nat) (rest : List UInt16) :
    readUnit unit (padded (width + 1) n ++ rest) = none := by
  have digits := padded_digits (width + 1) n
  have long : (padded (width + 1) n).length = width + 1 := length_padded _ _
  cases shape : padded (width + 1) n with
  | nil => simp [shape] at long
  | cons u tail =>
    simp only [shape, List.all_cons, isDigit, Bool.and_eq_true, decide_eq_true_eq] at digits
    have differ : u ≠ unit := by
      rintro rfl
      rw [UInt16.lt_iff_toNat_lt] at sign
      exact absurd digits.1.1 (Nat.not_le.mpr sign)
    simp [readUnit, differ]

theorem readYear_yearText (low : -1000000 < year) (high : year < 1000000) (rest : List UInt16) :
    readYear (yearText year ++ rest) = some (year, rest) := by
  unfold yearText
  by_cases short : 0 ≤ year ∧ year ≤ 9999
  · simp only [short, and_self, ↓reduceIte, readYear]
    rw [readUnit_padded (by decide), readUnit_padded (by decide)]
    simp only [readPadded_padded 4 year.toNat (by omega), Option.map_some]
    simp [short]
  · have digits := readPadded_padded 6 year.natAbs (by omega) rest
    by_cases negative : year < 0
    · have back : -|year| = year := by rw [abs_of_neg negative, neg_neg]
      simp [short, negative, readYear, digits, back]
    · have back : |year| = year := abs_of_nonneg (by omega)
      simp [short, negative, readYear, digits, back, readUnit]

/-- The text of a time value reads back as that value. -/
theorem readIso_isoUnits (low : -maxTime ≤ time) (high : time ≤ maxTime) :
    readIso (isoUnits time) = some time := by
  unfold maxTime at low high
  have year := civilFromDays_year (time / msPerDay) (by unfold msPerDay; omega)
    (by unfold msPerDay; omega)
  have date := civilFromDays_bounds (time / msPerDay)
  have back := daysFromCivil_civilFromDays (time / msPerDay)
  have ms : (time % msPerDay).toNat < 86400000 := by unfold msPerDay; omega
  have split : time = time / msPerDay * msPerDay + (time % msPerDay).toNat := by
    unfold msPerDay
    omega
  unfold isoUnits readIso
  generalize civilFromDays (time / msPerDay) = c at *
  generalize (time % msPerDay).toNat = t at *
  simp only [List.append_assoc, List.cons_append, readYear_yearText year.1 year.2,
    Option.bind_eq_bind, Option.bind_some, readUnit_cons]
  rw [readPadded_padded _ _ (by omega)]
  simp only [Option.bind_some, readUnit_cons]
  rw [readPadded_padded _ _ (by omega)]
  simp only [Option.bind_some, readUnit_cons]
  rw [readPadded_padded _ _ (by omega)]
  simp only [Option.bind_some, readUnit_cons]
  rw [readPadded_padded _ _ (by omega)]
  simp only [Option.bind_some, readUnit_cons]
  rw [readPadded_padded _ _ (by omega)]
  simp only [Option.bind_some, readUnit_cons]
  rw [readPadded_padded _ _ (by omega)]
  have month : (c.month.toNat : Int) = c.month := by omega
  have day : (c.day.toNat : Int) = c.day := by omega
  simp only [Option.bind_some, month, day, back, Option.pure_def, Option.some.injEq]
  omega

theorem clip_eq_some_iff : clip time = some t ↔ t = time ∧ -maxTime ≤ time ∧ time ≤ maxTime := by
  by_cases range : -maxTime ≤ time ∧ time ≤ maxTime <;> simp [clip, range, eq_comm]

/-- `Date.parse` reads what `toISOString` wrote. -/
theorem parse_toISOString {host : Host} (written : toISOString time = some text) :
    parse host text = some time := by
  obtain ⟨t, clipped, shape⟩ := Option.map_eq_some_iff.mp written
  obtain ⟨rfl, low, high⟩ := clip_eq_some_iff.mp clipped
  have read : readIso text.units = some t := by
    rw [← shape]
    exact readIso_isoUnits low high
  simp [parse, read, written]

/-- What `Date.parse` answers is a time value. -/
theorem clip_of_parse {host : Host} (parsed : parse host text = some time) :
    clip time = some time := by
  unfold parse at parsed
  split at parsed
  · split at parsed
    · rename_i written
      cases parsed
      obtain ⟨t, clipped, _⟩ := Option.map_eq_some_iff.mp written
      obtain ⟨rfl, _⟩ := clip_eq_some_iff.mp clipped
      exact clipped
    · obtain ⟨t, _, clipped⟩ := Option.bind_eq_some_iff.mp parsed
      obtain ⟨rfl, _⟩ := clip_eq_some_iff.mp clipped
      exact clipped
  · obtain ⟨t, _, clipped⟩ := Option.bind_eq_some_iff.mp parsed
    obtain ⟨rfl, _⟩ := clip_eq_some_iff.mp clipped
    exact clipped

theorem timeClip_intCast (time : Int) : timeClip time = clip time := by
  by_cases positive : 0 ≤ time <;> simp [timeClip, positive, Rat.floor_intCast, Rat.ceil_intCast]

/-- Dropping the fraction respects the order. -/
theorem timeClip_mono (le : x ≤ y) (hx : timeClip x = some a) (hy : timeClip y = some b) :
    a ≤ b := by
  obtain ⟨rfl, _⟩ := clip_eq_some_iff.mp hx
  obtain ⟨rfl, _⟩ := clip_eq_some_iff.mp hy
  by_cases hx : 0 ≤ x
  · simp only [hx, hx.trans le, ↓reduceIte]
    exact Rat.floor_monotone le
  · by_cases hy : 0 ≤ y
    · simp only [hx, hy, ↓reduceIte]
      have below : x.ceil ≤ 0 := Rat.ceil_le_iff.mpr (by push_cast; exact (not_le.mp hx).le)
      have above : 0 ≤ y.floor := Rat.le_floor_iff.mpr (by push_cast; exact hy)
      exact below.trans above
    · simp only [hx, hy, ↓reduceIte]
      exact Rat.ceil_le_iff.mpr (le.trans Rat.le_ceil)

example : toISOString 951868799999 = some "2000-02-29T23:59:59.999Z" := by decide +kernel

end Date
end PiToPi
