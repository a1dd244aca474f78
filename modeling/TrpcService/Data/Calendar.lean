import Mathlib.Data.Nat.Find
import Mathlib.Tactic.MkIffOfInductiveProp
import Mathlib.Tactic.SplitIfs
import TrpcService.Data.Decimal
import TrpcService.Data.EncodedText

namespace TrpcService.Data.Calendar

open Decimal

/-! Dates with a time of day, in or out of a time zone, and their ISO form. -/

def isLeap (year : Nat) : Bool := year % 4 == 0 && (year % 100 != 0 || year % 400 == 0)

def daysInMonth (year month : Nat) : Nat := if month = 2 then (if isLeap year then 29 else 28)
  else if month = 4 ∨ month = 6 ∨ month = 9 ∨ month = 11 then 30
  else 31

def daysOfYears (years : Nat) : Nat := years * 365 + years / 4 - years / 100 + years / 400

def daysOfMonths (year : Nat) : Nat → Nat
  | 0 => 0
  | months + 1 => daysOfMonths year months + daysInMonth year (months + 1)

def dayMicros : Nat := 86400000000

/-- The microseconds of the years 1 to 9999. -/
def maxMicros : Nat := daysOfYears 9999 * dayMicros

structure Clock where
  year : Nat
  month : Nat
  day : Nat
  hour : Nat
  minute : Nat
  second : Nat
  microsecond : Nat
  deriving DecidableEq, Repr

namespace Clock

@[mk_iff] structure Valid (clock : Clock) : Prop where
  year_pos : 1 ≤ clock.year
  year_le : clock.year ≤ 9999
  month_pos : 1 ≤ clock.month
  month_le : clock.month ≤ 12
  day_pos : 1 ≤ clock.day
  day_le : clock.day ≤ daysInMonth clock.year clock.month
  hour_lt : clock.hour < 24
  minute_lt : clock.minute < 60
  second_lt : clock.second < 60
  microsecond_lt : clock.microsecond < 1000000

instance (clock : Clock) : Decidable clock.Valid := decidable_of_iff _ (valid_iff clock).symm

/-- Microseconds since the start of the first year. -/
def micros (clock : Clock) : Nat :=
  (daysOfYears (clock.year - 1) + daysOfMonths clock.year (clock.month - 1) +
      (clock.day - 1)) * dayMicros +
    ((clock.hour * 60 + clock.minute) * 60 + clock.second) * 1000000 +
    clock.microsecond

def ofMicros (micros : Nat) : Clock :=
  let days := micros / dayMicros
  let years := Nat.findGreatest (daysOfYears · ≤ days) 9998
  let inYear := days - daysOfYears years
  let months := Nat.findGreatest (daysOfMonths (years + 1) · ≤ inYear) 11
  let rest := micros % dayMicros
  { year := years + 1
    month := months + 1
    day := inYear - daysOfMonths (years + 1) months + 1
    hour := rest / 3600000000
    minute := rest / 60000000 % 60
    second := rest / 1000000 % 60
    microsecond := rest % 1000000 }

/-- `isoformat` without the time zone. -/
def iso (clock : Clock) : List Char := padded 4 clock.year ++ '-' :: (padded 2 clock.month ++
    '-' :: (padded 2 clock.day ++ 'T' :: (padded 2 clock.hour ++
      ':' :: (padded 2 clock.minute ++ ':' :: (padded 2 clock.second ++
        if clock.microsecond = 0 then []
        else '.' :: padded 6 clock.microsecond)))))

end Clock

theorem place_spec (before : Nat → Nat) (bound value : Nat)
    (start : before 0 ≤ value) (below : value < before (bound + 1)) :
    Nat.findGreatest (before · ≤ value) bound ≤ bound ∧
      before (Nat.findGreatest (before · ≤ value) bound) ≤ value ∧
      value < before (Nat.findGreatest (before · ≤ value) bound + 1) := by
  have small : Nat.findGreatest (before · ≤ value) bound ≤ bound := Nat.findGreatest_le bound
  refine ⟨small, Nat.findGreatest_spec (P := (before · ≤ value)) (Nat.zero_le bound) start, ?_⟩
  rcases Nat.lt_or_eq_of_le small with inside | last
  · exact Nat.lt_of_not_le (Nat.findGreatest_is_greatest
      (P := (before · ≤ value)) (Nat.lt_succ_self _) inside)
  · rw [last]
    exact below

theorem daysOfMonths_twelve (year : Nat) :
    daysOfMonths year 12 = if isLeap year then 366 else 365 := by
  cases leap : isLeap year <;> simp [daysOfMonths, daysInMonth, leap]

theorem daysOfYears_succ (years : Nat) :
    daysOfYears (years + 1) = daysOfYears years + daysOfMonths (years + 1) 12 := by
  have centuries : years / 100 ≤ years / 4 := Nat.div_le_div_left (by decide) (by decide)
  have leap : isLeap (years + 1) = true ↔ 4 ∣ years + 1 ∧ (¬100 ∣ years + 1 ∨ 400 ∣ years + 1) := by
    simp [isLeap, Nat.dvd_iff_mod_eq_zero]
  simp only [daysOfMonths_twelve, daysOfYears, Nat.succ_div, leap]
  by_cases fours : 4 ∣ years + 1
  · by_cases hundreds : 100 ∣ years + 1
    · by_cases more : 400 ∣ years + 1
      · simp only [fours, hundreds, more, if_true, or_true, and_true]
        omega
      · simp only [fours, hundreds, more, if_true, if_false, not_true, or_false, and_false]
        omega
    · have none : ¬400 ∣ years + 1 := fun more =>
        hundreds (Dvd.dvd.trans (by decide) more)
      simp only [fours, hundreds, none, if_true, if_false, not_false_iff, true_or, and_true]
      omega
  · have hundreds : ¬100 ∣ years + 1 := fun more =>
      fours (Dvd.dvd.trans (by decide) more)
    have none : ¬400 ∣ years + 1 := fun more => fours (Dvd.dvd.trans (by decide) more)
    simp only [fours, hundreds, none, if_false, false_and]
    omega

theorem Clock.ofMicros_spec {micros : Nat} (small : micros < maxMicros) :
    (ofMicros micros).Valid ∧ (ofMicros micros).micros = micros := by
  have early : micros / dayMicros < daysOfYears 9999 := Nat.div_lt_of_lt_mul (by rwa [Nat.mul_comm])
  have inDay := Nat.mod_lt micros (show dayMicros > 0 by decide)
  have whole := Nat.div_add_mod micros dayMicros
  simp only [ofMicros, Clock.micros]
  generalize micros / dayMicros = days at *
  generalize micros % dayMicros = rest at *
  obtain ⟨lastYear, yearBegun, yearOpen⟩ := place_spec daysOfYears 9998 days (Nat.zero_le _) early
  generalize Nat.findGreatest (daysOfYears · ≤ days) 9998 = years at *
  rw [daysOfYears_succ] at yearOpen
  obtain ⟨lastMonth, monthBegun, monthOpen⟩ := place_spec (daysOfMonths (years + 1)) 11
    (days - daysOfYears years) (Nat.zero_le _) (Nat.sub_lt_left_of_lt_add yearBegun yearOpen)
  generalize Nat.findGreatest (daysOfMonths (years + 1) · ≤
    days - daysOfYears years) 11 = months at *
  rw [daysOfMonths] at monthOpen
  rw [show dayMicros = 86400000000 from rfl] at inDay whole ⊢
  constructor
  · constructor <;> simp only <;> omega
  · simp only [Nat.add_sub_cancel]
    omega

abbrev ValidClock := {clock : Clock // clock.Valid}

/-- A time zone, by how far it is ahead at the moment in question. -/
inductive Zone where
  | utc
  | other (offset : {micros : Int // micros.natAbs < dayMicros})
  deriving DecidableEq

structure Datetime where
  clock : ValidClock
  zone : Option Zone
  deriving DecidableEq

/-- `astimezone(UTC)`; the result can lie outside of the years 1 to 9999. -/
def ValidClock.astimezone (clock : ValidClock) : Zone → Option ValidClock
  | .utc => some clock
  | .other offset =>
      let instant : Int := clock.1.micros - offset.1
      if inside : 0 ≤ instant ∧ instant < maxMicros then
        some ⟨.ofMicros instant.toNat, (Clock.ofMicros_spec (by omega)).1⟩
      else none

def ValidClock.isoformat (clock : ValidClock) : List Char := clock.1.iso ++ "+00:00".toList

def readFraction (text : List Char) : Option (Nat × List Char) :=
  if text.head? = some '.' then readDigits 6 0 text.tail else some (0, text)

def readZone : List Char → Option (Option Zone)
  | [] => some none
  | sign :: text => do
      let (hours, text) ← readDigits 2 0 text
      let text ← expect ':' text
      let (minutes, text) ← readDigits 2 0 text
      let offset : Int := (hours * 60 + minutes) * 60000000
      let offset := if sign = '-' then -offset else offset
      if (sign = '+' ∨ sign = '-') ∧ minutes < 60 ∧ text = [] then
        if offset = 0 then some (some .utc)
        else if bounded : offset.natAbs < dayMicros then
          some (some (.other ⟨offset, bounded⟩))
        else none
      else none

def readTriple (width : Nat) (mark : Char) (text : List Char) :
    Option (Nat × Nat × Nat × List Char) := do
  let (first, text) ← readDigits width 0 text
  let text ← expect mark text
  let (second, text) ← readDigits 2 0 text
  let text ← expect mark text
  let (third, text) ← readDigits 2 0 text
  some (first, second, third, text)

/-- The form that `isoformat` writes, with any character before the time. -/
def readIso (text : List Char) : Option Datetime := do
  let (year, month, day, text) ← readTriple 4 '-' text
  let text ← text.tail?
  let (hour, minute, second, text) ← readTriple 2 ':' text
  let (microsecond, text) ← readFraction text
  let zone ← readZone text
  if valid : (Clock.mk year month day hour minute second microsecond).Valid then
    some ⟨⟨_, valid⟩, zone⟩
  else none

theorem readTriple_padded {width first second third : Nat} {mark : Char} (rest : List Char)
    (one : first < 10 ^ width) (two : second < 10 ^ 2) (three : third < 10 ^ 2) :
    readTriple width mark (padded width first ++ mark :: (padded 2 second ++
      mark :: (padded 2 third ++ rest))) = some (first, second, third, rest) := by
  rw [readTriple, readDigits_padded, Nat.mod_eq_of_lt one]
  simp only [Option.bind_eq_bind, Option.bind_some, expect, if_true]
  rw [readDigits_padded, Nat.mod_eq_of_lt two]
  simp only [Option.bind_some, if_true]
  rw [readDigits_padded, Nat.mod_eq_of_lt three]
  simp

theorem Clock.Valid.day_lt {clock : Clock} (valid : clock.Valid) : clock.day < 32 := by
  have days : daysInMonth clock.year clock.month ≤ 31 := by
    unfold daysInMonth
    split_ifs <;> decide
  exact Nat.lt_succ_of_le (valid.day_le.trans days)

theorem readFraction_iso {microsecond : Nat} (small : microsecond < 1000000) :
    readFraction ((if microsecond = 0 then []
      else '.' :: padded 6 microsecond) ++ "+00:00".toList) =
        some (microsecond, "+00:00".toList) := by
  by_cases zero : microsecond = 0
  · rw [if_pos zero, zero]
    decide +kernel
  · rw [if_neg zero, List.cons_append, readFraction, List.head?_cons, if_pos rfl, List.tail_cons,
      readDigits_padded, Nat.zero_mul, Nat.zero_add, Nat.mod_eq_of_lt (b := 10 ^ 6) small]

theorem readIso_isoformat (clock : ValidClock) :
    readIso clock.isoformat = some ⟨clock, some .utc⟩ := by
  obtain ⟨clock, valid⟩ := clock
  have year := valid.year_le
  have month := valid.month_le
  have day := valid.day_lt
  have hour := valid.hour_lt
  have minute := valid.minute_lt
  have second := valid.second_lt
  have fraction := readFraction_iso valid.microsecond_lt
  have zone : readZone "+00:00".toList = some (some .utc) := by
    decide +kernel
  simp only [ValidClock.isoformat, Clock.iso, List.append_assoc, List.cons_append]
  generalize "+00:00".toList = written at fraction zone ⊢
  rw [readIso, readTriple_padded _ (by omega) (by omega) (by omega)]
  simp only [Option.bind_eq_bind, Option.bind_some, List.tail?_cons]
  rw [readTriple_padded _ (by omega) (by omega) (by omega)]
  simp only [Option.bind_some, fraction, zone]
  exact dif_pos valid

theorem Clock.mem_iso {clock : Clock} {char : Char} (member : char ∈ clock.iso) :
    char ∈ "0123456789-T:.".toList := by
  have digits : ∀ width value, char ∈ padded width value → char ∈ "0123456789-T:.".toList := by
    intro width value member
    obtain ⟨value, rfl⟩ := mem_padded member
    have all : ∀ last : Fin 10, Char.ofNat (48 + last) ∈ "0123456789-T:.".toList := by
      decide +kernel
    exact all (Fin.ofNat 10 value)
  have marks : ['-', 'T', ':', '.'] ⊆ "0123456789-T:.".toList := by decide +kernel
  have fraction : char ∈ (if clock.microsecond = 0 then [] else '.' :: padded 6 clock.microsecond) →
      char ∈ "0123456789-T:.".toList := by
    intro member
    split at member
    · cases member
    · rcases List.mem_cons.mp member with rfl | later
      · exact marks (by simp)
      · exact digits _ _ later
  simp only [iso, List.mem_append, List.mem_cons] at member
  rcases member with year | rfl | month | rfl | day | rfl | hour | rfl | minute | rfl | second |
    rest
  · exact digits _ _ year
  · exact marks (by simp)
  · exact digits _ _ month
  · exact marks (by simp)
  · exact digits _ _ day
  · exact marks (by simp)
  · exact digits _ _ hour
  · exact marks (by simp)
  · exact digits _ _ minute
  · exact marks (by simp)
  · exact digits _ _ second
  · exact fraction rest

theorem ValidClock.mem_isoformat {clock : ValidClock} {char : Char}
    (member : char ∈ clock.isoformat) : char ∈ "0123456789-T:.+".toList := by
  have wider : "0123456789-T:.".toList ⊆ "0123456789-T:.+".toList := by decide +kernel
  have zone : "+00:00".toList ⊆ "0123456789-T:.+".toList := by decide +kernel
  rcases List.mem_append.mp member with early | late
  · exact wider (Clock.mem_iso early)
  · exact zone late

theorem Clock.iso_ne {mark : Char} (outside : mark ∉ "0123456789-T:.".toList)
    (clock : Clock) : ∀ char ∈ clock.iso, char ≠ mark := by
  rintro char member rfl
  exact outside (mem_iso member)

theorem replaceAll_isoformat (clock : ValidClock) : replaceAll "Z".toList "+00:00".toList 0
      (replaceAll "+00:00".toList "Z".toList 0 clock.isoformat) = clock.isoformat := by
  have plus : "+00:00".toList = '+' :: "00:00".toList := by decide +kernel
  have zed : "Z".toList = ['Z'] := by decide +kernel
  have written : replaceAll "+00:00".toList ['Z'] 0 clock.isoformat = clock.1.iso ++ ['Z'] := by
    rw [ValidClock.isoformat, plus, replaceAll_append (clock.1.iso_ne (by decide +kernel))]
    exact congrArg (clock.1.iso ++ ·) (by decide +kernel)
  rw [zed, written, replaceAll_append (clock.1.iso_ne (by decide +kernel))]
  exact congrArg (clock.1.iso ++ ·) (by decide +kernel)

end TrpcService.Data.Calendar
