import Mathlib.Algebra.Order.Ring.Nat
import Mathlib.Data.List.Basic

/-!
# ISO 8601 timestamps

The proleptic Gregorian calendar from year 1 to 9999, the texts that
`datetime.isoformat` writes for a UTC time, and the texts that
`datetime.fromisoformat` reads.  A time is a number of microseconds since the
start of year 1.  Reading a written text gives the time back.
-/

namespace Foundation
namespace IsoFormat

/-!
## The calendar

Years and days are counted from zero here, months and days of a month from
one.
-/

def isLeap (year : Nat) : Bool :=
  year % 4 = 0 && (year % 100 != 0 || year % 400 = 0)

/-- Days before January 1 of the year. -/
def daysBeforeYear (year : Nat) : Nat :=
  let y := year - 1
  y * 365 + y / 4 - y / 100 + y / 400

def monthLengths (year : Nat) : List Nat :=
  [31, if isLeap year then 29 else 28, 31, 30, 31, 30, 31, 31, 30, 31, 30, 31]

structure Date where
  year : Nat
  month : Nat
  day : Nat
deriving DecidableEq, Repr

/-- The date exists and is between year 1 and year 9999. -/
def Date.Valid (date : Date) : Prop :=
  1 <= date.year ∧ date.year <= 9999 ∧ 1 <= date.month ∧ date.month <= 12 ∧
    1 <= date.day ∧ date.day <= (monthLengths date.year).getD (date.month - 1) 0

instance decidableValid (date : Date) : Decidable date.Valid :=
  inferInstanceAs (Decidable (_ ∧ _ ∧ _ ∧ _ ∧ _ ∧ _))

/-- Days before the date. -/
def Date.number (date : Date) : Nat :=
  daysBeforeYear date.year + ((monthLengths date.year).take (date.month - 1)).sum +
    (date.day - 1)

def daysInCalendar : Nat := 3652059

/-- The year of a day, and the number of the day in it. -/
def yearDay (n : Nat) : Nat × Nat :=
  let quadricentury := n / 146097
  let century := min (n % 146097 / 36524) 3
  let inCentury := n % 146097 - 36524 * century
  let quadrennium := inCentury / 1461
  let year := min (inCentury % 1461 / 365) 3
  (400 * quadricentury + 100 * century + 4 * quadrennium + year + 1,
    inCentury % 1461 - 365 * year)

/-- The month of a day of the year, and the number of the day in it. -/
def monthDay : List Nat -> Nat -> Nat × Nat
  | [], r => (1, r + 1)
  | length :: rest, r =>
      if r < length then (1, r + 1)
      else
        let later := monthDay rest (r - length)
        (later.1 + 1, later.2)

/-- The date of a day. -/
def dateOf (n : Nat) : Date :=
  let inYear := yearDay n
  let inMonth := monthDay (monthLengths inYear.1) inYear.2
  ⟨inYear.1, inMonth.1, inMonth.2⟩

/-- The days before a year, with its number split by the leap cycles. -/
theorem daysBeforeYear_split {a b c d : Nat} (hb : b <= 3) (hc : c <= 24) (hd : d <= 3) :
    daysBeforeYear (400 * a + 100 * b + 4 * c + d + 1) =
      146097 * a + 36524 * b + 1461 * c + 365 * d := by
  have hfour : (400 * a + 100 * b + 4 * c + d) / 4 = 100 * a + 25 * b + c := by omega
  have hcentury : (400 * a + 100 * b + 4 * c + d) / 100 = 4 * a + b := by omega
  have hquad : (400 * a + 100 * b + 4 * c + d) / 400 = a := by omega
  simp only [daysBeforeYear, Nat.add_sub_cancel]
  rw [hfour, hcentury, hquad]
  omega

/-- The last year of a leap cycle is a leap year, except at most centuries. -/
theorem isLeap_split {a b c : Nat} (hc : c <= 24) (hlast : c = 24 -> b = 3) :
    isLeap (400 * a + 100 * b + 4 * c + 3 + 1) = true := by
  unfold isLeap
  rw [Bool.and_eq_true, Bool.or_eq_true, decide_eq_true_eq, decide_eq_true_eq, bne_iff_ne]
  omega

theorem yearDay_spec (n : Nat) :
    1 <= (yearDay n).1 ∧ daysBeforeYear (yearDay n).1 + (yearDay n).2 = n ∧
      (yearDay n).2 < 365 + (isLeap (yearDay n).1).toNat := by
  unfold yearDay
  generalize hb : min (n % 146097 / 36524) 3 = b
  simp only
  generalize hs : n % 146097 - 36524 * b = s
  generalize hd : min (s % 1461 / 365) 3 = d
  have hb3 : b <= 3 := by omega
  have hc24 : s / 1461 <= 24 := by omega
  have hd3 : d <= 3 := by omega
  rw [daysBeforeYear_split hb3 hc24 hd3]
  refine ⟨by omega, by omega, ?_⟩
  by_cases hlong : s % 1461 - 365 * d < 365
  · exact Nat.lt_add_right _ hlong
  · have hlastYear : d = 3 := by omega
    subst hlastYear
    rw [isLeap_split hc24 (by omega)]
    simp only [Bool.toNat_true]
    omega

theorem monthDay_spec : forall (lengths : List Nat) (r : Nat), r < lengths.sum ->
    1 <= (monthDay lengths r).1 ∧ (monthDay lengths r).1 <= lengths.length ∧
      1 <= (monthDay lengths r).2 ∧
      (monthDay lengths r).2 <= lengths.getD ((monthDay lengths r).1 - 1) 0 ∧
      (lengths.take ((monthDay lengths r).1 - 1)).sum + ((monthDay lengths r).2 - 1) = r
  | [], r, h => by
      rw [List.sum_nil] at h
      exact absurd h (Nat.not_lt_zero r)
  | length :: rest, r, h => by
      rw [List.sum_cons] at h
      rw [monthDay]
      split
      · rename_i hlt
        simp
        omega
      · rename_i hge
        have hrest : r - length < rest.sum := by omega
        rcases monthDay_spec rest (r - length) hrest with ⟨hm, hm', hd, hd', hsum⟩
        generalize monthDay rest (r - length) = later at hm hm' hd hd' hsum
        rcases later with ⟨month, day⟩
        simp only at hm hm' hd hd' hsum ⊢
        rcases Nat.exists_eq_add_of_le' hm with ⟨month', hmonth⟩
        subst hmonth
        simp only [Nat.add_sub_cancel] at hd' hsum
        simp only [Nat.add_sub_cancel, List.length_cons, List.getD_cons_succ,
          List.take_succ_cons, List.sum_cons]
        omega

theorem yearDay_year_le {n : Nat} (h : n < daysInCalendar) : (yearDay n).1 <= 9999 := by
  unfold daysInCalendar at h
  simp only [yearDay]
  omega

theorem sum_monthLengths (year : Nat) :
    (monthLengths year).sum = 365 + (isLeap year).toNat := by
  unfold monthLengths
  cases isLeap year <;> rfl

/-- The date of a day of the calendar exists, and the day is its number. -/
theorem dateOf_spec {n : Nat} (h : n < daysInCalendar) :
    (dateOf n).Valid ∧ (dateOf n).number = n := by
  rcases yearDay_spec n with ⟨hyear, hdays, hday⟩
  have hlast := yearDay_year_le h
  have hsum : (yearDay n).2 < (monthLengths (yearDay n).1).sum := by
    rw [sum_monthLengths]
    exact hday
  rcases monthDay_spec _ _ hsum with ⟨hm, hm', hd, hd', hnumber⟩
  refine ⟨⟨hyear, hlast, hm, hm', hd, hd'⟩, ?_⟩
  unfold Date.number dateOf
  simp only
  rw [Nat.add_assoc, hnumber]
  exact hdays

/-!
## Digits
-/

def digitChar (n : Nat) : Char := Char.ofNat (48 + n)

def digitValue (c : Char) : Option Nat :=
  if '0' <= c ∧ c <= '9' then some (c.toNat - 48) else none

/-- The next digits of a text, read after the number `value`. -/
def takeDigits : Nat -> Nat -> List Char -> Option (Nat × List Char)
  | 0, value, cs => some (value, cs)
  | _ + 1, _, [] => none
  | count + 1, value, c :: cs =>
      match digitValue c with
      | none => none
      | some d => takeDigits count (value * 10 + d) cs

def digits2 (n : Nat) : List Char := [digitChar (n / 10), digitChar (n % 10)]

def digits4 (n : Nat) : List Char := digits2 (n / 100) ++ digits2 (n % 100)

def digits6 (n : Nat) : List Char := digits4 (n / 100) ++ digits2 (n % 100)

theorem digitValue_digitChar {n : Nat} (h : n < 10) : digitValue (digitChar n) = some n := by
  revert n
  decide

theorem takeDigits_digits2 {n : Nat} (h : n < 100) (value : Nat) (count : Nat)
    (cs : List Char) :
    takeDigits (count + 2) value (digits2 n ++ cs) = takeDigits count (value * 100 + n) cs := by
  have htens : n / 10 < 10 := by omega
  have hunits : n % 10 < 10 := by omega
  have hvalue : (value * 10 + n / 10) * 10 + n % 10 = value * 100 + n := by omega
  simp only [digits2, List.cons_append, List.nil_append, takeDigits,
    digitValue_digitChar htens, digitValue_digitChar hunits, hvalue]

theorem takeDigits_digits4 {n : Nat} (h : n < 10000) (value : Nat) (count : Nat)
    (cs : List Char) :
    takeDigits (count + 4) value (digits4 n ++ cs) =
      takeDigits count (value * 10000 + n) cs := by
  have hhigh : n / 100 < 100 := by omega
  have hlow : n % 100 < 100 := by omega
  have hvalue : (value * 100 + n / 100) * 100 + n % 100 = value * 10000 + n := by omega
  rw [digits4, List.append_assoc, takeDigits_digits2 hhigh, takeDigits_digits2 hlow, hvalue]

theorem takeDigits_digits6 {n : Nat} (h : n < 1000000) (value : Nat) (count : Nat)
    (cs : List Char) :
    takeDigits (count + 6) value (digits6 n ++ cs) =
      takeDigits count (value * 1000000 + n) cs := by
  have hhigh : n / 100 < 10000 := by omega
  have hlow : n % 100 < 100 := by omega
  have hvalue : (value * 10000 + n / 100) * 100 + n % 100 = value * 1000000 + n := by omega
  rw [digits6, List.append_assoc, takeDigits_digits4 hhigh, takeDigits_digits2 hlow, hvalue]

/-!
## Writing
-/

def microsPerDay : Nat := 86400000000

/-- The first time after the calendar. -/
def endOfCalendar : Nat := daysInCalendar * microsPerDay

def formatClock (micros : Nat) : List Char :=
  let second := micros / 1000000
  digits2 (second / 3600) ++ ':' :: digits2 (second / 60 % 60) ++ ':' :: digits2 (second % 60) ++
    if micros % 1000000 = 0 then [] else '.' :: digits6 (micros % 1000000)

def formatDate (date : Date) : List Char :=
  digits4 date.year ++ '-' :: digits2 date.month ++ '-' :: digits2 date.day

/-- `isoformat()` of a time in UTC. -/
def format (t : Nat) : String :=
  String.ofList (formatDate (dateOf (t / microsPerDay)) ++
    'T' :: formatClock (t % microsPerDay) ++ "+00:00".toList)

example : format 1500000 = "0001-01-01T00:00:01.500000+00:00" := by
  decide +kernel

/-!
## Reading
-/

/-- Where the date of a text ends; any character may stand before the time. -/
def separatorAt (cs : List Char) : Option Nat :=
  if cs.length < 7 then none
  else if cs.length = 7 then some 7
  else if cs[4]? = some '-' then
    if cs[5]? = some 'W' then
      if cs[8]? = some '-' then
        if cs.length = 9 then none
        else if (cs[10]?.bind digitValue).isSome then some 8
        else some 10
      else some 8
    else some 10
  else if cs[4]? = some 'W' then
    let digitsEnd := 7 + ((cs.drop 7).takeWhile fun c => (digitValue c).isSome).length
    if digitsEnd < 9 then some digitsEnd
    else if digitsEnd % 2 = 0 then some 7
    else some 8
  else some 8

/-- The day of an ISO week. -/
def weekDay (year week day : Nat) : Option Nat :=
  let first := daysBeforeYear year
  let weekday := first % 7
  let monday := if 3 < weekday then first - weekday + 7 else first - weekday
  let long := weekday = 3 ∨ weekday = 2 ∧ isLeap year
  let n := monday + (week - 1) * 7 + (day - 1)
  if 1 <= year ∧ year <= 9999 ∧ 1 <= week ∧ (week <= 52 ∨ week = 53 ∧ long) ∧
      1 <= day ∧ day <= 7 ∧ n < daysInCalendar then some n
  else none

/-- Drop the mark if the text uses it. -/
def skipMark (used : Bool) (mark : Char) (cs : List Char) : Option (List Char) :=
  if used then
    match cs with
    | [] => none
    | c :: rest => if c = mark then some rest else none
  else some cs

def readWeekDate (dashed : Bool) (year : Nat) (cs : List Char) : Option Nat := do
  let (week, cs) <- takeDigits 2 0 cs
  if cs.isEmpty then
    weekDay year week 1
  else
    let cs <- skipMark dashed '-' cs
    let (day, _) <- takeDigits 1 0 cs
    weekDay year week day

def readMonthDate (dashed : Bool) (year : Nat) (cs : List Char) : Option Nat := do
  let (month, cs) <- takeDigits 2 0 cs
  let cs <- skipMark dashed '-' cs
  let (day, _) <- takeDigits 2 0 cs
  let date : Date := ⟨year, month, day⟩
  if date.Valid then some date.number else none

/-- The day that the date of a text names. -/
def readDate (cs : List Char) : Option Nat := do
  let (year, cs) <- takeDigits 4 0 cs
  let dashed := cs.head? = some '-'
  let cs := if dashed then cs.tail else cs
  if cs.head? = some 'W' then readWeekDate dashed year cs.tail
  else readMonthDate dashed year cs

structure Clock where
  hour : Nat
  minute : Nat := 0
  second : Nat := 0
  micro : Nat := 0
deriving DecidableEq, Repr

def Clock.micros (clock : Clock) : Nat :=
  ((clock.hour * 60 + clock.minute) * 60 + clock.second) * 1000000 + clock.micro

/-- The fraction of a second; digits past the sixth are dropped. -/
def readFraction (cs : List Char) : Option Nat :=
  if cs.isEmpty || cs.any (fun c => (digitValue c).isNone) then none
  else (takeDigits (min cs.length 6) 0 cs).map fun read => read.1 * 10 ^ (6 - min cs.length 6)

def readSeconds (hour minute : Nat) (cs : List Char) : Option Clock := do
  let (second, cs) <- takeDigits 2 0 cs
  match cs with
  | [] => some { hour := hour, minute := minute, second := second }
  | c :: rest =>
      if c = '.' ∨ c = ',' then
        (readFraction rest).map fun micro =>
          { hour := hour, minute := minute, second := second, micro := micro }
      else none

def readMinutes (coloned : Bool) (hour : Nat) (cs : List Char) : Option Clock := do
  let (minute, cs) <- takeDigits 2 0 cs
  if cs.isEmpty then some { hour := hour, minute := minute }
  else
    let cs <- skipMark coloned ':' cs
    readSeconds hour minute cs

/-- `HH[[:]MM[[:]SS[.f+]]]`. -/
def readClock (cs : List Char) : Option Clock := do
  let (hour, cs) <- takeDigits 2 0 cs
  if cs.isEmpty then some { hour := hour }
  else
    let coloned := cs.head? = some ':'
    readMinutes coloned hour (if coloned then cs.tail else cs)

def zoneMark (c : Char) : Bool :=
  c = '+' || c = '-' || c = 'Z'

/-- The offset of a zone, less than a day either way. -/
def readZone : List Char -> Option (Option Int)
  | [] => some none
  | mark :: cs =>
      if mark = 'Z' then
        if cs.isEmpty then some (some 0) else none
      else do
        let clock <- readClock cs
        if clock.micros < microsPerDay then
          some (some (if mark = '-' then -(clock.micros : Int) else clock.micros))
        else none

/-- A reading of the clock on the wall, and the offset of its zone from UTC if
the text has one. -/
structure Stamp where
  wall : Nat
  offset : Option Int
deriving DecidableEq, Repr

def readTime (day : Nat) (cs : List Char) : Option Stamp := do
  let clock <- readClock (cs.takeWhile fun c => !zoneMark c)
  let offset <- readZone (cs.dropWhile fun c => !zoneMark c)
  if clock.hour < 24 ∧ clock.minute < 60 ∧ clock.second < 60 then
    some ⟨day * microsPerDay + clock.micros, offset⟩
  else none

/-- `datetime.fromisoformat`; absent where it raises. -/
def parse (text : String) : Option Stamp := do
  let cs := text.toList
  let separator <- separatorAt cs
  let day <- readDate (cs.take separator)
  let time := cs.drop (separator + 1)
  if time.isEmpty then some ⟨day * microsPerDay, none⟩
  else readTime day time

example : parse "2024-W01-1T00:00Z" = parse "2024-01-01T00:00:00+00:00" := by
  decide +kernel

/-!
## Reading what was written
-/

theorem takeDigits_two {n : Nat} (h : n < 100) (cs : List Char) :
    takeDigits 2 0 (digits2 n ++ cs) = some (n, cs) := by
  rw [show 2 = 0 + 2 from rfl, takeDigits_digits2 h, takeDigits, Nat.zero_mul, Nat.zero_add]

theorem takeDigits_four {n : Nat} (h : n < 10000) (cs : List Char) :
    takeDigits 4 0 (digits4 n ++ cs) = some (n, cs) := by
  rw [show 4 = 0 + 4 from rfl, takeDigits_digits4 h, takeDigits, Nat.zero_mul, Nat.zero_add]

theorem takeDigits_six {n : Nat} (h : n < 1000000) (cs : List Char) :
    takeDigits 6 0 (digits6 n ++ cs) = some (n, cs) := by
  rw [show 6 = 0 + 6 from rfl, takeDigits_digits6 h, takeDigits, Nat.zero_mul, Nat.zero_add]

theorem digitChar_ne {n : Nat} (h : n < 10) : digitChar n ≠ 'W' := by
  revert n
  decide

theorem head?_digits2_append {n : Nat} (h : n < 100) (cs : List Char) :
    (digits2 n ++ cs).head? ≠ some 'W' := by
  intro hhead
  exact digitChar_ne (by omega : n / 10 < 10) (Option.some.inj hhead)

theorem Date.Valid.day_lt {date : Date} (h : date.Valid) : date.day < 100 := by
  rcases h with ⟨_, _, _, _, _, hday⟩
  have hlength : forall n, (monthLengths date.year).getD n 0 <= 31 := by
    intro n
    unfold monthLengths
    cases isLeap date.year <;>
      (rcases n with _ | _ | _ | _ | _ | _ | _ | _ | _ | _ | _ | _ | n <;> simp)
  have := hlength (date.month - 1)
  omega

theorem readDate_formatDate {date : Date} (h : date.Valid) :
    readDate (formatDate date) = some date.number := by
  have hyear : date.year < 10000 := by
    have := h.2.1
    omega
  have hmonth : date.month < 100 := by
    have := h.2.2.2.1
    omega
  unfold readDate formatDate
  rw [List.append_assoc, List.cons_append]
  simp only [takeDigits_four hyear, Option.bind_eq_bind, Option.bind_some, List.head?_cons,
    decide_true, if_true, List.tail_cons]
  rw [if_neg (head?_digits2_append hmonth _)]
  unfold readMonthDate
  simp only [takeDigits_two hmonth, Option.bind_eq_bind, Option.bind_some, skipMark, if_true]
  have hday := takeDigits_two h.day_lt []
  rw [List.append_nil] at hday
  rw [hday]
  simp only [Option.bind_some]
  exact if_pos h

theorem length_digits6 (n : Nat) : (digits6 n).length = 6 := rfl

theorem digitValue_digits6 {n : Nat} (h : n < 1000000) :
    (digits6 n).any (fun c => (digitValue c).isNone) = false := by
  have hdigit : forall m, m < 10 -> (digitValue (digitChar m)).isNone = false := by
    intro m hm
    rw [digitValue_digitChar hm]
    rfl
  simp only [digits6, digits4, digits2, List.cons_append, List.nil_append, List.any_cons,
    List.any_nil, Bool.or_false]
  rw [hdigit _ (by omega), hdigit _ (by omega), hdigit _ (by omega), hdigit _ (by omega),
    hdigit _ (by omega), hdigit _ (by omega)]
  rfl

theorem readFraction_digits6 {n : Nat} (h : n < 1000000) :
    readFraction (digits6 n) = some n := by
  have hread := takeDigits_six h []
  rw [List.append_nil] at hread
  have hnonempty : (digits6 n).isEmpty = false := rfl
  unfold readFraction
  rw [digitValue_digits6 h, length_digits6, hnonempty, Bool.or_false,
    if_neg Bool.false_ne_true, show min 6 6 = 6 from rfl, hread]
  exact congrArg some (Nat.mul_one n)

/-- The clock of a number of microseconds. -/
def clockOf (micros : Nat) : Clock where
  hour := micros / 1000000 / 3600
  minute := micros / 1000000 / 60 % 60
  second := micros / 1000000 % 60
  micro := micros % 1000000

theorem micros_clockOf (micros : Nat) : (clockOf micros).micros = micros := by
  unfold Clock.micros clockOf
  simp only
  omega

theorem readClock_formatClock {micros : Nat} (h : micros < microsPerDay) :
    readClock (formatClock micros) = some (clockOf micros) := by
  have hhour : micros / 1000000 / 3600 < 100 := by
    unfold microsPerDay at h
    omega
  unfold readClock formatClock
  simp only [List.append_assoc, List.cons_append, takeDigits_two hhour, Option.bind_eq_bind,
    Option.bind_some, List.isEmpty_cons, Bool.false_eq_true, if_false, List.head?_cons,
    decide_true, if_true, List.tail_cons]
  unfold readMinutes
  have hminute : micros / 1000000 / 60 % 60 < 100 := by omega
  have hsecond : micros / 1000000 % 60 < 100 := by omega
  simp only [takeDigits_two hminute, Option.bind_eq_bind, Option.bind_some,
    List.isEmpty_cons, Bool.false_eq_true, if_false, skipMark, if_true]
  unfold readSeconds
  simp only [takeDigits_two hsecond, Option.bind_eq_bind, Option.bind_some]
  by_cases hmicro : micros % 1000000 = 0
  · rw [if_pos hmicro]
    simp only [clockOf, hmicro]
  · rw [if_neg hmicro]
    simp only [true_or, if_true, readFraction_digits6 (by omega : micros % 1000000 < 1000000),
      Option.map_some, clockOf]

theorem zoneMark_digitChar {n : Nat} (h : n < 10) : zoneMark (digitChar n) = false := by
  revert n
  decide

theorem zoneMark_digits2 {n : Nat} (h : n < 100) : forall c, c ∈ digits2 n ->
    zoneMark c = false := by
  intro c hc
  rcases List.mem_cons.mp hc with hfirst | hrest
  · rw [hfirst]
    exact zoneMark_digitChar (by omega)
  · rw [List.mem_singleton.mp hrest]
    exact zoneMark_digitChar (by omega)

theorem zoneMark_digits6 {n : Nat} (h : n < 1000000) : forall c, c ∈ digits6 n ->
    zoneMark c = false := by
  intro c hc
  rcases List.mem_append.mp hc with hhigh | hlow
  · rcases List.mem_append.mp hhigh with hfirst | hsecond
    · exact zoneMark_digits2 (by omega) c hfirst
    · exact zoneMark_digits2 (by omega) c hsecond
  · exact zoneMark_digits2 (by omega) c hlow

theorem zoneMark_formatClock {micros : Nat} (h : micros < microsPerDay) :
    forall c, c ∈ formatClock micros -> zoneMark c = false := by
  intro c hc
  have hhour : micros / 1000000 / 3600 < 100 := by
    unfold microsPerDay at h
    omega
  simp only [formatClock, List.append_assoc, List.cons_append, List.mem_append,
    List.mem_cons] at hc
  rcases hc with hc | hc | hc | hc | hc | hc
  · exact zoneMark_digits2 hhour c hc
  · rw [hc]
    rfl
  · exact zoneMark_digits2 (by omega) c hc
  · rw [hc]
    rfl
  · exact zoneMark_digits2 (by omega) c hc
  · split at hc
    · exact absurd hc List.not_mem_nil
    · rcases List.mem_cons.mp hc with hdot | hdigits
      · rw [hdot]
        rfl
      · exact zoneMark_digits6 (by omega) c hdigits

theorem readZone_utc : readZone "+00:00".toList = some (some 0) := by
  decide +kernel

/-- The date and the time of a written text. -/
theorem separatorAt_format (date : Date) (hmonth : date.month < 100) (time : List Char) :
    separatorAt (formatDate date ++ 'T' :: time) = some 10 := by
  have hlength : (formatDate date ++ 'T' :: time).length = 11 + time.length := by
    simp [formatDate, digits4, digits2]
    omega
  have hfour : (formatDate date ++ 'T' :: time)[4]? = some '-' := rfl
  have hfive : (formatDate date ++ 'T' :: time)[5]? = some (digitChar (date.month / 10)) := rfl
  unfold separatorAt
  rw [hlength, hfour, hfive, if_neg (by omega), if_neg (by omega), if_pos rfl, if_neg]
  intro hweek
  exact digitChar_ne (by omega : date.month / 10 < 10) (Option.some.inj hweek)

/-- Reading a written time gives it back, in UTC. -/
theorem parse_format {t : Nat} (h : t < endOfCalendar) :
    parse (format t) = some ⟨t, some 0⟩ := by
  have hday : t / microsPerDay < daysInCalendar :=
    Nat.div_lt_of_lt_mul (by rwa [Nat.mul_comm])
  have hmicros : t % microsPerDay < microsPerDay := Nat.mod_lt _ (by decide)
  rcases dateOf_spec hday with ⟨hvalid, hnumber⟩
  have hmonth : (dateOf (t / microsPerDay)).month < 100 := by
    have := hvalid.2.2.2.1
    omega
  generalize hdate : dateOf (t / microsPerDay) = date at hvalid hnumber hmonth
  have hclock : (clockOf (t % microsPerDay)).hour < 24 ∧
      (clockOf (t % microsPerDay)).minute < 60 ∧ (clockOf (t % microsPerDay)).second < 60 := by
    unfold microsPerDay at hmicros ⊢
    simp only [clockOf]
    omega
  have hplain := zoneMark_formatClock hmicros
  have hspan : forall c, c ∈ formatClock (t % microsPerDay) -> (!zoneMark c) = true := by
    intro c hc
    rw [hplain c hc]
    rfl
  have htime : readTime date.number (formatClock (t % microsPerDay) ++ "+00:00".toList) =
      some ⟨t, some 0⟩ := by
    unfold readTime
    rw [List.takeWhile_append_of_pos hspan, List.dropWhile_append_of_pos hspan,
      show "+00:00".toList.takeWhile (fun c => !zoneMark c) = [] by decide +kernel,
      show "+00:00".toList.dropWhile (fun c => !zoneMark c) = "+00:00".toList by decide +kernel,
      List.append_nil, readClock_formatClock hmicros, readZone_utc]
    simp only [Option.bind_eq_bind, Option.bind_some]
    rw [if_pos hclock, micros_clockOf, hnumber, Nat.mul_comm, Nat.div_add_mod]
  unfold parse format
  rw [String.toList_ofList, List.append_assoc, List.cons_append, hdate]
  simp only [separatorAt_format date hmonth, Option.bind_eq_bind, Option.bind_some]
  rw [show (formatDate date ++ 'T' :: (formatClock (t % microsPerDay) ++ "+00:00".toList)).take 10
      = formatDate date from rfl,
    show (formatDate date ++ 'T' :: (formatClock (t % microsPerDay) ++ "+00:00".toList)).drop
      (10 + 1) = formatClock (t % microsPerDay) ++ "+00:00".toList from rfl,
    readDate_formatDate hvalid]
  simp only [Option.bind_some]
  rw [if_neg, htime]
  intro hempty
  rw [List.isEmpty_iff, List.append_eq_nil_iff] at hempty
  exact absurd hempty.2 (by decide +kernel)

end IsoFormat
end Foundation
