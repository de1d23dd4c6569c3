import Flowchart.Text.Basic
import Flowchart.Text.Digit

/-!
Dates. A moment is told in nanoseconds from the start of the year 1970; the calendar goes on in the same way
before that and for ever.
-/

namespace Flowchart.Time

/-- How many nanoseconds a second has. -/
def second : Int := Int.pow 10 9

structure Date where
  year : Int
  month : Nat
  day : Nat
  hour : Nat := 0
  minute : Nat := 0
  second : Nat := 0
  nanosecond : Nat := 0
deriving DecidableEq, Repr

/-- The number of days from the start of the year 1970 to a date. A year starts in March here, so that the
day that is there in some years only is its last one. -/
def dayNumber (year : Int) (month day : Nat) : Int :=
  let y := if month ≤ 2 then year - 1 else year
  let era := y.fdiv 400
  let inEra := y - era * 400
  let m : Int := (month + 9) % 12
  let inYear := (153 * m + 2).fdiv 5 + day - 1
  era * 146097 + inEra * 365 + inEra.fdiv 4 - inEra.fdiv 100 + inYear - 719468

/-- The date of a number of days: year, month and day. -/
def dateOfDay (days : Int) : Int × Nat × Nat :=
  let z := days + 719468
  let era := z.fdiv 146097
  let inEra := z - era * 146097
  let yearOfEra := (inEra - inEra.fdiv 1460 + inEra.fdiv 36524 - inEra.fdiv 146096).fdiv 365
  let inYear := inEra - (365 * yearOfEra + yearOfEra.fdiv 4 - yearOfEra.fdiv 100)
  let m := (5 * inYear + 2).fdiv 153
  let day := inYear - (153 * m + 2).fdiv 5 + 1
  let month := if m < 10 then m + 3 else m - 9
  (yearOfEra + era * 400 + (if month ≤ 2 then 1 else 0), month.toNat, day.toNat)

def Date.moment (d : Date) : Int :=
  ((dayNumber d.year d.month d.day * 24 + d.hour) * 60 + d.minute) * 60 * Time.second
    + d.second * Time.second + d.nanosecond

def Date.ofMoment (moment : Int) : Date :=
  let seconds := moment.fdiv Time.second
  let days := seconds.fdiv 86400
  let inDay := (seconds - days * 86400).toNat
  let (year, month, day) := dateOfDay days
  { year, month, day, hour := inDay / 3600, minute := inDay / 60 % 60, second := inDay % 60,
    nanosecond := (moment - seconds * Time.second).toNat }

/-! ### Reading -/

/-- Reads the time of day: hours and minutes, and seconds with a fraction if they are there. -/
def clock? (t : Text) : Option (Nat × Nat × Nat × Nat) :=
  let number (t : Text) (below : Nat) : Option Nat :=
    if t ≠ [] ∧ t.length ≤ 2 ∧ t.all Char.isDigit ∧ Text.natOfDigits 10 t < below then some (Text.natOfDigits 10 t)
    else none
  match Text.splitAt ':' t with
  | [h, m] => do return (← number h 24, ← number m 60, 0, 0)
  | [h, m, s] => do
    let whole := s.takeWhile Char.isDigit
    let behind := s.drop whole.length
    let fraction := behind.drop 1
    if behind ≠ [] ∧ (behind.head? ≠ some '.' ∨ fraction = [] ∨ !fraction.all Char.isDigit) then none
    else
      let nanos := Text.natOfDigits 10 ((fraction ++ List.replicate 9 '0').take 9)
      return (← number h 24, ← number m 60, ← number whole 61, if behind = [] then 0 else nanos)
  | _ => none

/-- Reads a day: year, month and day with dashes, or month, day and year with slashes, or eight digits. -/
def day? (t : Text) : Option (Int × Nat × Nat) :=
  let check (y : Int) (m d : Nat) : Option (Int × Nat × Nat) :=
    if 1 ≤ m ∧ m ≤ 12 ∧ 1 ≤ d ∧ dateOfDay (dayNumber y m d) = (y, m, d) then some (y, m, d) else none
  let isNumber (t : Text) : Bool := t ≠ [] && t.all Char.isDigit
  match Text.splitAt '-' t, Text.splitAt '/' t with
  | [y, m, d], _ =>
    if isNumber y && isNumber m && isNumber d then
      check (Text.natOfDigits 10 y) (Text.natOfDigits 10 m) (Text.natOfDigits 10 d)
    else none
  | _, [a, b, c] =>
    if isNumber a && isNumber b && isNumber c then
      if 4 ≤ a.length then check (Text.natOfDigits 10 a) (Text.natOfDigits 10 b) (Text.natOfDigits 10 c)
      else check (Text.natOfDigits 10 c) (Text.natOfDigits 10 a) (Text.natOfDigits 10 b)
    else none
  | _, _ =>
    if isNumber t ∧ t.length = 8 then
      check (Text.natOfDigits 10 (t.take 4)) (Text.natOfDigits 10 ((t.drop 4).take 2)) (Text.natOfDigits 10 (t.drop 6))
    else none

/-- The number that some digits are. -/
def digits? (t : Text) : Option Nat :=
  if t ≠ [] ∧ t.all Char.isDigit then some (Text.natOfDigits 10 t) else none

/-- What is said of a moment: a day and a time of day. -/
structure Saying where
  day : Option (Int × Nat × Nat) := none
  clock : Option (Nat × Nat × Nat × Nat) := none

def Saying.withWord? (s : Saying) (word : Text) : Option Saying :=
  match day? word, clock? (Text.dropLastIf 'Z' word) with
  | some day, _ => some { s with day := some day }
  | none, some clock => some { s with clock := some clock }
  | none, none =>
    if word = "UTC".toList ∨ word = "now".toList then some s
    else do
      let (day, clock) ← Text.cut? 'T' word
      return { day := some (← day? day), clock := some (← clock? (Text.dropLastIf 'Z' clock)) }

/-- The moment that is meant, seen from the present one. A day that is named starts at midnight. -/
def Saying.moment (s : Saying) (now : Int) : Int :=
  let present := Date.ofMoment now
  let (year, month, day) := s.day.getD (present.year, present.month, present.day)
  let (hour, minute, second, nanosecond) := s.clock.getD
    (if s.day.isSome then (0, 0, 0, 0) else (present.hour, present.minute, present.second, present.nanosecond))
  Date.moment ⟨year, month, day, hour, minute, second, nanosecond⟩

/-- Reads a moment in words, where the present moment is given; or the seconds from the start of the year 1970, behind
a sign. -/
def read? (now : Int) (t : Text) : Option Int :=
  match t.dropWhile (· = ' ') with
  | '@' :: seconds => do return (← digits? seconds : Nat) * second
  | t => do return (← ((Text.splitAt ' ' t).filter (· ≠ [])).foldlM Saying.withWord? {}).moment now

/-- Reads a moment from digits: month, day, hour and minute, with the year before and the seconds behind them
if they are given. -/
def stamp? (now : Int) (t : Text) : Option Int :=
  let (digits, seconds) := (Text.cut? '.' t).getD (t, ['0', '0'])
  if !digits.all Char.isDigit ∨ !seconds.all Char.isDigit ∨ seconds.length ≠ 2 then none
  else
    let n (start count : Nat) (t : Text) : Nat := Text.natOfDigits 10 ((t.drop start).take count)
    let make (year : Int) (t : Text) : Option Int :=
      let d : Date := ⟨year, n 0 2 t, n 2 2 t, n 4 2 t, n 6 2 t, Text.natOfDigits 10 seconds, 0⟩
      if d.month = 0 ∨ 12 < d.month ∨ 23 < d.hour ∨ 59 < d.minute ∨ 60 < d.second
          ∨ dateOfDay (dayNumber year d.month d.day) ≠ (year, d.month, d.day) then none
      else some d.moment
    match digits.length with
    | 8 => make (Date.ofMoment now).year digits
    | 10 =>
      let y := n 0 2 digits
      make (if y < 69 then 2000 + y else 1900 + y) (digits.drop 2)
    | 12 => make (n 0 4 digits) (digits.drop 4)
    | _ => none

end Flowchart.Time
