import DesignTokens.Yaml.Fault
import DesignTokens.Yaml.Tag

/-!
# Dates and times

A date, or a date with a time of day and possibly a distance from universal time.  Every part is
checked against the calendar.
-/

namespace DesignTokens

namespace Yaml

/-- A day of the calendar. -/
structure Date where
  /-- The year. -/
  year : Nat
  /-- The month, from one. -/
  month : Nat
  /-- The day of the month, from one. -/
  day : Nat
  deriving Repr, DecidableEq

/-- A time of day. -/
structure Clock where
  /-- The hour. -/
  hour : Nat
  /-- The minute. -/
  minute : Nat
  /-- The second. -/
  second : Nat
  /-- The millionths of a second. -/
  micro : Nat
  /-- The distance from universal time in seconds, if it is given. -/
  offset : Option Int
  deriving Repr, DecidableEq

/-- A number with at least `width` digits. -/
def padded (width n : Nat) : Text :=
  let ds := Nat.toDigits 10 n
  List.replicate (width - ds.length) '0' ++ ds

namespace Date

/-- Is the year a leap year? -/
def isLeap (year : Nat) : Bool :=
  year % 4 = 0 && (year % 100 != 0 || year % 400 = 0)

/-- The number of days of a month. -/
def daysOf (year month : Nat) : Nat :=
  if month = 2 then if isLeap year then 29 else 28
  else if [4, 6, 9, 11].contains month then 30
  else 31

/-- The number of days of the years before a year. -/
def daysBefore (year : Nat) : Nat :=
  let n := year - 1
  365 * n + n / 4 - n / 100 + n / 400

/-- The number of a day in the calendar. -/
def dayNumber (d : Date) : Nat :=
  (List.range' 1 (d.month - 1)).foldl (fun n m => n + daysOf d.year m) (daysBefore d.year) + d.day

/-- Check a date against the calendar. -/
def check (d : Date) : Except BadScalar Date :=
  if d.year < 1 ∨ 9999 < d.year then .error (.year d.year)
  else if d.month < 1 ∨ 12 < d.month then .error .month
  else if d.day < 1 ∨ daysOf d.year d.month < d.day then .error .day
  else .ok d

/-- The text of a date. -/
def text (d : Date) : Text :=
  padded 4 d.year ++ '-' :: padded 2 d.month ++ '-' :: padded 2 d.day

end Date

namespace Clock

/-- Check a time of day. -/
def check (c : Clock) : Except BadScalar Clock :=
  if 23 < c.hour then .error .hour
  else if 59 < c.minute then .error .minute
  else if 59 < c.second then .error .second
  else .ok c

/-- A length of time in whole seconds, as it is shown inside other values: days and seconds. -/
def shownLength (seconds : Int) : String :=
  let days := seconds.fdiv 86400
  let rest := seconds.fmod 86400
  let parts :=
    (if days = 0 then [] else ["days=" ++ toString days])
      ++ (if rest = 0 then [] else ["seconds=" ++ toString rest])
  "datetime.timedelta(" ++ (if parts.isEmpty then "0" else ", ".intercalate parts) ++ ")"

/-- The text of a distance from universal time. -/
def offsetText (seconds : Int) : Text :=
  let n := seconds.natAbs
  (if seconds < 0 then '-' else '+') :: (padded 2 (n / 3600) ++ ':' :: padded 2 (n / 60 % 60))

/-- The text of a time of day. -/
def text (c : Clock) : Text :=
  padded 2 c.hour ++ ':' :: padded 2 c.minute ++ ':' :: padded 2 c.second
    ++ (if c.micro = 0 then [] else '.' :: padded 6 c.micro)
    ++ (c.offset.elim [] offsetText)

/-- The number of seconds from the beginning of the calendar to a time of a day. -/
def seconds (d : Date) (c : Clock) : Nat :=
  d.dayNumber * 86400 + c.hour * 3600 + c.minute * 60 + c.second

/-- Do two days and times name the same moment?  Where the distance from universal time is given
for both it is taken off; a time for which it is given is never one for which it is not. -/
def isSameTime (d : Date) (c : Clock) (e : Date) (k : Clock) : Bool :=
  match c.offset, k.offset with
  | none, none => d == e && c == k
  | some m, some n =>
      (seconds d c : Int) - m == (seconds e k : Int) - n && c.micro == k.micro
  | _, _ => false

end Clock

/-! ### Reading -/

/-- At least one and at most two digits at the front of a text. -/
def twoDigits? (least : Nat) (t : Text) : Option (Nat × Text) :=
  (Tag.afterCount? least 2 t).map fun rest =>
    ((t.take (t.length - rest.length)).foldl (fun n d => n * 10 + (d.toNat - 0x30)) 0, rest)

/-- Read a date at the front of a text. -/
def readDate? (t : Text) : Option (Date × Text) := do
  let year := (t.take 4).foldl (fun n d => n * 10 + (d.toNat - 0x30)) 0
  let t ← Tag.afterCount? 4 4 t
  let t ← Text.after? ['-'] t
  let (month, t) ← twoDigits? 1 t
  let t ← Text.after? ['-'] t
  let (day, t) ← twoDigits? 1 t
  return (⟨year, month, day⟩, t)

/-- Read a distance from universal time that reaches to the end; nothing means that none is
given. -/
def readZone? (t : Text) : Option (Option Int) :=
  match t.dropWhile fun c => c == ' ' || c == '\t' with
  | [] => if t.isEmpty then some none else none
  | ['Z'] => some (some 0)
  | s :: u => do
      if s != '+' && s != '-' then none
      let (hours, u) ← twoDigits? 1 u
      let (minutes, u) ←
        match u with
        | ':' :: u => twoDigits? 2 u
        | _ => some (0, u)
      if !u.isEmpty then none
      let seconds : Int := hours * 3600 + minutes * 60
      return some (if s == '-' then -seconds else seconds)

/-- Read a time of day that reaches to the end. -/
def readClock? (t : Text) : Option Clock := do
  let (hour, t) ← twoDigits? 1 t
  let t ← Text.after? [':'] t
  let (minute, t) ← twoDigits? 2 t
  let t ← Text.after? [':'] t
  let (second, t) ← twoDigits? 2 t
  let (fraction, t) : Text × Text :=
    match t with
    | '.' :: t => (t.takeWhile isAsciiDigit, t.dropWhile isAsciiDigit)
    | _ => ([], t)
  let micro := (fraction.take 6 ++ List.replicate (6 - fraction.length) '0').foldl
    (fun n d => n * 10 + (d.toNat - 0x30)) 0
  return ⟨hour, minute, second, micro, ← readZone? t⟩

/-- Read a date, possibly with a time of day. -/
def readTimestamp? (t : Text) : Option (Date × Option Clock) := do
  let t := if t.getLast? = some '\n' then t.dropLast else t
  let (date, t) ← readDate? t
  match t with
  | [] => return (date, none)
  | c :: t =>
      if c == 'T' || c == 't' then return (date, some (← readClock? t))
      else if c == ' ' || c == '\t' then
        return (date, some (← readClock? (t.dropWhile fun c => c == ' ' || c == '\t')))
      else none

/-- Read a date, possibly with a time of day, and check it.  The distance from universal time is
checked first. -/
def timestamp (t : Text) : Except BadScalar (Date × Option Clock) :=
  match readTimestamp? t with
  | none => .error .noDate
  | some (date, none) => do return (← date.check, none)
  | some (date, some clock) => do
      match clock.offset with
      | some s => if 86400 ≤ s.natAbs then throw (.offset (Clock.shownLength s))
      | none => pure ()
      return (← date.check, some (← clock.check))

end Yaml

end DesignTokens
