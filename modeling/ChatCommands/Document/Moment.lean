import ChatCommands.Numeral

/-!
# ChatCommands.Document.Moment

Dates, perhaps with a time of day: `2001-12-14`, `2001-12-14 21:59:43` and
`2001-12-14t21:59:43.10-05:00`. Reading goes by the layout alone; whether
there is such a day and such a time of day is another question.
-/

namespace ChatCommands.Document

/-- A time of day. -/
structure Clock where
  /-- The hour. -/
  hour : Nat
  /-- The minute. -/
  minute : Nat
  /-- The second. -/
  second : Nat
  /-- How many minutes the time is away from the universal one. -/
  offset : Nat
deriving DecidableEq, Repr

/-- A date and perhaps a time of day. -/
structure Moment where
  /-- The year. -/
  year : Nat
  /-- The month. -/
  month : Nat
  /-- The day of the month. -/
  day : Nat
  /-- The time of day. -/
  clock : Option Clock
deriving DecidableEq, Repr

/-! ## reading -/

/-- The number at the beginning of a text, which has a certain number of digits, and the rest of
the text. -/
def digits? (least most : Nat) (cs : List Char) : Option (Nat × List Char) :=
  let digits := (cs.take most).takeWhile Char.isDigit
  if least ≤ digits.length then some (Numeral.ofDigits digits, cs.drop digits.length) else none

/-- The number behind a mark, and the rest of the text. -/
def digitsBehind? (mark : Char) (least most : Nat) : List Char → Option (Nat × List Char)
  | [] => none
  | c :: cs => if c = mark then digits? least most cs else none

/-- How many minutes a time zone is away from the universal time. -/
def zone? : List Char → Option Nat
  | [] => none
  | c :: cs =>
    if c = 'Z' then (if cs.isEmpty then some 0 else none)
    else if c = '+' ∨ c = '-' then do
      let (hours, rest) ← digits? 1 2 cs
      if rest.isEmpty then some (60 * hours)
      else
        let (minutes, rest) ← digitsBehind? ':' 2 2 rest
        if rest.isEmpty then some (60 * hours + minutes) else none
    else none

/-- Whether a character separates a date from a time of day, or that from its time zone. -/
def isMomentSpace (c : Char) : Bool := c == ' ' || c == '\t'

/-- A time of day, which may have parts of a second and a time zone. -/
def Clock.read? (cs : List Char) : Option Clock := do
  let (hour, rest) ← digits? 1 2 cs
  let (minute, rest) ← digitsBehind? ':' 2 2 rest
  let (second, rest) ← digitsBehind? ':' 2 2 rest
  let rest := match rest with
    | '.' :: fraction => fraction.dropWhile Char.isDigit
    | rest => rest
  if rest.isEmpty then some ⟨hour, minute, second, 0⟩
  else
    let offset ← zone? (rest.dropWhile isMomentSpace)
    some ⟨hour, minute, second, offset⟩

/-- A date, and perhaps a time of day behind `T` or spaces. -/
def Moment.read? (cs : List Char) : Option Moment := do
  let (year, rest) ← digits? 4 4 cs
  let (month, rest) ← digitsBehind? '-' 1 2 rest
  let (day, rest) ← digitsBehind? '-' 1 2 rest
  match rest with
  | [] => some ⟨year, month, day, none⟩
  | c :: more =>
    if c = 'T' ∨ c = 't' then
      let clock ← Clock.read? more
      some ⟨year, month, day, some clock⟩
    else if isMomentSpace c then
      let clock ← Clock.read? (more.dropWhile isMomentSpace)
      some ⟨year, month, day, some clock⟩
    else none

/-- The length of a date whose month and day have two digits. -/
def fullDateLength : Nat := 10

/-- Whether a text is seen to be a date without being told: it has a time of day, or its month
and its day have two digits. -/
def isMoment (cs : List Char) : Bool :=
  match Moment.read? cs with
  | some m => m.clock.isSome || cs.length == fullDateLength
  | none => false

/-! ## the calendar and the clock -/

/-- Whether a year has a leap day. -/
def isLeapYear (year : Nat) : Bool := year % 4 == 0 && (year % 100 != 0 || year % 400 == 0)

/-- The number of days of a month; a month that is none has no days. -/
def daysOfMonth (year month : Nat) : Nat :=
  if month = 2 then (if isLeapYear year then 29 else 28)
  else if month ∈ [4, 6, 9, 11] then 30
  else if 1 ≤ month ∧ month ≤ 12 then 31
  else 0

/-- Whether there is such a time of day, in a time zone less than a day away. -/
def Clock.isPossible (c : Clock) : Bool :=
  c.hour < 24 && c.minute < 60 && c.second < 60 && c.offset < 24 * 60

/-- Whether there is such a day, and such a time of day. -/
def Moment.isPossible (m : Moment) : Bool :=
  1 ≤ m.year && 1 ≤ m.day && m.day ≤ daysOfMonth m.year m.month && m.clock.all Clock.isPossible

end ChatCommands.Document
