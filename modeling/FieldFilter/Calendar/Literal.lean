import FieldFilter.Text.Blank
import FieldFilter.Text.Digits
import FieldFilter.Calendar.Day

/-! Date literals. A literal is an instant with its own offset from universal time, a reading of
the clock, or a date alone; it is read in that order of preference. Both the instant and the date
that it names follow from what was read.
-/

namespace FieldFilter.Calendar

/-- What a date literal says. -/
inductive Literal
  | instant (t : Int)
  | reading (date : Date) (second : Nat)
  | date (date : Date)
  deriving DecidableEq, Repr

/-- One item of a date format. A blank stands for any white space, also none. -/
inductive FormatItem
  | year | month | day | hour | minute | second
  | blank
  | char (c : Char)
  deriving DecidableEq

/-- The parts of a date and a time of day as they are read. -/
structure DateParts where
  year : Int := 0
  month : Nat := 0
  day : Nat := 0
  hour : Nat := 0
  minute : Nat := 0
  second : Nat := 0

namespace DateParts

/-- The date of the parts, if there is one. -/
def date? (p : DateParts) : Option Date :=
  Date.ofCivil? p.year p.month p.day

/-- The second of the day. A leap second counts as the one before it. -/
def secondOfDay (p : DateParts) : Nat :=
  p.hour * 3600 + p.minute * 60 + min p.second 59

end DateParts

/-- A number of at least `least` and at most `most` digits, and the text after it. -/
def readNumber? (least most : Nat) (cs : List Char) : Option (Nat × List Char) :=
  let digits := (cs.takeWhile Text.isDigit).take most
  if least ≤ digits.length then
    some (Text.ofDigits 0 (digits.filterMap Text.digit?), cs.drop digits.length)
  else none

/-- A year: any number of digits after a sign, and at most four without one. -/
def readYear? : List Char → Option (Int × List Char)
  | '-' :: cs => (readNumber? 1 cs.length cs).map fun (n, rest) => (-(n : Int), rest)
  | '+' :: cs => (readNumber? 1 cs.length cs).map fun (n, rest) => ((n : Int), rest)
  | cs => (readNumber? 1 4 cs).map fun (n, rest) => ((n : Int), rest)

namespace FormatItem

/-- A number of one or two digits, up to `greatest`, after any white space. -/
def readPart? (greatest : Nat) (cs : List Char) : Option (Nat × List Char) :=
  (readNumber? 1 2 (Text.trimStart cs)).filter fun (n, _) => n ≤ greatest

def read? (p : DateParts) (cs : List Char) : FormatItem → Option (DateParts × List Char)
  | year => (readYear? (Text.trimStart cs)).map fun (n, rest) => ({ p with year := n }, rest)
  | month => (readPart? 12 cs).map fun (n, rest) => ({ p with month := n }, rest)
  | day => (readPart? 31 cs).map fun (n, rest) => ({ p with day := n }, rest)
  | hour => (readPart? 23 cs).map fun (n, rest) => ({ p with hour := n }, rest)
  | minute => (readPart? 59 cs).map fun (n, rest) => ({ p with minute := n }, rest)
  | second => (readPart? 60 cs).map fun (n, rest) => ({ p with second := n }, rest)
  | blank => some (p, Text.trimStart cs)
  | char c =>
    match cs with
    | [] => none
    | c' :: rest => if c' = c then some (p, rest) else none

/-- A text that the items of a format cover from end to end. -/
def readAll? (p : DateParts) (cs : List Char) : List FormatItem → Option DateParts
  | [] => if cs.isEmpty then some p else none
  | item :: items => do
    let (p, rest) ← item.read? p cs
    readAll? p rest items

def dateItems (separator : Char) : List FormatItem :=
  [year, char separator, month, char separator, day]

def minuteItems : List FormatItem :=
  [hour, char ':', minute]

/-- Hours, minutes and seconds. -/
def secondItems : List FormatItem :=
  minuteItems ++ [char ':', second]

def dateFormats : List (List FormatItem) :=
  [dateItems '-', dateItems '/']

def readingFormats : List (List FormatItem) :=
  [ dateItems '-' ++ [blank] ++ secondItems,
    dateItems '-' ++ [blank] ++ minuteItems,
    dateItems '/' ++ [blank] ++ secondItems,
    dateItems '/' ++ [blank] ++ minuteItems,
    dateItems '-' ++ [char 'T'] ++ secondItems,
    dateItems '-' ++ [char 'T'] ++ minuteItems ]

end FormatItem

/-- A separator that has to be there. -/
def expect? (c : Char) : List Char → Option (List Char)
  | c' :: rest => if c' = c then some rest else none
  | [] => none

/-- The fraction of a second, if there is a point: at least one digit, of no importance. -/
def skipFraction? : List Char → Option (List Char)
  | '.' :: cs => if (cs.takeWhile Text.isDigit).isEmpty then none else some (cs.dropWhile Text.isDigit)
  | cs => some cs

/-- Hours and minutes of an offset, of two digits each. -/
def readOffsetAmount? (cs : List Char) : Option (Int × List Char) := do
  let (hours, cs) ← readNumber? 2 2 cs
  let cs ← expect? ':' cs
  let (minutes, cs) ← readNumber? 2 2 cs
  if hours ≤ 23 ∧ minutes ≤ 59 then some ((hours * 3600 + minutes * 60 : Nat), cs) else none

/-- An offset from universal time: a Z, or a sign with hours and minutes. The sign may be a
hyphen or a minus sign. -/
def readOffset? : List Char → Option (Int × List Char)
  | [] => none
  | c :: cs =>
    if c = 'Z' ∨ c = 'z' then some (0, cs)
    else if c = '+' then readOffsetAmount? cs
    else if c = '-' ∨ c = '−' then (readOffsetAmount? cs).map fun (n, rest) => (-n, rest)
    else none

/-- An instant with its own offset, in the internet date format. -/
def readInstant? (cs : List Char) : Option Int := do
  let (year, cs) ← readNumber? 4 4 cs
  let cs ← expect? '-' cs
  let (month, cs) ← readNumber? 2 2 cs
  let cs ← expect? '-' cs
  let (day, cs) ← readNumber? 2 2 cs
  let cs ← ((expect? 'T' cs).or (expect? 't' cs)).or (expect? ' ' cs)
  let (hour, cs) ← readNumber? 2 2 cs
  let cs ← expect? ':' cs
  let (minute, cs) ← readNumber? 2 2 cs
  let cs ← expect? ':' cs
  let (second, cs) ← readNumber? 2 2 cs
  let cs ← skipFraction? cs
  let (offset, cs) ← readOffset? cs
  if cs.isEmpty ∧ hour ≤ 23 ∧ minute ≤ 59 ∧ second ≤ 60 then
    let parts : DateParts := { year, month, day, hour, minute, second }
    return (← parts.date?).midnight + parts.secondOfDay - offset
  else none

/-- A date with a time of day, in the first format that fits. -/
def readReading? (cs : List Char) : Option (Date × Nat) :=
  FormatItem.readingFormats.findSome? fun format => do
    let parts ← FormatItem.readAll? {} cs format
    return (← parts.date?, parts.secondOfDay)

/-- A date alone, in the first format that fits. -/
def readDate? (cs : List Char) : Option Date :=
  FormatItem.dateFormats.findSome? fun format =>
    (FormatItem.readAll? {} cs format).bind DateParts.date?

namespace Date

/-- The date that a text names without a time of day. -/
def read? (text : String) : Option Date :=
  readDate? (Text.trim text.toList)

end Date

namespace Literal

/-- The literal that a text spells, without the blanks around it. -/
def read? (text : String) : Option Literal :=
  let cs := Text.trim text.toList
  ((readInstant? cs).map instant).or
    (((readReading? cs).map fun (d, s) => reading d s).or ((readDate? cs).map date))

/-- The instant that a literal names on a clock. A date alone means its start. -/
def instantOn (h : History) : Literal → Reckoning Int
  | instant t => .ok (some t)
  | reading d second => h.resolve (d.midnight + second)
  | date d => h.resolve d.midnight

def instant? (h : History) (l : Literal) : Option Int :=
  (l.instantOn h).found?

/-- The date that a literal names on a clock. Only an instant depends on the clock. -/
def dateOn (h : History) : Literal → Reckoning Date
  | instant t => h.dateAt t
  | reading d _ => .ok (some d)
  | date d => .ok (some d)

def date? (h : History) (l : Literal) : Option Date :=
  (l.dateOn h).found?

end Literal

end FieldFilter.Calendar
