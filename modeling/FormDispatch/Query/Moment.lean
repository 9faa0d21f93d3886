/-
# Moments

Which texts name a moment: a date, and after one separator of any kind a time of day, and after
that an offset from universal time. The date is `YYYY-MM-DD`, `YYYYMMDD`, or a week date
`YYYY-Www-D`, `YYYYWwwD`, `YYYY-Www`, `YYYYWww`; it must exist in the years 1 to 9999. The time is
`HH`, `HH:MM`, `HH:MM:SS` with or without its colons, and a fraction after a point or comma; the
offset is written like a time and lies within a day on either side.

Places are counted in bytes of UTF-8, as the separator is found by its place. A time that is
followed by an offset may hold more than it needs after its last complete part; alone it may not.

Specification, section E8.
-/

import FormDispatch.Number.Numeral
import FormDispatch.Text.Utf8

namespace FormDispatch
namespace Query
namespace Moment

/-- The number that the first `count` characters form, all of them ASCII digits. -/
def digits? : (count : Nat) → (value : Nat) → List Char → Option (Nat × List Char)
  | 0, value, s => some (value, s)
  | count + 1, value, c :: r =>
    if c.isDigit then digits? count (10 * value + (c.toNat - 48)) r else none
  | _ + 1, _, [] => none

/-- A year with a twenty-ninth of February. -/
def isLeap (year : Nat) : Bool :=
  year % 4 == 0 && (year % 100 != 0 || year % 400 == 0)

/-- Days in a month. -/
def daysInMonth (year month : Nat) : Nat :=
  if month == 2 then (if isLeap year then 29 else 28)
  else if month == 4 || month == 6 || month == 9 || month == 11 then 30
  else 31

/-- Days from the start of the year 1 to the start of a year. -/
def daysBeforeYear (year : Nat) : Nat :=
  let y := year - 1
  y * 365 + y / 4 - y / 100 + y / 400

/-- The weekday of the first of January, counted from Monday as 0. -/
def firstWeekday (year : Nat) : Nat :=
  daysBeforeYear year % 7

/-- Weeks of a year in the week calendar: 53 for years that start on a Thursday, and for leap
years that start on a Wednesday. -/
def weeksInYear (year : Nat) : Nat :=
  if firstWeekday year == 3 || (firstWeekday year == 2 && isLeap year) then 53 else 52

/-- Days from the start of the year 1 to a day of a week calendar; the first week of a year is the
one with its first Thursday. -/
def daysBeforeWeekday (year week day : Nat) : Nat :=
  let first := firstWeekday year
  let monday := daysBeforeYear year + (if first > 3 then 7 else 0)
  monday + (week - 1) * 7 + (day - 1) - first

/-- A day of the calendar exists. -/
def isCalendarDate (year month day : Nat) : Bool :=
  1 ≤ year && year ≤ 9999 && 1 ≤ month && month ≤ 12 && 1 ≤ day && day ≤ daysInMonth year month

/-- A day of the week calendar exists. -/
def isWeekDate (year week day : Nat) : Bool :=
  1 ≤ year && 1 ≤ week && week ≤ weeksInYear year && 1 ≤ day && day ≤ 7 &&
    daysBeforeWeekday year week day < daysBeforeYear 10000

/-- The place of the separator after the date, by the form that the date starts with. A week date
without a day is told from one with a day by the digits that follow: a time has them in pairs. -/
def separatorPlace? (s : List Char) : Option Nat :=
  if s.length < 7 then none
  else if s.length == 7 then some 7
  else if s[4]? == some '-' then
    if s[5]? == some 'W' then
      if s[8]? == some '-' then
        if s.length == 9 then none
        else if (s[10]?.map Char.isDigit).getD false then some 8
        else some 10
      else some 8
    else some 10
  else if s[4]? == some 'W' then
    let run := 7 + ((s.drop 7).takeWhile Char.isDigit).length
    if run < 9 then some run
    else if run % 2 == 0 then some 7
    else some 8
  else some 8

/-- The date that a text starts with exists. A week date of `length` characters without a day
stands for its Monday. -/
def isDate (length : Nat) (s : List Char) : Bool :=
  match digits? 4 0 s with
  | none => false
  | some (year, rest) =>
    let (separated, rest) := match rest with
      | '-' :: r => (true, r)
      | r => (false, r)
    match rest with
    | 'W' :: rest =>
      match digits? 2 0 rest with
      | none => false
      | some (week, rest) =>
        if s.length - rest.length < length then
          let rest := if separated then
              match rest with
              | '-' :: r => some r
              | _ => none
            else some rest
          match rest.bind (digits? 1 0) with
          | some (day, _) => isWeekDate year week day
          | none => false
        else isWeekDate year week 1
    | rest =>
      match digits? 2 0 rest with
      | none => false
      | some (month, rest) =>
        let rest := if separated then
            match rest with
            | '-' :: r => some r
            | _ => none
          else some rest
        match rest.bind (digits? 2 0) with
        | some (day, _) => isCalendarDate year month day
        | none => false

/-- Hours, minutes, seconds and millionths, each zero when it is not given. -/
structure Clock where
  parts : List Nat
  millionths : Nat
  /-- the text holds nothing more -/
  complete : Bool

/-- The digits of a fraction as millionths; more than six are dropped. -/
def fraction? (parts : List Nat) (s : List Char) (following : Option Char) : Option Clock :=
  let count := min s.length 6
  match digits? count 0 s with
  | none => none
  | some (value, rest) =>
    let rest := rest.dropWhile Char.isDigit
    some ⟨parts.reverse, value * Numeral.tenTo (6 - count), rest.isEmpty && following.isNone⟩

/-- A time of day of up to `count` parts of two digits; `following` is the character that stands
after the text, if any, and `separated` says whether colons separate the parts, once it is known. -/
def clock? : (count : Nat) → (separated : Option Bool) → (parts : List Nat) → List Char →
    (following : Option Char) → Option Clock
  | 0, _, parts, s, following => fraction? parts s following
  | count + 1, separated, parts, s, following =>
    match digits? 2 0 s with
    | none => none
    | some (value, rest) =>
      let parts := value :: parts
      match rest with
      | [] => some ⟨parts.reverse, 0, following.isNone⟩
      | [c] => some ⟨parts.reverse, 0, c == '\x00'⟩
      | c :: r =>
        let separated := separated.getD (c == ':')
        if separated && c == ':' then clock? count (some separated) parts r following
        else if c == '.' || c == ',' then fraction? parts r following
        else if separated then none
        else clock? count (some separated) parts rest following

/-- Seconds of a clock's parts. -/
def Clock.seconds (c : Clock) : Nat :=
  c.parts.getD 0 0 * 3600 + c.parts.getD 1 0 * 60 + c.parts.getD 2 0

/-- A time of the day. -/
def Clock.isTimeOfDay (c : Clock) : Bool :=
  c.parts.getD 0 0 < 24 && c.parts.getD 1 0 < 60 && c.parts.getD 2 0 < 60

/-- An offset of less than a day. -/
def Clock.isOffset (c : Clock) : Bool :=
  c.seconds < 86400

/-- A time of day, alone or with an offset. -/
def isTime (s : List Char) : Bool :=
  let isSign (c : Char) : Bool := c == '+' || c == '-'
  let time := s.takeWhile fun c => !isSign c
  match s.drop time.length with
  | [] =>
    match clock? 3 none [] time none with
    | some c => c.complete && c.isTimeOfDay
    | none => false
  | sign :: offset =>
    match clock? 3 none [] time (some sign), clock? 3 none [] offset none with
    | some c, some o => c.isTimeOfDay && o.complete && o.isOffset
    | _, _ => false

/-- Bytes of the character that a byte of UTF-8 starts. -/
def separatorLength (c : Char) : Nat :=
  let n := c.toNat
  if n < 0x80 then 1 else if n / 16 == 0xE then 3 else if n / 16 == 0xF then 4 else 2

/-- The letter that stands for universal time, written as an offset. -/
def withoutZulu (s : List Char) : List Char :=
  s.flatMap fun c => if c == 'Z' then ['+', '0', '0', ':', '0', '0'] else [c]

/-- Bytes of a text, each as a character. -/
def byteChars (s : List Char) : List Char :=
  s.flatMap fun c => (String.utf8EncodeChar c).map fun b => Char.ofNat b.toNat

/-- A text names a moment. -/
def isMoment (s : List Char) : Bool :=
  let s := byteChars (withoutZulu s)
  match separatorPlace? s with
  | none => false
  | some place =>
    isDate place s &&
      match s.drop place with
      | separator :: rest => isTime (rest.drop (separatorLength separator - 1))
      | [] => true

end Moment
end Query
end FormDispatch
