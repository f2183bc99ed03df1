import NetProfile.Numeral

/-!
Literals of dates and times: a date of the calendar, a time of day, or both with `T`, `t` or a space
between them; a date with a time may end in an offset. Each reader gives what follows the part it
reads.
-/

namespace NetProfile.Toml

def twoDigits? : List Char → Option (Nat × List Char)
  | a :: b :: rest => (Numeral.value? 10 [a, b]).map fun n => (n, rest)
  | _ => none

def twoAfter? (mark : Char) : List Char → Option (Nat × List Char)
  | c :: rest => if c = mark then twoDigits? rest else none
  | [] => none

def isLeapYear (year : Nat) : Bool := year % 4 == 0 && (year % 100 != 0 || year % 400 == 0)

def daysOfMonth (year month : Nat) : Nat :=
  if month = 2 then (if isLeapYear year then 29 else 28)
  else if month ∈ [4, 6, 9, 11] then 30
  else 31

def date? (cs : List Char) : Option (List Char) :=
  match twoDigits? cs with
  | none => none
  | some (century, afterCentury) =>
    match twoDigits? afterCentury with
    | none => none
    | some (decade, afterYear) =>
      match twoAfter? '-' afterYear with
      | none => none
      | some (month, afterMonth) =>
        match twoAfter? '-' afterMonth with
        | none => none
        | some (day, rest) =>
          let year := century * 100 + decade
          if 1 ≤ month ∧ month ≤ 12 ∧ 1 ≤ day ∧ day ≤ daysOfMonth year month then some rest
          else none

/-- Takes off the fraction of a second, which has at least one digit. -/
def afterFraction? : List Char → Option (List Char)
  | '.' :: digit :: rest =>
    if Text.isAsciiDigit digit then some (rest.dropWhile Text.isAsciiDigit) else none
  | '.' :: [] => none
  | rest => some rest

/-- A time of day; a minute may have a sixty-first second. -/
def time? (cs : List Char) : Option (List Char) :=
  match twoDigits? cs with
  | none => none
  | some (hour, afterHour) =>
    match twoAfter? ':' afterHour with
    | none => none
    | some (minute, afterMinute) =>
      match twoAfter? ':' afterMinute with
      | none => none
      | some (second, rest) =>
        if hour < 24 ∧ minute < 60 ∧ second ≤ 60 then afterFraction? rest else none

/-- Whether a text is the distance from universal time, or empty. -/
def isOffset : List Char → Bool
  | [] => true
  | 'Z' :: rest | 'z' :: rest => rest.isEmpty
  | sign :: rest =>
    (sign == '+' || sign == '-')
      && match twoDigits? rest with
        | none => false
        | some (hour, afterHour) =>
          match twoAfter? ':' afterHour with
          | some (minute, []) => hour < 24 && minute < 60
          | _ => false

def isTimeMark (c : Char) : Bool := c == 'T' || c == 't' || c == ' '

def isDate (cs : List Char) : Bool := date? cs == some []

def isMoment (cs : List Char) : Bool :=
  match date? cs with
  | some [] => true
  | some (mark :: rest) =>
    isTimeMark mark
      && match time? rest with
        | some offset => isOffset offset
        | none => false
  | none => time? cs == some []

example : isMoment "1979-05-27 07:32:00.25-08:00".toList = true := by decide +kernel
example : isMoment "2000-02-29".toList = true ∧ isMoment "1900-02-29".toList = false := by
  decide +kernel
example : isMoment "07:32:60".toList = true ∧ isMoment "07:32".toList = false := by decide +kernel

end NetProfile.Toml
