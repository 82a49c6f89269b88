import ContractAtlas.Yaml.Cursor

/-!
Dates, perhaps with a time of day and a zone. A text may have the form of a timestamp and yet name no
date: `Timestamp.fault?` says which part is out of range, the zone first.
-/
namespace ContractAtlas.Yaml
set_option autoImplicit false

/-- A date, a time of day if there is one, and how many minutes its zone is ahead. -/
structure Timestamp where
  year : Nat
  month : Nat
  day : Nat
  time : Option (Nat × Nat × Nat) := none
  zone : Option Int := none
  deriving DecidableEq

/-! ## The form -/

/-- One or two digits at the beginning, and what follows them. -/
def shortNumber? (cs : List Char) : Option (Nat × List Char) :=
  match cs with
  | c :: d :: rest =>
    if isDigit c && isDigit d then some ((c.toNat - 0x30) * 10 + (d.toNat - 0x30), rest)
    else if isDigit c then some (c.toNat - 0x30, d :: rest)
    else none
  | [c] => if isDigit c then some (c.toNat - 0x30, []) else none
  | [] => none

/-- Exactly two digits at the beginning, and what follows them. -/
def twoDigits? (cs : List Char) : Option (Nat × List Char) :=
  match cs with
  | c :: d :: rest =>
    if isDigit c && isDigit d then some ((c.toNat - 0x30) * 10 + (d.toNat - 0x30), rest) else none
  | _ => none

/-- What follows a character, if the text begins with it. -/
def after? (c : Char) : List Char → Option (List Char)
  | d :: rest => if d = c then some rest else none
  | [] => none

/-- How far ahead a zone is, by a sign, hours and perhaps minutes. -/
def offset? (cs : List Char) : Option Int :=
  match cs with
  | sign :: rest => do
    let (hours, rest) ← shortNumber? rest
    let (minutes, rest) ← if rest.isEmpty then some (0, []) else twoDigits? (← after? ':' rest)
    let total : Int := hours * 60 + minutes
    if !rest.isEmpty then none
    else if sign = '+' then some total
    else if sign = '-' then some (-total)
    else none
  | [] => none

/-- The zone that ends a timestamp, blanks before it; it may be missing, but then nothing follows. -/
def zone? (cs : List Char) : Option (Option Int) :=
  match cs.dropWhile isSpaceOrTab with
  | [] => if cs.isEmpty then some none else none
  | ['Z'] => some (some 0)
  | rest => (offset? rest).map some

/-- A time of day and what follows it, a fraction of a second being passed over. -/
def timeOfDay? (cs : List Char) : Option ((Nat × Nat × Nat) × List Char) := do
  let (hour, cs) ← shortNumber? cs
  let (minute, cs) ← twoDigits? (← after? ':' cs)
  let (second, cs) ← twoDigits? (← after? ':' cs)
  match cs with
  | '.' :: rest => some ((hour, minute, second), rest.dropWhile isDigit)
  | cs => some ((hour, minute, second), cs)

/-- What separates a date from a time: the letter T, or blanks. -/
def timeAfter? (cs : List Char) : Option (List Char) :=
  match cs with
  | 'T' :: rest | 't' :: rest => some rest
  | c :: rest => if isSpaceOrTab c then some (rest.dropWhile isSpaceOrTab) else none
  | [] => none

def timestamp? (cs : List Char) : Option Timestamp := do
  let (century, rest) ← twoDigits? cs
  let (years, rest) ← twoDigits? rest
  let (month, rest) ← shortNumber? (← after? '-' rest)
  let (day, rest) ← shortNumber? (← after? '-' rest)
  let date : Timestamp := { year := century * 100 + years, month, day }
  if rest.isEmpty then some date
  else
    let (time, rest) ← timeOfDay? (← timeAfter? rest)
    let zone ← zone? rest
    some { date with time := some time, zone }

/-- The length of a date alone in its full form. -/
def dateLength : Nat := 10

/-- Whether a text is taken for a timestamp by its spelling: a date alone must be in full form. -/
def isTimestamp (cs : List Char) : Bool :=
  (timestamp? cs).any fun t => t.time.isSome || cs.length == dateLength

namespace Timestamp

/-! ## Ranges -/

inductive Fault where
  | zone (minutes : Int)
  | year
  | month
  | day
  | hour
  | minute
  | second
  deriving DecidableEq

def minutesADay : Int := 24 * 60

/-- A span of time as whole days, rounded down, and seconds; parts that are zero are left out. -/
def spanText (minutes : Int) : String :=
  let days := minutes.fdiv minutesADay
  let seconds := minutes.fmod minutesADay * 60
  "datetime.timedelta(" ++ String.intercalate ", "
    ((if days = 0 then [] else ["days=" ++ toString days]) ++
      (if seconds = 0 then [] else ["seconds=" ++ toString seconds])) ++ ")"

def Fault.text : Fault → String
  | .zone minutes =>
    "offset must be a timedelta strictly between -timedelta(hours=24) and timedelta(hours=24), not " ++
      spanText minutes ++ "."
  | .year => "year 0 is out of range"
  | .month => "month must be in 1..12"
  | .day => "day is out of range for month"
  | .hour => "hour must be in 0..23"
  | .minute => "minute must be in 0..59"
  | .second => "second must be in 0..59"

def isLeapYear (year : Nat) : Bool := year % 4 = 0 && (year % 100 ≠ 0 || year % 400 = 0)

def daysIn (year month : Nat) : Nat :=
  if month = 2 then (if isLeapYear year then 29 else 28)
  else if [4, 6, 9, 11].contains month then 30
  else 31

/-- A zone that is a day or more away. -/
def wideZone? (t : Timestamp) : Option Int :=
  t.zone.filter fun minutes => minutesADay ≤ (minutes.natAbs : Int)

/-- The first part that is out of range. -/
def fault? (t : Timestamp) : Option Fault :=
  let (hour, minute, second) := t.time.getD (0, 0, 0)
  match t.wideZone? with
  | some minutes => some (.zone minutes)
  | none =>
    if t.year = 0 then some .year
    else if t.month = 0 ∨ 12 < t.month then some .month
    else if t.day = 0 ∨ daysIn t.year t.month < t.day then some .day
    else if 23 < hour then some .hour
    else if 59 < minute then some .minute
    else if 59 < second then some .second
    else none

/-! ## Spelling -/

/-- A number in decimal, with zeros in front up to a width. -/
def padded (width n : Nat) : String :=
  let digits := toString n
  String.ofList (List.replicate (width - digits.length) '0') ++ digits

def text (t : Timestamp) : String :=
  padded 4 t.year ++ "-" ++ padded 2 t.month ++ "-" ++ padded 2 t.day ++
    match t.time with
    | none => ""
    | some (hour, minute, second) =>
      " " ++ padded 2 hour ++ ":" ++ padded 2 minute ++ ":" ++ padded 2 second

end Timestamp

end ContractAtlas.Yaml
