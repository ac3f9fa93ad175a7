import ShaderBuild.Tool.Options

/-! # Dates

Times are seconds since the beginning of 1970, in universal time.  `daysFromCivil` numbers the days
of the calendar and `civilFromDays` gives the date of a numbered day. -/

namespace ShaderBuild.Tool

/-- A date of the calendar. -/
structure Date where
  year : Int
  month : Nat
  day : Nat
deriving DecidableEq, Repr

/-! ### Executable definitions -/

/-- The number of the day of a date, counted from the first day of 1970. -/
def daysFromCivil (d : Date) : Int :=
  let y := if d.month ≤ 2 then d.year - 1 else d.year
  let era := y.fdiv 400
  let yearOfEra := y - era * 400
  let shifted : Int := if 2 < d.month then d.month - 3 else d.month + 9
  let dayOfYear := (153 * shifted + 2) / 5 + d.day - 1
  let dayOfEra := yearOfEra * 365 + yearOfEra / 4 - yearOfEra / 100 + dayOfYear
  era * 146097 + dayOfEra - 719468

/-- The date of the day with a number. -/
def civilFromDays (n : Int) : Date :=
  let z := n + 719468
  let era := z.fdiv 146097
  let dayOfEra := z - era * 146097
  let yearOfEra := (dayOfEra - dayOfEra / 1460 + dayOfEra / 36524 - dayOfEra / 146096) / 365
  let dayOfYear := dayOfEra - (365 * yearOfEra + yearOfEra / 4 - yearOfEra / 100)
  let shifted := (5 * dayOfYear + 2) / 153
  let day := dayOfYear - (153 * shifted + 2) / 5 + 1
  let month := if shifted < 10 then shifted + 3 else shifted - 9
  let year := yearOfEra + era * 400 + if month ≤ 2 then 1 else 0
  ⟨year, month.toNat, day.toNat⟩

/-- The names of the months. -/
def monthNames : List String :=
  ["January", "February", "March", "April", "May", "June", "July", "August", "September",
    "October", "November", "December"]

/-- The names of the days of the week, from the day on which 1970 began. -/
def weekdayNames : List String :=
  ["Thursday", "Friday", "Saturday", "Sunday", "Monday", "Tuesday", "Wednesday"]

/-- A number with zeros before it up to a width. -/
def zeroPadded (width : Nat) (n : Int) : String :=
  let digits := Nat.repr n.natAbs
  (if n < 0 then "-" else "") ++ String.ofList (List.replicate (width - digits.length) '0') ++ digits

/-- A number with blanks before it up to a width. -/
def blankPadded (width : Nat) (n : Int) : String :=
  let digits := toString n
  String.ofList (List.replicate (width - digits.length) ' ') ++ digits

/-- What a letter of a format of dates stands for; `nanoseconds` belong to the second. -/
def dateField (seconds : Int) (nanoseconds : Nat) (letter : Char) : Option String :=
  let days := seconds.fdiv 86400
  let rest := seconds - days * 86400
  let d := civilFromDays days
  let (h, m, s) := (rest / 3600, rest / 60 % 60, rest % 60)
  let month := monthNames.getD (d.month - 1) ""
  let weekday := weekdayNames.getD (days.fmod 7).toNat ""
  let short (name : String) : String := String.ofList (name.toList.take 3)
  let two := zeroPadded 2
  let hour12 := if h % 12 == 0 then 12 else h % 12
  let yearDay := days - daysFromCivil ⟨d.year, 1, 1⟩ + 1
  let time := two h ++ ":" ++ two m ++ ":" ++ two s
  match letter with
  | 'Y' => some (toString d.year)
  | 'C' => some (two (d.year / 100))
  | 'y' => some (two (d.year % 100))
  | 'm' => some (two d.month)
  | 'd' => some (two d.day)
  | 'e' => some (blankPadded 2 d.day)
  | 'H' => some (two h)
  | 'I' => some (two hour12)
  | 'k' => some (blankPadded 2 h)
  | 'l' => some (blankPadded 2 hour12)
  | 'M' => some (two m)
  | 'S' => some (two s)
  | 'N' => some (zeroPadded 9 nanoseconds)
  | 's' => some (toString seconds)
  | 'j' => some (zeroPadded 3 yearDay)
  | 'p' => some (if h < 12 then "AM" else "PM")
  | 'P' => some (if h < 12 then "am" else "pm")
  | 'F' => some (toString d.year ++ "-" ++ two d.month ++ "-" ++ two d.day)
  | 'T' => some time
  | 'X' => some time
  | 'R' => some (two h ++ ":" ++ two m)
  | 'r' => some (two hour12 ++ ":" ++ two m ++ ":" ++ two s ++ if h < 12 then " AM" else " PM")
  | 'D' | 'x' => some (two d.month ++ "/" ++ two d.day ++ "/" ++ two (d.year % 100))
  | 'a' => some (short weekday)
  | 'A' => some weekday
  | 'b' | 'h' => some (short month)
  | 'B' => some month
  | 'c' =>
    some (short weekday ++ " " ++ short month ++ " " ++ blankPadded 2 d.day ++ " " ++ time ++ " "
      ++ toString d.year)
  | 'u' => some (toString ((days + 3).fmod 7 + 1))
  | 'w' => some (toString ((days + 4).fmod 7))
  | 'U' => some (two ((yearDay + 6 - (days + 4).fmod 7) / 7))
  | 'W' => some (two ((yearDay + 6 - (days + 3).fmod 7) / 7))
  | 'z' => some "+0000"
  | 'Z' => some "UTC"
  | 'n' => some "\n"
  | 't' => some "\t"
  | '%' => some "%"
  | _ => none

/-- A time in a format. -/
def formatDate (seconds : Int) (nanoseconds : Nat) : List Char → String
  | '%' :: '-' :: c :: rest =>
    let field := (dateField seconds nanoseconds c).getD ("%-" ++ c.toString)
    let bare := field.toList.dropWhile fun c => c == '0' || c == ' '
    String.ofList (if bare.isEmpty then field.toList.take 1 else bare)
      ++ formatDate seconds nanoseconds rest
  | '%' :: c :: rest =>
    (dateField seconds nanoseconds c).getD ("%" ++ c.toString)
      ++ formatDate seconds nanoseconds rest
  | c :: rest => c.toString ++ formatDate seconds nanoseconds rest
  | [] => ""

/-! ### Reading -/

/-- The number that digits spell; none without digits. -/
def digitsNumber? (cs : List Char) : Option Nat :=
  if cs.isEmpty || !cs.all Char.isDigit then none
  else some (cs.foldl (fun n c => 10 * n + (c.toNat - '0'.toNat)) 0)

/-- The nanoseconds that the digits after a point spell. -/
def fractionNanoseconds (cs : List Char) : Nat :=
  ((cs ++ List.replicate 9 '0').take 9).foldl (fun n c => 10 * n + (c.toNat - '0'.toNat)) 0

/-- The seconds of a stamp such as `202402291230.15`; the year may be left out. -/
def stampTime? (now : Nat) (text : String) : Option Int := do
  let main := text.toList.takeWhile (· != '.')
  let seconds ← match (text.toList.dropWhile (· != '.')).tail with
    | [] => some 0
    | cs => digitsNumber? cs
  let _ ← digitsNumber? main
  let part (i n : Nat) : Nat := (digitsNumber? ((main.drop i).take n)).getD 0
  let year ← match main.length with
    | 8 => some (civilFromDays ((now / nanosPerSecond / 86400 : Nat) : Int) |>.year)
    | 10 => some (if part 0 2 < 69 then 2000 + (part 0 2 : Int) else 1900 + (part 0 2 : Int))
    | 12 => some ((part 0 4 : Nat) : Int)
    | _ => none
  let i := main.length - 8
  if part i 2 < 1 || 12 < part i 2 || part (i + 2) 2 < 1 || 31 < part (i + 2) 2
      || 23 < part (i + 4) 2 || 59 < part (i + 6) 2 then none
  else
    return daysFromCivil ⟨year, part i 2, part (i + 2) 2⟩ * 86400
      + ((part (i + 4) 2 * 3600 + part (i + 6) 2 * 60 + seconds : Nat) : Int)

end ShaderBuild.Tool
