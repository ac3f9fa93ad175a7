import ShaderBuild.Tool.Calendar

/-! # Times in words

A time is described by words in any order: a date, a time of day, a zone, a day of the week, and
shifts such as `2 days ago` or `next month`.  What is not described is taken from the present, or
is midnight if a day is named. -/

namespace ShaderBuild.Tool

/-- What words have said about a time. -/
structure Moment where
  date : Option Date := none
  /-- Seconds and nanoseconds since midnight. -/
  clock : Option (Nat × Nat) := none
  /-- How far the clock is ahead of universal time, in seconds. -/
  zone : Int := 0
  /-- The place of the day of the week in `weekdayNames`, and how many weeks further on it is. -/
  weekday : Option (Nat × Int) := none
  months : Int := 0
  days : Int := 0
  seconds : Int := 0
  /-- Whether a shift was described. -/
  shifted : Bool := false

namespace Moment

/-! ### Dates and times of day -/

/-- The date that numbers make. -/
def dateOf? (year month day : Nat) : Option Date :=
  if 1 ≤ month && month ≤ 12 && 1 ≤ day && day ≤ 31 then some ⟨year, month, day⟩ else none

/-- A date such as `2024-02-29`, `20240229`, `2024/02/29` or `02/29/2024`. -/
def date? (cs : List Char) : Option Date := do
  if cs.contains '-' then
    match ← (pieces (· == '-') cs).mapM digitsNumber? with
    | [y, m, d] => dateOf? y m d
    | _ => none
  else if cs.contains '/' then
    let parts := pieces (· == '/') cs
    match ← parts.mapM digitsNumber? with
    | [a, b, c] => if (parts.headD []).length == 4 then dateOf? a b c else dateOf? c a b
    | _ => none
  else if cs.length == 8 then
    match ← [cs.take 4, (cs.drop 4).take 2, cs.drop 6].mapM digitsNumber? with
    | [y, m, d] => dateOf? y m d
    | _ => none
  else none

/-- Half of the day that a word names: the hours before noon, or those from noon on. -/
def half? (cs : List Char) : Option Bool :=
  if cs == "am".toList || cs == "a.m.".toList then some false
  else if cs == "pm".toList || cs == "p.m.".toList then some true
  else none

/-- A time of day such as `12:30`, `12:30:15.5` or `3pm`, and what follows it in the word. -/
def clock? (cs : List Char) : Option ((Nat × Nat) × List Char) := do
  let main := cs.takeWhile fun c => c.isDigit || c == ':'
  let after := cs.drop main.length
  let part := if after.head? == some '.' then after.tail.takeWhile Char.isDigit else []
  let rest := if part.isEmpty then after else after.drop (part.length + 1)
  let late := half? rest
  let hour (h : Nat) : Option Nat :=
    match late with
    | none => if h < 24 then some h else none
    | some late => if 1 ≤ h && h ≤ 12 then some (h % 12 + if late then 12 else 0) else none
  let left := if late.isSome then [] else rest
  match ← (pieces (· == ':') main).mapM digitsNumber? with
  | [h] => if late.isSome then return (((← hour h) * 3600, 0), left) else none
  | [h, m] => if m < 60 then return (((← hour h) * 3600 + m * 60, 0), left) else none
  | [h, m, s] =>
    if m < 60 && s < 61 then
      return (((← hour h) * 3600 + m * 60 + s, fractionNanoseconds part), left)
    else none
  | _ => none

/-- The seconds of a zone such as `+0200`, `-05:30` or `Z`. -/
def zone? (cs : List Char) : Option Int := do
  if ["z", "utc", "gmt"].any fun name => cs == name.toList then return 0
  else
    let sign : Int ← match cs.head? with
      | some '+' => some 1
      | some '-' => some (-1)
      | _ => none
    let digits := cs.tail.filter (· != ':')
    let n ← digitsNumber? digits
    let minutes := if digits.length ≤ 2 then n * 60 else n / 100 * 60 + n % 100
    return sign * (minutes * 60 : Nat)

/-! ### Words -/

/-- The place in a list of names of one that a word is, or abbreviates to three letters or more. -/
def named? (names : List String) (cs : List Char) : Option Nat :=
  let cs := if cs.getLast? == some '.' then cs.dropLast else cs
  if cs.length < 3 then none
  else names.findIdx? fun name => cs.isPrefixOf (name.toList.map Char.toLower)

/-- A shift by units of time with a name. -/
def shift? (n : Int) (unit : List Char) (m : Moment) : Option Moment :=
  let unit := if unit.getLast? == some 's' && 3 < unit.length then unit.dropLast else unit
  let m := { m with shifted := true }
  match String.ofList unit with
  | "year" => some { m with months := m.months + 12 * n }
  | "month" => some { m with months := m.months + n }
  | "fortnight" => some { m with days := m.days + 14 * n }
  | "week" => some { m with days := m.days + 7 * n }
  | "day" => some { m with days := m.days + n }
  | "hour" => some { m with seconds := m.seconds + 3600 * n }
  | "minute" | "min" => some { m with seconds := m.seconds + 60 * n }
  | "second" | "sec" => some { m with seconds := m.seconds + n }
  | _ => none

/-- A shift by a number, and what follows it: `ago` turns it round. -/
def shiftBy? (n : Int) (unit : List Char) (rest : List (List Char)) (m : Moment) :
    Option (Moment × List (List Char)) :=
  match rest with
  | next :: rest' =>
    if next == "ago".toList then (m.shift? (-n) unit).map fun m => (m, rest')
    else (m.shift? n unit).map fun m => (m, rest)
  | [] => (m.shift? n unit).map fun m => (m, [])

/-- The number that stands for an ordinal word. -/
def ordinal? (cs : List Char) : Option Int :=
  match String.ofList cs with
  | "last" => some (-1)
  | "this" => some 0
  | "next" | "first" => some 1
  | "third" => some 3
  | _ => none

/-- A number with a sign. -/
def signed? (cs : List Char) : Option Int :=
  match cs with
  | '+' :: cs => (digitsNumber? cs).map fun n => (n : Int)
  | '-' :: cs => (digitsNumber? cs).map fun n => -(n : Int)
  | cs => (digitsNumber? cs).map fun n => (n : Int)

/-- What the words at the front say, and the other words; `timed` says that a time of day came just
before. -/
def word? (timed : Bool) (m : Moment) (word : List Char) (rest : List (List Char)) :
    Option (Moment × List (List Char) × Bool) := do
  let plain (m : Moment) : Option (Moment × List (List Char) × Bool) := some (m, rest, false)
  let hasSign := word.head? == some '+' || word.head? == some '-'
  match String.ofList word with
  | "now" | "today" => plain { m with shifted := true }
  | "yesterday" => plain { m with shifted := true, days := m.days - 1 }
  | "tomorrow" => plain { m with shifted := true, days := m.days + 1 }
  | _ =>
    if timed && hasSign then
      match zone? word with
      | some z => return ({ m with zone := z }, rest, false)
      | none => none
    else if let some n := ordinal? word then
      match rest with
      | unit :: rest =>
        match named? weekdayNames unit with
        | some day => return ({ m with weekday := some (day, if n ≤ 0 then n else n - 1) }, rest, false)
        | none =>
          let (m, rest) ← m.shiftBy? n unit rest
          return (m, rest, false)
      | [] => none
    else if let some day := named? weekdayNames word then plain { m with weekday := some (day, 0) }
    else if let some month := named? monthNames word then
      match rest with
      | day :: year :: rest' =>
        match digitsNumber? day, digitsNumber? year with
        | some d, some y => return ({ m with date := some (← dateOf? y (month + 1) d) }, rest', false)
        | _, _ => none
      | _ => none
    else if let some z := if hasSign then none else zone? word then plain { m with zone := z }
    else if let some d := date? word then plain { m with date := some d }
    else if let some (t, left) := clock? word then
      if left.isEmpty then
        match rest.head?.bind half? with
        | some late =>
          let t := (t.1 % 43200 + if late then 43200 else 0, t.2)
          return ({ m with clock := some t }, rest.tail, true)
        | none => return ({ m with clock := some t }, rest, true)
      else return ({ m with clock := some t, zone := (← zone? left) }, rest, true)
    else if let some n := signed? word then
      match rest with
      | next :: rest' =>
        match named? monthNames next, rest'.head?.bind digitsNumber? with
        | some month, some year =>
          return ({ m with date := some (← dateOf? year (month + 1) n.toNat) }, rest'.tail, false)
        | _, _ =>
          let (m, rest) ← m.shiftBy? n next rest'
          return (m, rest, false)
      | [] => none
    else
      let (m, rest) ← m.shiftBy? 1 word rest
      return (m, rest, false)

/-- What at most `n` words say. -/
def words? : (n : Nat) → (timed : Bool) → Moment → List (List Char) → Option Moment
  | _, _, m, [] => some m
  | 0, _, _, _ => none
  | n + 1, timed, m, word :: rest => do
    let (m, rest, timed) ← m.word? timed word rest
    words? n timed m rest

/-- The seconds and nanoseconds of a moment, seen from the present. -/
def resolve (m : Moment) (now : Int × Nat) : Int × Nat :=
  let today := civilFromDays (now.1.fdiv 86400)
  let present : Int × Nat := (now.1.fmod 86400, now.2)
  let date := m.date.getD today
  let keeps := m.date.isNone && m.weekday.isNone && m.shifted
  let (time, nanoseconds) : Int × Nat := match m.clock with
    | some (s, ns) => ((s : Nat), ns)
    | none => if keeps then present else (0, 0)
  let index : Int := date.year * 12 + (date.month - 1 : Nat) + m.months
  let first := daysFromCivil ⟨index.fdiv 12, (index.fmod 12).toNat + 1, 1⟩
  let day := first + (date.day - 1 : Nat) + m.days
  let ahead : Int := match m.weekday with
    | some (w, weeks) => ((w : Int) - day).fmod 7 + 7 * weeks
    | none => 0
  ((day + ahead) * 86400 + time + m.seconds - m.zone, nanoseconds)

end Moment

/-- The words of a description, in small letters; a `T` between a date and a time parts them. -/
def momentWords (text : String) : List (List Char) :=
  let words := (pieces (fun c => c == ' ' || c == ',' || c == '\t') text.toList).filter fun w => !w.isEmpty
  let small := words.map fun w => w.map Char.toLower
  let cut := small.flatMap fun w =>
    match pieces (· == 't') w with
    | [day, time] => if (Moment.date? day).isSome && !time.isEmpty then [day, time] else [w]
    | _ => [w]
  joinSigns cut
where
  /-- Signs joined to the words after them. -/
  joinSigns : List (List Char) → List (List Char)
    | ['+'] :: w :: rest => ('+' :: w) :: joinSigns rest
    | ['-'] :: w :: rest => ('-' :: w) :: joinSigns rest
    | w :: rest => w :: joinSigns rest
    | [] => []

/-- The seconds and nanoseconds that a text describes; `now` is the time in nanoseconds. -/
def describedTime? (now : Nat) (text : String) : Option (Int × Nat) :=
  match text.toList with
  | '@' :: rest =>
    let (negative, digits) := match rest with
      | '-' :: rest => (true, rest)
      | rest => (false, rest)
    let whole := digits.takeWhile (· != '.')
    (digitsNumber? whole).map fun n =>
      (if negative then -(n : Int) else n, fractionNanoseconds (digits.drop (whole.length + 1)))
  | _ =>
    let words := momentWords text
    (Moment.words? words.length false {} words).map fun m =>
      m.resolve (now / nanosPerSecond, now % nanosPerSecond)

/-! ### The tool -/

/-- The tool `date`. -/
def dateTool : Routine :=
  withOptions
    { flags := "uR", valued := "dr", glued := "I"
      long := [("date", 'd'), ("utc", 'u'), ("universal", 'u'), ("reference", 'r'),
        ("iso-8601", 'I'), ("rfc-email", 'R')] } 1 fun o => do
    let files ← tree
    let time : Except String (Int × Nat) := match o.value? 'd', o.value? 'r' with
      | some text, _ =>
        match describedTime? files.clock text with
        | some t => .ok t
        | none => .error ("invalid date " ++ quoted text)
      | none, some file =>
        match files.find (pathOf file) with
        | .ok (_, .file n) =>
          let t := ((files.body? n).map FileBody.modified).getD files.clock
          .ok (t / nanosPerSecond, t % nanosPerSecond)
        | .ok _ => .ok (files.clock / nanosPerSecond, files.clock % nanosPerSecond)
        | .error e => .error (quotedIfNeeded file ++ ": " ++ e.reason)
      | none, none => .ok (files.clock / nanosPerSecond, files.clock % nanosPerSecond)
    match time, o.operands with
    | .error text, _ => complain 1 text
    | .ok (s, ns), [] =>
      let format := if o.has 'R' then "%a, %d %b %Y %T %z"
        else match o.value? 'I' with
          | some "seconds" => "%Y-%m-%dT%H:%M:%S+00:00"
          | some _ => "%Y-%m-%d"
          | none => "%a %b %e %H:%M:%S %Z %Y"
      say (formatDate s ns format.toList ++ "\n")
    | .ok (s, ns), format :: _ =>
      match format.toList with
      | '+' :: cs => say (formatDate s ns cs ++ "\n")
      | _ => complain 1 ("invalid date " ++ quoted format)

end ShaderBuild.Tool
