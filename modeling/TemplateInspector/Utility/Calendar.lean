import TemplateInspector.Utility.Options

/-!
# Dates

Moments are counted in seconds from the start of the year 1970, in universal time. A moment can be
written in many forms and read from some. The clock starts at zero when a program is started, and
goes on only while programs wait.
-/

namespace TemplateInspector.Utility

/-! ## The calendar -/

/-- The number of days from the start of the year zero, counted from March on, to a date. -/
def daysToMarch (year : Int) : Int :=
  365 * year + year.fdiv 4 - year.fdiv 100 + year.fdiv 400

/-- The number of days from the start of the year 1970 to a date. Months are counted from one, and
those beyond a year lead to other years. -/
def daysTo (year month day : Int) : Int :=
  let shifted := month - 3
  let year := year + shifted.fdiv 12
  let month := shifted.fmod 12
  daysToMarch year + (153 * month + 2).fdiv 5 + day - 1 - 719468

/-- A moment as it is told. -/
structure Moment where
  year : Int
  month : Nat
  day : Nat
  hour : Nat
  minute : Nat
  second : Nat
  /-- The number of the day in the week, which starts on Sunday. -/
  weekday : Nat
  /-- The number of the day in the year, counted from zero. -/
  yearDay : Nat

/-- The moment that lies a number of seconds behind the start of the year 1970. -/
def Moment.ofSeconds (seconds : Int) : Moment :=
  let days := seconds.fdiv 86400
  let rest := (seconds.fmod 86400).toNat
  let guess := (days + 719468).fdiv 366
  let year := (List.range 4000).foldl (fun year _ =>
    if daysToMarch (year + 1) ≤ days + 719468 then year + 1 else year) guess
  let inYear := days + 719468 - daysToMarch year
  let month := ((5 * inYear + 2).fdiv 153).toNat
  let day := (inYear - ((153 * month + 2 : Nat) : Int).fdiv 5 + 1).toNat
  let (year, month) := if month < 10 then (year, month + 3) else (year + 1, month - 9)
  { year, month, day
    hour := rest / 3600
    minute := rest / 60 % 60
    second := rest % 60
    weekday := ((days + 4).fmod 7).toNat
    yearDay := (days - daysTo year 1 1).toNat }

/-- The names of the days of the week. -/
def weekdayNames : List String :=
  ["Sunday", "Monday", "Tuesday", "Wednesday", "Thursday", "Friday", "Saturday"]

/-- The names of the months. -/
def monthNames : List String :=
  ["January", "February", "March", "April", "May", "June", "July", "August", "September",
    "October", "November", "December"]

namespace Moment

/-- The day of the week, counted from Monday as one. -/
def mondayDay (m : Moment) : Nat :=
  if m.weekday = 0 then 7 else m.weekday

/-- The year and the number of the week to which a day belongs. The first week of a year is the one
with its first Thursday. -/
def week (m : Moment) : Int × Nat :=
  let thursday : Int := m.yearDay + 4 - m.mondayDay
  let length (year : Int) : Int := daysTo (year + 1) 1 1 - daysTo year 1 1
  if thursday < 0 then (m.year - 1, ((thursday + length (m.year - 1)) / 7).toNat + 1)
  else if length m.year ≤ thursday then (m.year + 1, 1)
  else (m.year, (thursday / 7).toNat + 1)

end Moment

/-! ## Writing -/

/-- A text in a directive: the text, its least width, and what fills it up. -/
structure DatePart where
  /-- The text. -/
  text : List Char
  /-- The least width. -/
  width : Nat := 0
  /-- What fills it up to the width. -/
  filler : Char := '0'

/-- A number in a directive. -/
def datePart (n : Int) (width : Nat) (filler : Char) : DatePart :=
  ⟨decimalOf n, width, filler⟩

/-- A name in a directive. -/
def namePart (names : List String) (index : Nat) (isShort : Bool) : DatePart :=
  let name := (names.getD index "").toList
  ⟨if isShort then name.take 3 else name, 0, ' '⟩

/-- The hour of half a day. -/
def halfDayHour (hour : Nat) : Nat :=
  if hour % 12 = 0 then 12 else hour % 12

/-- The directives that stand for others. -/
def composedDirective? (letter : Char) : Option String :=
  match letter with
  | 'D' | 'x' => some "%m/%d/%y"
  | 'F' => some "%Y-%m-%d"
  | 'T' | 'X' => some "%H:%M:%S"
  | 'R' => some "%H:%M"
  | 'r' => some "%I:%M:%S %p"
  | 'c' => some "%a %b %e %H:%M:%S %Y"
  | _ => none

/-- What a directive stands for. -/
def Moment.part? (m : Moment) (seconds : Int) (letter : Char) : Option DatePart :=
  match letter with
  | 'Y' => some (datePart m.year 4 '0')
  | 'C' => some (datePart (m.year.fdiv 100) 2 '0')
  | 'y' => some (datePart (m.year.fmod 100) 2 '0')
  | 'm' => some (datePart m.month 2 '0')
  | 'd' => some (datePart m.day 2 '0')
  | 'e' => some (datePart m.day 2 ' ')
  | 'H' => some (datePart m.hour 2 '0')
  | 'k' => some (datePart m.hour 2 ' ')
  | 'I' => some (datePart (halfDayHour m.hour) 2 '0')
  | 'l' => some (datePart (halfDayHour m.hour) 2 ' ')
  | 'M' => some (datePart m.minute 2 '0')
  | 'S' => some (datePart m.second 2 '0')
  | 'N' => some (datePart 0 9 '0')
  | 's' => some (datePart seconds 1 '0')
  | 'j' => some (datePart (m.yearDay + 1 : Nat) 3 '0')
  | 'q' => some (datePart ((m.month + 2) / 3 : Nat) 1 '0')
  | 'u' => some (datePart m.mondayDay 1 '0')
  | 'w' => some (datePart m.weekday 1 '0')
  | 'U' => some (datePart ((m.yearDay + 7 - m.weekday) / 7 : Nat) 2 '0')
  | 'W' => some (datePart ((m.yearDay + 8 - m.mondayDay) / 7 : Nat) 2 '0')
  | 'V' => some (datePart m.week.2 2 '0')
  | 'G' => some (datePart m.week.1 4 '0')
  | 'g' => some (datePart (m.week.1.fmod 100) 2 '0')
  | 'a' => some (namePart weekdayNames m.weekday true)
  | 'A' => some (namePart weekdayNames m.weekday false)
  | 'b' | 'h' => some (namePart monthNames (m.month - 1) true)
  | 'B' => some (namePart monthNames (m.month - 1) false)
  | 'p' => some ⟨(if m.hour < 12 then "AM" else "PM").toList, 0, ' '⟩
  | 'P' => some ⟨(if m.hour < 12 then "am" else "pm").toList, 0, ' '⟩
  | 'Z' => some ⟨"UTC".toList, 0, ' '⟩
  | 'z' => some ⟨"+0000".toList, 0, '0'⟩
  | 'n' => some ⟨['\n'], 0, ' '⟩
  | 't' => some ⟨['\t'], 0, ' '⟩
  | '%' => some ⟨['%'], 0, ' '⟩
  | _ => none

/-- A part as flags and a width want it. -/
def DatePart.shown (part : DatePart) (flags : List Char) (width : Nat) : List Char :=
  let filler := match flags.reverse.find? "_-0".toList.contains with
    | some '_' => ' '
    | some '0' => '0'
    | _ => part.filler
  let least := if flags.contains '-' then width else max width part.width
  let text := if flags.contains '^' then part.text.map Char.toUpper
    else if flags.contains '#' then
      if part.text.all fun c => !c.isLower then part.text.map Char.toLower
      else part.text.map Char.toUpper
    else part.text
  List.replicate (least - text.length) filler ++ text

/-- What a format prints for a moment. `fuel` bounds the number of steps. -/
def Moment.formatted (m : Moment) (seconds : Int) : Nat → List Char → List Char
  | 0, _ | _, [] => []
  | fuel + 1, '%' :: rest =>
    let flags := rest.takeWhile "_-0^#+".toList.contains
    let behind := rest.drop flags.length
    let digits := behind.takeWhile Char.isDigit
    let behind := behind.drop digits.length
    let width := valueOf digits
    match behind with
    | ':' :: 'z' :: behind => "+00:00".toList ++ m.formatted seconds fuel behind
    | letter :: behind =>
      let text : List Char := match composedDirective? letter, m.part? seconds letter with
        | some format, _ =>
          (⟨m.formatted seconds fuel format.toList, 0, ' '⟩ : DatePart).shown flags width
        | none, some part => part.shown flags width
        | none, none => '%' :: flags ++ digits ++ [letter]
      text ++ m.formatted seconds fuel behind
    | [] => '%' :: flags ++ digits
  | fuel + 1, c :: rest => c :: m.formatted seconds fuel rest

/-! ## Reading -/

/-- The numbers of a text that are separated by a character, if the text is made of such. -/
def numbersBetween? (separator : Char) (text : List Char) : Option (List Nat) :=
  (text.splitOn separator).mapM natural?

/-- What has been read of a moment. -/
structure DateReading where
  /-- The day, in seconds. -/
  day : Option Int := none
  /-- The seconds within the day. -/
  time : Option Int := none
  /-- Months, days and seconds that are added. -/
  months : Int := 0
  days : Int := 0
  seconds : Int := 0

/-- The seconds to the start of a date, if there is such a date. -/
def dateSeconds? (year month day : Nat) : Option Int :=
  let start := daysTo year month 1
  let length := daysTo year (month + 1) 1 - start
  if 1 ≤ month && month ≤ 12 && 1 ≤ day && day ≤ length then some ((start + day - 1) * 86400)
  else none

/-- The seconds of a time of day, if there is such a time. -/
def timeSeconds? (text : List Char) : Option Int :=
  match numbersBetween? ':' (text.takeWhile (· ≠ '.')) with
  | some [hour, minute] =>
    if hour < 24 && minute < 60 then some (hour * 3600 + minute * 60 : Nat) else none
  | some [hour, minute, second] =>
    if hour < 24 && minute < 60 && second < 61 then some (hour * 3600 + minute * 60 + second : Nat)
    else none
  | _ => none

/-- Adds a number of units to what has been read. -/
def DateReading.shift? (r : DateReading) (count : Int) (unit : List Char) : Option DateReading :=
  let unit := String.ofList (unit.map Char.toLower)
  match if unit.endsWith "s" then (unit.dropEnd 1).toString else unit with
  | "sec" | "second" => some { r with seconds := r.seconds + count }
  | "min" | "minute" => some { r with seconds := r.seconds + 60 * count }
  | "hour" => some { r with seconds := r.seconds + 3600 * count }
  | "day" => some { r with days := r.days + count }
  | "week" => some { r with days := r.days + 7 * count }
  | "fortnight" => some { r with days := r.days + 14 * count }
  | "month" => some { r with months := r.months + count }
  | "year" => some { r with months := r.months + 12 * count }
  | _ => none

/-- Reads a word of a date by itself. -/
def DateReading.word? (r : DateReading) (word : List Char) : Option DateReading :=
  match String.ofList (word.map Char.toLower) with
  | "now" | "today" | "utc" | "z" | "gmt" => some r
  | "tomorrow" => some { r with days := r.days + 1 }
  | "yesterday" => some { r with days := r.days - 1 }
  | "midnight" => some { r with time := some 0 }
  | "noon" => some { r with time := some 43200 }
  | _ =>
    let bare := if word.getLast? = some 'Z' then word.dropLast else word
    match numbersBetween? '-' bare, numbersBetween? '/' bare, timeSeconds? bare with
    | some [year, month, day], _, _ | _, some [year, month, day], _ =>
      (dateSeconds? year month day).map fun day => { r with day := some day }
    | some [n], _, _ =>
      if bare.length ≠ 8 then none
      else (dateSeconds? (n / 10000) (n / 100 % 100) (n % 100)).map fun day =>
        { r with day := some day }
    | _, _, some time => some { r with time := some time }
    | _, _, none => none

/-- Divides numbers from the letters behind them. -/
def dateWords (text : List Char) : List (List Char) :=
  ((text.splitOn ' ').filter (· ≠ [])).flatMap fun word =>
    let number := word.takeWhile fun c => c.isDigit || c = '+' || c = '-'
    let letters := word.drop number.length
    if !number.isEmpty && !letters.isEmpty && letters.all Char.isAlpha && letters ≠ ['Z'] then
      [number, letters]
    else match word.splitOn 'T' with
      | [date, time] => if (numbersBetween? '-' date).isSome then [date, time] else [word]
      | _ => [word]

/-- Reads the words of a date. `fuel` bounds their number. -/
def readDateWords : Nat → List (List Char) → DateReading → Option DateReading
  | 0, _, r | _, [], r => some r
  | fuel + 1, word :: rest, r =>
    let alone : Option DateReading := (r.word? word).bind (readDateWords fuel rest)
    let (sign, digits) : Int × List Char := match word with
      | '-' :: digits => (-1, digits)
      | '+' :: digits => (1, digits)
      | digits => (1, digits)
    let count? : Option Int := match String.ofList word with
      | "next" => some 1
      | "last" => some (-1)
      | _ => (natural? digits).map fun n => sign * n
    match count?, rest with
    | some count, unit :: behind =>
      let isBack := behind.head? = some "ago".toList
      match r.shift? (if isBack then -count else count) unit with
      | some r => readDateWords fuel (if isBack then behind.drop 1 else behind) r
      | none => alone
    | _, _ => alone

/-- The moment that a text tells, in seconds. `now` is the present moment. -/
def readDate? (now : Int) (text : List Char) : Option Int :=
  match text with
  | '@' :: '-' :: digits => (natural? digits).map fun n => -(n : Int)
  | '@' :: digits => (natural? (digits.takeWhile (· ≠ '.'))).map fun n => (n : Int)
  | text => do
    let words := dateWords text
    let r ← readDateWords (words.length + 1) words {}
    let today := now.fdiv 86400 * 86400
    let start := match r.day, r.time with
      | some day, time => day + time.getD 0
      | none, some time => today + time
      | none, none => if text.all (· = ' ') then today else now
    let m := Moment.ofSeconds start
    let shifted := daysTo m.year (m.month + r.months) (m.day + r.days)
    return shifted * 86400 + start.fmod 86400 + r.seconds

/-! ## The program -/

/-- The options of `date`. -/
def dateOptions : OptionTable where
  plain := "uR"
  valued := "dsrf"
  optional := "I\x01"
  long := [⟨"date", 'd', true⟩, ⟨"utc", 'u', false⟩, ⟨"universal", 'u', false⟩,
    ⟨"iso-8601", 'I', false⟩, ⟨"rfc-email", 'R', false⟩, ⟨"rfc-3339", '\x01', false⟩]

/-- The format that options ask for. -/
def dateFormat? (a : Arguments) : Option String :=
  if a.has 'R' then some "%a, %d %b %Y %H:%M:%S %z"
  else match (a.value? 'I').map String.ofList, (a.value? '\x01').map String.ofList with
    | some "hours", _ => some "%Y-%m-%dT%H%:z"
    | some "minutes", _ => some "%Y-%m-%dT%H:%M%:z"
    | some "seconds", _ => some "%Y-%m-%dT%H:%M:%S%:z"
    | some _, _ => some "%Y-%m-%d"
    | none, some "date" => some "%Y-%m-%d"
    | none, some _ => some "%Y-%m-%d %H:%M:%S%:z"
    | none, none => none

/-- Prints a moment, which is the present one if none is told. -/
def date (arguments : List (List Char)) : Act Unit := do
  let a ← dateOptions.read arguments
  let now : Int := ((← get).elapsed / Nat.pow 10 6 : Nat)
  let seconds ← match a.value? 'd' with
    | none => pure now
    | some text => match readDate? now text with
      | some seconds => pure seconds
      | none => fail 1 ("invalid date ".toList ++ quoted text)
  let format ← match a.operands with
    | [] => pure ((dateFormat? a).getD "%a %b %e %H:%M:%S %Z %Y").toList
    | [text] =>
      match text with
      | '+' :: format => pure format
      | text => fail 1 ("invalid date ".toList ++ quoted text)
    | _ :: extra :: _ => refuse 1 ("extra operand ".toList ++ quoted extra)
  printLine ((Moment.ofSeconds seconds).formatted seconds (8 * format.length + 64) format)

end TemplateInspector.Utility
