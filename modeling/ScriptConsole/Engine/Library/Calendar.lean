import ScriptConsole.Engine.Library.Sequence

/-!
Times, in milliseconds from the start of 1970, and the calendar. A machine has no clock, and one time
zone: every reading of the clock is the start, and all hours are universal. -/
namespace ScriptConsole.Engine
open Action

namespace Calendar

structure Fields where
  year : Int
  month : Int
  day : Int
  hour : Int
  minute : Int
  second : Int
  millisecond : Int
  weekday : Int

def perDay : Int := 86400000

/- Days from the start of 1970 to a day of a month counted from zero, which may lie outside the
year. -/
def daysTo (year month day : Int) : Int :=
  let year := year + month / 12
  let month := month % 12
  let shifted := if month < 2 then year - 1 else year
  let era := shifted / 400
  let inEra := shifted - era * 400
  let inYear := (153 * ((month + 10) % 12) + 2) / 5
  era * 146097 + inEra * 365 + inEra / 4 - inEra / 100 + inYear - 719468 + day - 1

def civil (days : Int) : Int × Int × Int :=
  let z := days + 719468
  let era := z / 146097
  let inEra := z - era * 146097
  let year := (inEra - inEra / 1460 + inEra / 36524 - inEra / 146096) / 365
  let inYear := inEra - (365 * year + year / 4 - year / 100)
  let month := (5 * inYear + 2) / 153
  let day := inYear - (153 * month + 2) / 5 + 1
  let month := (month + 2) % 12
  (year + era * 400 + (if month < 2 then 1 else 0), month, day)

def fields (time : Int) : Fields :=
  let days := time / perDay
  let left := time % perDay
  let (year, month, day) := civil days
  ⟨year, month, day, left / 3600000, left / 60000 % 60, left / 1000 % 60, left % 1000,
    (days + 4) % 7⟩

def timeOf (f : Fields) : Int :=
  daysTo f.year f.month f.day * perDay + f.hour * 3600000 + f.minute * 60000 +
    f.second * 1000 + f.millisecond

def padded (width : Nat) (n : Int) : String :=
  let digits := Nat.repr n.natAbs
  "".pushn '0' (width - digits.length) ++ digits

def yearText (year : Int) : String :=
  if 0 ≤ year && year ≤ 9999 then padded 4 year
  else (if year < 0 then "-" else "+") ++ padded 6 year

def clockText (f : Fields) : String :=
  padded 2 f.hour ++ ":" ++ padded 2 f.minute ++ ":" ++ padded 2 f.second

def isoText (time : Int) : String :=
  let f := fields time
  yearText f.year ++ "-" ++ padded 2 (f.month + 1) ++ "-" ++ padded 2 f.day ++ "T" ++
    clockText f ++ "." ++ padded 3 f.millisecond ++ "Z"

def weekdays : List String := ["Sun", "Mon", "Tue", "Wed", "Thu", "Fri", "Sat"]

def months : List String :=
  ["Jan", "Feb", "Mar", "Apr", "May", "Jun", "Jul", "Aug", "Sep", "Oct", "Nov", "Dec"]

def dayText (f : Fields) : String :=
  weekdays.getD f.weekday.toNat "" ++ " " ++ months.getD f.month.toNat "" ++ " " ++
    padded 2 f.day ++ " " ++ padded 4 f.year

def fullText (time : Int) : String :=
  let f := fields time
  dayText f ++ " " ++ clockText f ++ " GMT+0000"

def universalText (time : Int) : String :=
  let f := fields time
  weekdays.getD f.weekday.toNat "" ++ ", " ++ padded 2 f.day ++ " " ++
    months.getD f.month.toNat "" ++ " " ++ padded 4 f.year ++ " " ++ clockText f ++ " GMT"

def numbersIn (t : Text) : List Int :=
  (String.ofList (t.map fun c => if Numeral.isDigit c then c else ' ')).splitOn " "
    |>.filterMap fun s => (Numeral.natural? 10 s.toList).map Int.ofNat

def parse? (s : String) : Option Int :=
  match numbersIn s.toList with
  | year :: rest =>
      if s.toList.all fun c => Numeral.isDigit c || "-:T.Z ".contains c then
        some (timeOf ⟨year, rest.getD 0 1 - 1, rest.getD 1 1, rest.getD 2 0, rest.getD 3 0,
          rest.getD 4 0, rest.getD 5 0, 0⟩)
      else none
  | [] => none

def clipped (x : Float) : Float :=
  if x.isFinite && x.abs ≤ 8.64e15 then Numeral.truncate x + 0 else Numeral.nan

def timeIn (v : Value) : Action Float := do
  match v with
  | .object ref =>
      match (← object ref).kind with
      | .date time => return time
      | _ => mistyped "not a Date object"
  | _ => mistyped "not a Date object"

def fromNumbers (numbers : List Float) : Float :=
  if numbers.any fun x => !x.isFinite then Numeral.nan
  else
    let n (k : Nat) (otherwise : Int) : Int := (numbers[k]?.map Numeral.whole).getD otherwise
    let year := n 0 0
    let year := if 0 ≤ year && year ≤ 99 then year + 1900 else year
    clipped (Float.ofInt (timeOf ⟨year, n 1 0, n 2 1, n 3 0, n 4 0, n 5 0, n 6 0, 0⟩))

def reader (name : String) (f : Fields → Int) : List Content :=
  ["get" ++ name, "getUTC" ++ name].map fun title =>
    .function title 0 fun _ use => do
      let x ← timeIn use.this
      return .number (if x.isNaN then x else Float.ofInt (f (fields (Numeral.whole x))))

def writer (name : String) (f : Fields → List Int → Fields) : List Content :=
  ["set" ++ name, "setUTC" ++ name].map fun title =>
    .function title 1 fun r use => do
      let x ← timeIn use.this
      let numbers ← use.arguments.mapM r.toNumber
      let time := if x.isNaN || numbers.any (!·.isFinite) then Numeral.nan
        else clipped (Float.ofInt (timeOf (f (fields (Numeral.whole x))
          (numbers.map Numeral.whole))))
      match use.this with
      | .object ref => update ref fun o => { o with kind := .date time }
      | _ => pure ()
      return .number time

def written (name : String) (f : Int → String) : Content :=
  .function name 0 fun _ use => do
    let x ← timeIn use.this
    return .text (if x.isNaN then "Invalid Date" else f (Numeral.whole x))

def methods : List Content :=
  [.function "valueOf" 0 fun _ use => return .number (← timeIn use.this),
    written "toString" fullText,
    .method (.symbol Symbol.toPrimitive) 1 fun r use => do
      match use.argument 0 with
      | .text "number" => r.primitiveBy use.this ["valueOf", "toString"]
      | _ => r.primitiveBy use.this ["toString", "valueOf"],
    written "toUTCString" universalText, .alias (.name "toGMTString") "toUTCString",
    .function "toISOString" 0 fun _ use => do
      let x ← timeIn use.this
      if x.isNaN then fail .range "Date value is NaN"
      return .text (isoText (Numeral.whole x)),
    written "toDateString" fun time => dayText (fields time),
    written "toTimeString" fun time => clockText (fields time) ++ " GMT+0000",
    written "toLocaleString" fullText,
    written "toLocaleDateString" fun time => dayText (fields time),
    written "toLocaleTimeString" fun time => clockText (fields time),
    .function "getTimezoneOffset" 0 fun _ use => do
      let x ← timeIn use.this
      return .number (if x.isNaN then x else 0),
    .function "getTime" 0 fun _ use => return .number (← timeIn use.this)] ++
  reader "FullYear" (·.year) ++ reader "Month" (·.month) ++ reader "Date" (·.day) ++
  reader "Hours" (·.hour) ++ reader "Minutes" (·.minute) ++ reader "Seconds" (·.second) ++
  reader "Milliseconds" (·.millisecond) ++ reader "Day" (·.weekday) ++
  [.function "setTime" 1 fun r use => do
    let time := clipped (← r.toNumber (use.argument 0))
    match use.this with
    | .object ref => update ref fun o => { o with kind := .date time }
    | _ => pure ()
    return .number time] ++
  writer "Milliseconds" (fun f n => { f with millisecond := n.getD 0 0 }) ++
  writer "Seconds" (fun f n =>
    { f with second := n.getD 0 0, millisecond := n.getD 1 f.millisecond }) ++
  writer "Minutes" (fun f n => { f with minute := n.getD 0 0, second := n.getD 1 f.second }) ++
  writer "Hours" (fun f n => { f with hour := n.getD 0 0, minute := n.getD 1 f.minute }) ++
  writer "Date" (fun f n => { f with day := n.getD 0 0 }) ++
  writer "Month" (fun f n => { f with month := n.getD 0 0, day := n.getD 1 f.day }) ++
  writer "FullYear" (fun f n =>
    { f with year := n.getD 0 0, month := n.getD 1 f.month, day := n.getD 2 f.day }) ++
  [.function "toJSON" 1 fun r use => do
    let x ← timeIn use.this
    if x.isNaN then return .null else r.invoke use.this (.name "toISOString") []]

def shelf : Shelf :=
  .constructor "Date" 7 true
    (fun r use => do
      if !isObject use.target then return .text (fullText 0)
      let time ← match use.arguments with
        | [] => pure 0
        | [v] =>
            match ← r.toPrimitive .any v with
            | .text s => pure (((parse? s).map Float.ofInt).getD Numeral.nan)
            | v => clipped <$> r.toNumber v
        | numbers => fromNumbers <$> numbers.mapM r.toNumber
      make (.date time) (← r.protoFor use.target Place.dateProto))
    Place.dateProto none
    [.function "now" 0 fun _ _ => return .number 0,
      .function "parse" 1 fun r use => do
        return .number (((parse? (← r.toText (use.argument 0))).map Float.ofInt).getD Numeral.nan),
      .function "UTC" 7 fun r use => do
        return .number (fromNumbers (← use.arguments.mapM r.toNumber))]
    methods

end Calendar

end ScriptConsole.Engine
