import ImportPolicy.Document.Real
import ImportPolicy.Text.Quoted

/-!
# Values of a configuration document

The values that the two document formats share: TOML has dates and times
besides, JSON has null. Tables keep the order in which their keys were first
written.
-/

namespace ImportPolicy.Document

/-- A day of the calendar. -/
structure Date where
  /-- The year. -/
  year : Nat
  /-- The month, from one. -/
  month : Nat
  /-- The day, from one. -/
  day : Nat
  deriving DecidableEq, Repr

/-- A time of the day. -/
structure Clock where
  /-- The hour. -/
  hour : Nat
  /-- The minute. -/
  minute : Nat
  /-- The second. -/
  second : Nat
  /-- The millionths of a second. -/
  micro : Nat
  deriving DecidableEq, Repr

/-- A value. -/
inductive Value where
  | null
  | bool (b : Bool)
  | int (n : Int)
  | real (x : Real)
  | text (s : String)
  | array (items : List Value)
  | table (entries : List (String × Value))
  | date (d : Date)
  | time (t : Clock)
  /-- A date and a time, with the distance from universal time in minutes
  if it is given. -/
  | dateTime (d : Date) (t : Clock) (offset : Option Int)
  deriving Repr

/-- The entries of a table, in order. -/
abbrev Entries := List (String × Value)

namespace Entries

/-- The value of a key. -/
def get? (entries : Entries) (key : String) : Option Value := entries.lookup key

/-- Sets the value of a key. A key that is there keeps its place. -/
def set (key : String) (value : Value) : Entries → Entries
  | [] => [(key, value)]
  | (k, v) :: more => if k = key then (k, value) :: more else (k, v) :: set key value more

end Entries

namespace Value

/-- The name of the kind of a value. -/
def kind : Value → String
  | null => "NoneType"
  | bool _ => "bool"
  | int _ => "int"
  | real _ => "float"
  | text _ => "str"
  | array _ => "list"
  | table _ => "dict"
  | date _ => "date"
  | time _ => "time"
  | dateTime .. => "datetime"

/-- Whether a value counts as given: not null, false, zero or empty. -/
def isGiven : Value → Bool
  | null => false
  | bool b => b
  | int n => n ≠ 0
  | real x => !x.isZero
  | text s => s ≠ ""
  | array items => !items.isEmpty
  | table entries => !entries.isEmpty
  | date _ | time _ | dateTime .. => true

/-- The numbers in a row, with commas between them. -/
def row (numbers : List Nat) : String := String.intercalate ", " (numbers.map toString)

/-- The numbers of a time of the day; seconds that are zero are left out. -/
def clockNumbers (t : Clock) : List Nat :=
  [t.hour, t.minute]
    ++ if t.micro ≠ 0 then [t.second, t.micro] else if t.second ≠ 0 then [t.second] else []

/-- The distance from universal time. -/
def showOffset (minutes : Int) : String :=
  if minutes = 0 then "datetime.timezone.utc"
  else
    let seconds := minutes * 60
    let days := seconds.fdiv 86400
    let rest := seconds.fmod 86400
    let parts := (if days ≠ 0 then ["days=" ++ toString days] else [])
      ++ (if rest ≠ 0 then ["seconds=" ++ toString rest] else [])
    "datetime.timezone(datetime.timedelta(" ++ String.intercalate ", " parts ++ "))"

mutual

/-- A value as it is written in messages. -/
def toText : Value → String
  | null => "None"
  | bool b => if b then "True" else "False"
  | int n => toString n
  | real x => x.toText
  | text s => Text.quoted s
  | array items => "[" ++ String.intercalate ", " (itemTexts items) ++ "]"
  | table entries => "\x7b" ++ String.intercalate ", " (entryTexts entries) ++ "\x7d"
  | date d => "datetime.date(" ++ row [d.year, d.month, d.day] ++ ")"
  | time t => "datetime.time(" ++ row (clockNumbers t) ++ ")"
  | dateTime d t offset =>
    "datetime.datetime(" ++ row ([d.year, d.month, d.day] ++ clockNumbers t)
      ++ (match offset with
          | some minutes => ", tzinfo=" ++ showOffset minutes
          | none => "") ++ ")"

/-- The items of an array as they are written in messages. -/
def itemTexts : List Value → List String
  | [] => []
  | v :: more => v.toText :: itemTexts more

/-- The entries of a table as they are written in messages. -/
def entryTexts : List (String × Value) → List String
  | [] => []
  | (key, v) :: more => (Text.quoted key ++ ": " ++ v.toText) :: entryTexts more

end

/-- The most decimal digits that a whole number is read or written with. -/
def mostDigits : Nat := 4300

/-- The least whole number with more digits than that. -/
def leastLong : Nat := Nat.pow 10 mostDigits

mutual

/-- Whether a value holds a whole number with too many digits to be
written. -/
def hasLongNumber : Value → Bool
  | int n => n.natAbs ≥ leastLong
  | array items => anyLongNumber items
  | table entries => entriesLongNumber entries
  | _ => false

/-- Whether one of some values holds such a number. -/
def anyLongNumber : List Value → Bool
  | [] => false
  | v :: more => v.hasLongNumber || anyLongNumber more

/-- Whether one of some entries holds such a number. -/
def entriesLongNumber : List (String × Value) → Bool
  | [] => false
  | (_, v) :: more => v.hasLongNumber || entriesLongNumber more

end

end Value

end ImportPolicy.Document
