import HelpFile.Decimal.Shortest
import HelpFile.Text.Numeral
import HelpFile.Text.Quoted

/-!
# TOML values

Tables keep their entries in the order of their keys' first appearance.
-/
namespace HelpFile.Toml

structure Date where
  year : Nat
  month : Nat
  day : Nat
  deriving DecidableEq

structure Time where
  hour : Nat
  minute : Nat
  second : Nat
  microsecond : Nat
  deriving DecidableEq

inductive Value where
  | string (text : Text)
  | integer (n : Int)
  | float (x : Binary64)
  | boolean (b : Bool)
  | date (date : Date)
  | time (time : Time)
  /-- The offset from universal time is in minutes; a local time has none. -/
  | dateTime (date : Date) (time : Time) (offset : Option Int)
  | array (values : List Value)
  | table (entries : List (Text × Value))

abbrev Table := List (Text × Value)

namespace Table

def get? (t : Table) (key : Text) : Option Value := t.lookup key

/-- A new key goes to the end; a known one keeps its place and changes its value. -/
def insert (key : Text) (value : Value) : Table → Table
  | [] => [(key, value)]
  | e :: rest => if e.1 = key then (key, value) :: rest else e :: insert key value rest

end Table

def isLeapYear (year : Nat) : Bool := year % 4 == 0 && (year % 100 != 0 || year % 400 == 0)

def daysIn (year month : Nat) : Nat :=
  if month = 2 then if isLeapYear year then 29 else 28
  else if month = 4 || month = 6 || month = 9 || month = 11 then 30 else 31

def Date.isValid (d : Date) : Bool :=
  1 ≤ d.year && 1 ≤ d.month && d.month ≤ 12 && 1 ≤ d.day && d.day ≤ daysIn d.year d.month

namespace Value

def typeName : Value → String
  | string _ => "str"
  | integer _ => "int"
  | float _ => "float"
  | boolean _ => "bool"
  | date _ => "datetime.date"
  | time _ => "datetime.time"
  | dateTime .. => "datetime.datetime"
  | array _ => "list"
  | table _ => "dict"

def commaSeparated (parts : List String) : String := ", ".intercalate parts

def numbers (ns : List Nat) : String := commaSeparated (ns.map fun n => toString n)

def clock (t : Time) : List Nat :=
  if t.microsecond != 0 then [t.hour, t.minute, t.second, t.microsecond]
  else if t.second != 0 then [t.hour, t.minute, t.second]
  else [t.hour, t.minute]

def zone (minutes : Int) : String :=
  if minutes = 0 then "datetime.timezone.utc"
  else
    let days := if minutes < 0 then "days=-1, " else ""
    let seconds := toString (minutes * 60 % 86400)
    "datetime.timezone(datetime.timedelta(" ++ days ++ "seconds=" ++ seconds ++ "))"

mutual

def shown : Value → String
  | string t => Text.quoted t
  | integer n => toString n
  | float x => String.ofList x.toText
  | boolean b => if b then "True" else "False"
  | date d => "datetime.date(" ++ numbers [d.year, d.month, d.day] ++ ")"
  | time t => "datetime.time(" ++ numbers (clock t) ++ ")"
  | dateTime d t offset =>
    "datetime.datetime(" ++ numbers ([d.year, d.month, d.day] ++ clock t) ++
      offset.elim "" (fun minutes => ", tzinfo=" ++ zone minutes) ++ ")"
  | array vs => "[" ++ commaSeparated (shownAll vs) ++ "]"
  | table es => "\x7b" ++ commaSeparated (shownEntries es) ++ "\x7d"

def shownAll : List Value → List String
  | [] => []
  | v :: rest => v.shown :: shownAll rest

def shownEntries : List (Text × Value) → List String
  | [] => []
  | (key, v) :: rest => (Text.quoted key ++ ": " ++ v.shown) :: shownEntries rest

end

end Value
end HelpFile.Toml
