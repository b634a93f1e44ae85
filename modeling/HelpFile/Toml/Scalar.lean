import HelpFile.Toml.Value

/-!
# TOML scalars

Strings, numbers, dates and times. Each reader takes a text and gives a value and the rest of the
text, or nothing if the text does not start with such a value.
-/
namespace HelpFile.Toml

def isSpace (c : Char) : Bool := c == ' ' || c == '\t'

def isSpaceOrLineEnd (c : Char) : Bool := isSpace c || c == '\n'

def skipSpaces (text : Text) : Text := text.dropWhile isSpace

def isControl (c : Char) : Bool := (c.toNat < 0x20 && c != '\t') || c.toNat = 0x7F

def quotes : Text := ['\x22', '\x22', '\x22']

def apostrophes : Text := ['\x27', '\x27', '\x27']

def hexValue? (c : Char) : Option Nat :=
  if c.isDigit then some (c.toNat - '0'.toNat)
  else if 'a' ≤ c && c ≤ 'f' then some (c.toNat - 'a'.toNat + 10)
  else if 'A' ≤ c && c ≤ 'F' then some (c.toNat - 'A'.toNat + 10)
  else none

def hexChar? (digits : List Char) : Option Char :=
  ((digits.mapM hexValue?).map fun ds => ds.foldl (fun n d => n * 16 + d) 0).bind fun n =>
    if n < 0xD800 || (0xDFFF < n && n < 0x110000) then some (Char.ofNat n) else none

def escape? : Char → Option Char
  | 'b' => some '\x08'
  | 't' => some '\t'
  | 'n' => some '\n'
  | 'f' => some '\x0c'
  | 'r' => some '\r'
  | '\x22' => some '\x22'
  | '\\' => some '\\'
  | _ => none

def prepend (c : Char) (r : Option (Text × Text)) : Option (Text × Text) :=
  r.map fun (text, rest) => (c :: text, rest)

/-- A string up to its closing quotes. In a long string line ends may stand, and a backslash at the
end of a line drops the white space up to the next text; `skipping` tells that this goes on. -/
def basicString? (long skipping : Bool) : Text → Option (Text × Text)
  | [] => none
  | '\\' :: 'u' :: a :: b :: c :: d :: rest =>
    (hexChar? [a, b, c, d]).bind fun x => prepend x (basicString? long false rest)
  | '\\' :: 'U' :: a :: b :: c :: d :: e :: f :: g :: h :: rest =>
    (hexChar? [a, b, c, d, e, f, g, h]).bind fun x => prepend x (basicString? long false rest)
  | '\\' :: c :: rest =>
    if long && isSpaceOrLineEnd c then
      let behind := skipSpaces (c :: rest)
      if behind.isEmpty || behind.head? = some '\n' then basicString? long true rest else none
    else (escape? c).bind fun x => prepend x (basicString? long false rest)
  | c :: rest =>
    if skipping && isSpaceOrLineEnd c then basicString? long true rest
    else if c = '\x22' then
      if !long then some ([], rest)
      else match Text.after? quotes (c :: rest) with
        | some behind => some ([], behind)
        | none => prepend c (basicString? long false rest)
    else if isControl c && !(long && c == '\n') then none
    else prepend c (basicString? long false rest)

def literalString? (long : Bool) : Text → Option (Text × Text)
  | [] => none
  | c :: rest =>
    if c = '\x27' then
      if !long then some ([], rest)
      else match Text.after? apostrophes (c :: rest) with
        | some behind => some ([], behind)
        | none => prepend c (literalString? long rest)
    else if isControl c && !(long && c == '\n') then none
    else prepend c (literalString? long rest)

def withExtraQuotes (mark : Char) (r : Text × Text) : Text × Text :=
  match r.2 with
  | a :: b :: rest =>
    if a = mark && b = mark then (r.1 ++ [mark, mark], rest)
    else if a = mark then (r.1 ++ [mark], b :: rest)
    else r
  | [a] => if a = mark then (r.1 ++ [mark], []) else r
  | [] => r

def skipFirstLineEnd : Text → Text
  | '\n' :: rest => rest
  | text => text

def string? (text : Text) : Option (Text × Text) :=
  match Text.after? quotes text, Text.after? apostrophes text, text with
  | some rest, _, _ =>
    (basicString? true false (skipFirstLineEnd rest)).map (withExtraQuotes '\x22')
  | _, some rest, _ => (literalString? true (skipFirstLineEnd rest)).map (withExtraQuotes '\x27')
  | _, _, '\x22' :: rest => basicString? false false rest
  | _, _, '\x27' :: rest => literalString? false rest
  | _, _, _ => none

def digitRun (isDigit : Char → Bool) : Text → Text × Text
  | '_' :: c :: rest =>
    if isDigit c then
      let (digits, behind) := digitRun isDigit rest
      (c :: digits, behind)
    else ([], '_' :: c :: rest)
  | c :: rest =>
    if isDigit c then
      let (digits, behind) := digitRun isDigit rest
      (c :: digits, behind)
    else ([], c :: rest)
  | [] => ([], [])

def digits? (isDigit : Char → Bool) (text : Text) : Option (Text × Text) :=
  if text.head?.any isDigit then some (digitRun isDigit text) else none

def digitsValue (base : Nat) (digits : Text) : Nat :=
  digits.foldl (fun n c => n * base + (hexValue? c).getD 0) 0

def based? (base : Nat) (isDigit : Char → Bool) (text : Text) : Option (Value × Text) :=
  (digits? isDigit text).map fun (ds, rest) => (.integer (digitsValue base ds), rest)

def wholePart? (text : Text) : Option (Text × Text) :=
  match text with
  | '0' :: rest => some (['0'], rest)
  | _ => digits? Char.isDigit text

def fraction (text : Text) : Text × Text :=
  match text with
  | '.' :: rest => (digits? Char.isDigit rest).getD ([], text)
  | _ => ([], text)

def exponent? (text : Text) : Option (Int × Text) :=
  match text with
  | c :: rest =>
    if c = 'e' || c = 'E' then
      match rest with
      | '-' :: ds => (digits? Char.isDigit ds).map fun (e, behind) => (-digitsValue 10 e, behind)
      | '+' :: ds => (digits? Char.isDigit ds).map fun (e, behind) => (digitsValue 10 e, behind)
      | ds => (digits? Char.isDigit ds).map fun (e, behind) => (digitsValue 10 e, behind)
    else none
  | [] => none

def decimal? (negative : Bool) (text : Text) : Option (Value × Text) :=
  (wholePart? text).map fun (whole, rest) =>
    let (places, behind) := fraction rest
    let exponent := exponent? behind
    if places.isEmpty && exponent.isNone then
      let n : Int := digitsValue 10 whole
      (.integer (if negative then -n else n), rest)
    else
      let scale := exponent.elim 0 Prod.fst - places.length
      (.float (.ofDecimal negative (digitsValue 10 (whole ++ places)) scale),
        exponent.elim behind Prod.snd)

def number? (text : Text) : Option (Value × Text) :=
  let prefixed :=
    match text with
    | '0' :: 'x' :: rest => based? 16 (fun c => (hexValue? c).isSome) rest
    | '0' :: 'o' :: rest => based? 8 (fun c => '0' ≤ c && c ≤ '7') rest
    | '0' :: 'b' :: rest => based? 2 (fun c => c == '0' || c == '1') rest
    | _ => none
  prefixed.or <|
    match text with
    | '-' :: rest => decimal? true rest
    | '+' :: rest => decimal? false rest
    | _ => decimal? false text

def special? (text : Text) : Option (Value × Text) :=
  let (negative, body) : Bool × Text :=
    match text with
    | '-' :: rest => (true, rest)
    | '+' :: rest => (false, rest)
    | _ => (false, text)
  match body with
  | 'i' :: 'n' :: 'f' :: rest => some (.float (.infinite negative), rest)
  | 'n' :: 'a' :: 'n' :: rest => some (.float .nan, rest)
  | _ => none

def fixed? (count : Nat) (text : Text) : Option (Nat × Text) :=
  let ds := text.take count
  if ds.length = count && ds.all Char.isDigit then some (digitsValue 10 ds, text.drop count)
  else none

def twoDigits? (low high : Nat) (text : Text) : Option (Nat × Text) :=
  (fixed? 2 text).filter fun (n, _) => low ≤ n && n ≤ high

def expect? (c : Char) : Text → Option Text
  | d :: rest => if c = d then some rest else none
  | [] => none

/-- The shape of a date; the day may still be too late for the month. -/
def dateShape? (text : Text) : Option (Date × Text) := do
  let (year, text) ← fixed? 4 text
  let (month, text) ← twoDigits? 1 12 (← expect? '-' text)
  let (day, text) ← twoDigits? 1 31 (← expect? '-' text)
  return (⟨year, month, day⟩, text)

def microseconds (text : Text) : Nat × Text :=
  match text with
  | '.' :: rest =>
    let places := rest.takeWhile Char.isDigit
    if places.isEmpty then (0, text)
    else
      (digitsValue 10 ((places ++ List.replicate 6 '0').take 6), rest.drop places.length)
  | _ => (0, text)

def time? (text : Text) : Option (Time × Text) := do
  let (hour, text) ← twoDigits? 0 23 text
  let (minute, text) ← twoDigits? 0 59 (← expect? ':' text)
  let (second, text) ← twoDigits? 0 59 (← expect? ':' text)
  let (microsecond, text) := microseconds text
  return (⟨hour, minute, second, microsecond⟩, text)

def offset (text : Text) : Option Int × Text :=
  let clock (sign : Int) (rest : Text) : Option Int × Text :=
    let read := do
      let (hour, rest) ← twoDigits? 0 23 rest
      let (minute, rest) ← twoDigits? 0 59 (← expect? ':' rest)
      return (hour * 60 + minute, rest)
    match read with
    | some (minutes, rest) => (some (sign * minutes), rest)
    | none => (none, text)
  match text with
  | 'Z' :: rest | 'z' :: rest => (some 0, rest)
  | '+' :: rest => clock 1 rest
  | '-' :: rest => clock (-1) rest
  | _ => (none, text)

/-- A date, with the time behind it if there is one. A text of that shape whose day does not exist
is an error, not a number. -/
def dateOrDateTime? (text : Text) : Option (Option Value × Text) :=
  (dateShape? text).map fun (date, rest) =>
    let timed :=
      match rest with
      | c :: more => if c = 'T' || c = 't' || c = ' ' then time? more else none
      | [] => none
    let (value, rest) : Value × Text :=
      match timed with
      | some (time, more) =>
        let (zone, more) := offset more
        (.dateTime date time zone, more)
      | none => (.date date, rest)
    (if date.isValid then some value else none, rest)

def scalar? (text : Text) : Option (Value × Text) :=
  match text with
  | '\x22' :: _ | '\x27' :: _ => (string? text).map fun (t, rest) => (.string t, rest)
  | 't' :: 'r' :: 'u' :: 'e' :: rest => some (.boolean true, rest)
  | 'f' :: 'a' :: 'l' :: 's' :: 'e' :: rest => some (.boolean false, rest)
  | _ =>
    match dateOrDateTime? text with
    | some (value, rest) => value.map (·, rest)
    | none =>
      ((time? text).map fun (t, rest) => (.time t, rest)).or <| (number? text).or (special? text)

end HelpFile.Toml
