import HelpFile.Toml.Scalar

/-!
# Reading TOML

A document is a sequence of statements: table headers and key/value pairs. A draft holds the tables
read so far, with marks on the keys that later statements must respect: a table that has been
declared is not declared again, and what was written as an array or an inline table is closed.
-/
namespace HelpFile.Toml

abbrev Key := List Text

/-- Replaces the table behind a key by what `change` makes of it; missing tables on the way are
made. Through an array the way goes to its last table, if `throughArrays`. -/
def Table.changeAt (throughArrays : Bool) (change : Table → Option Table) :
    Key → Table → Option Table
  | [], t => change t
  | k :: key, t =>
    match t.get? k with
    | none => (changeAt throughArrays change key []).map fun sub => t.insert k (.table sub)
    | some (.table sub) =>
      (changeAt throughArrays change key sub).map fun sub => t.insert k (.table sub)
    | some (.array values) =>
      match values.getLast?, throughArrays with
      | some (.table sub), true =>
        (changeAt throughArrays change key sub).map fun sub =>
          t.insert k (.array (values.dropLast ++ [.table sub]))
      | _, _ => none
    | some _ => none

def Table.add? (key : Text) (value : Value) (t : Table) : Option Table :=
  if (t.get? key).isSome then none else some (t.insert key value)

def Table.append? (key : Text) (t : Table) : Option Table :=
  match t.get? key with
  | none => some (t.insert key (.array [.table []]))
  | some (.array values) => some (t.insert key (.array (values ++ [.table []])))
  | some _ => none

def isBareKeyChar (c : Char) : Bool := c.isAlphanum || c == '-' || c == '_'

def keyPart? (text : Text) : Option (Text × Text) :=
  match text with
  | [] => none
  | c :: rest =>
    if isBareKeyChar c then some (text.takeWhile isBareKeyChar, text.dropWhile isBareKeyChar)
    else if c = '\x22' then basicString? false false rest
    else if c = '\x27' then literalString? false rest
    else none

def keyParts? (steps : Nat) (text : Text) : Option (Key × Text) :=
  match steps with
  | 0 => none
  | steps + 1 =>
    match keyPart? (skipSpaces text) with
    | none => none
    | some (part, rest) =>
      match skipSpaces rest with
      | '.' :: more => (keyParts? steps more).map fun (key, behind) => (part :: key, behind)
      | behind => some ([part], behind)

def key? (text : Text) : Option (Key × Text) := keyParts? text.length text

def pastComment? : Text → Option Text
  | '#' :: rest =>
    let comment := rest.takeWhile (· != '\n')
    if comment.any isControl then none else some (rest.drop comment.length)
  | text => some text

def pastFiller? (steps : Nat) (text : Text) : Option Text :=
  match steps, text.dropWhile isSpaceOrLineEnd with
  | steps + 1, '#' :: rest => (pastComment? ('#' :: rest)).bind (pastFiller? steps)
  | _, rest => some rest

def filler? (text : Text) : Option Text := pastFiller? text.length text

def isContainer : Value → Bool
  | .array _ | .table _ => true
  | _ => false

def isClosed (closed : List Key) (key : Key) : Bool := closed.any (·.isPrefixOf key)

mutual

/-- A value of any kind. Each nesting takes a character, so `steps` may be the length of the
text. -/
def value? (steps : Nat) (text : Text) : Option (Value × Text) :=
  match steps, text with
  | 0, _ => none
  | steps + 1, '[' :: rest =>
    (filler? rest).bind fun inner =>
      match inner with
      | ']' :: behind => some (.array [], behind)
      | _ => (elements? steps inner).map fun (values, behind) => (.array values, behind)
  | steps + 1, '\x7b' :: rest =>
    match skipSpaces rest with
    | '\x7d' :: behind => some (.table [], behind)
    | inner => (entries? steps [] [] inner).map fun (entries, behind) => (.table entries, behind)
  | _ + 1, _ => scalar? text

def elements? (steps : Nat) (text : Text) : Option (List Value × Text) :=
  match steps with
  | 0 => none
  | steps + 1 => do
    let (value, rest) ← value? steps text
    match ← filler? rest with
    | ']' :: behind => some ([value], behind)
    | ',' :: more =>
      match ← filler? more with
      | ']' :: behind => some ([value], behind)
      | next =>
        let (values, behind) ← elements? steps next
        return (value :: values, behind)
    | _ => none

def entries? (steps : Nat) (table : Table) (closed : List Key) (text : Text) :
    Option (Table × Text) :=
  match steps with
  | 0 => none
  | steps + 1 => do
    let (key, value, rest) ← pair? steps text
    if isClosed closed key then none
    else
      let added ← table.changeAt false (Table.add? (key.getLast?.getD []) value) key.dropLast
      match skipSpaces rest with
      | '\x7d' :: behind => some (added, behind)
      | ',' :: more =>
        entries? steps added (if isContainer value then key :: closed else closed) (skipSpaces more)
      | _ => none

def pair? (steps : Nat) (text : Text) : Option (Key × Value × Text) :=
  match steps with
  | 0 => none
  | steps + 1 => do
    let (key, rest) ← key? text
    let (value, behind) ← value? steps (skipSpaces (← expect? '=' rest))
    return (key, value, behind)

end

/-- What has been read: the tables, the key of the current one, and the marks on keys. Tables opened
by dotted keys count as declared from the next header on. -/
structure Draft where
  table : Table := []
  header : Key := []
  declared : List Key := []
  pending : List Key := []
  closed : List Key := []

namespace Draft

/-- A header declares the tables that dotted keys have opened since the last one. -/
def settle (d : Draft) : Draft := { d with declared := d.declared ++ d.pending, pending := [] }

def declare? (d : Draft) (key : Key) : Option Draft :=
  if d.declared.elem key || isClosed d.closed key then none
  else
    (d.table.changeAt true some key).map fun table =>
      { d with table, header := key, declared := key :: d.declared }

/-- Another table in the array under a key. The marks below the key belonged to the table before. -/
def extend? (d : Draft) (key : Key) : Option Draft :=
  if isClosed d.closed key then none
  else
    let keep (marks : List Key) : List Key := marks.filter (!key.isPrefixOf ·)
    (d.table.changeAt true (Table.append? (key.getLast?.getD [])) key.dropLast).map fun table =>
      { d with table, header := key, declared := key :: keep d.declared, closed := keep d.closed }

def between (header key : Key) : List Key :=
  (List.range (key.length - 1)).map fun n => header ++ key.take (n + 1)

def assign? (d : Draft) (key : Key) (value : Value) : Option Draft :=
  let opened := between d.header key
  if opened.any d.declared.elem || isClosed d.closed (d.header ++ key.dropLast) then none
  else
    let full := d.header ++ key
    (d.table.changeAt true (Table.add? (key.getLast?.getD []) value) full.dropLast).map fun table =>
      { d with
        table
        pending := d.pending ++ opened
        closed := if isContainer value then full :: d.closed else d.closed }

end Draft

def statement? (d : Draft) (text : Text) : Option (Draft × Text) :=
  match text with
  | [] | '\n' :: _ | '#' :: _ => some (d, text)
  | '[' :: '[' :: rest => do
    let (key, behind) ← key? rest
    return (← d.settle.extend? key, ← Text.after? [']', ']'] behind)
  | '[' :: rest => do
    let (key, behind) ← key? rest
    return (← d.settle.declare? key, ← expect? ']' behind)
  | _ => do
    let (key, value, behind) ← pair? (text.length + 2) text
    return (← d.assign? key value, behind)

/-- Reads statements to the end of the text, each on its line. Every line takes a character, so
`steps` may be the length of the text. -/
def statements? (steps : Nat) (d : Draft) (text : Text) : Option Draft := do
  let (next, behind) ← statement? d (skipSpaces text)
  match steps, ← pastComment? (skipSpaces behind) with
  | _, [] => some next
  | steps + 1, '\n' :: rest => statements? steps next rest
  | _, _ => none

def read? (text : Text) : Option Table := (statements? text.length {} text).map (·.table)

end HelpFile.Toml
