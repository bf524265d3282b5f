import ClassMaps.Text

/-!
# TOML documents

A reader for TOML 1.0.  Of numbers, dates and times only their kind is kept,
since settings are texts.

A document is built statement by statement.  Beside the tables stand marks on
key paths: a `closed` path was opened by a header or a dotted key of an earlier
section and is not opened again; a `frozen` path holds an inline value and is
not extended, nor is anything below it.
-/

set_option autoImplicit false

namespace ClassMaps

inductive Toml
  | string (content : Text)
  | integer
  | float
  | boolean (value : Bool)
  | dateTime
  | date
  | time
  | array (items : List Toml)
  | table (entries : List (Text × Toml))

namespace Toml

abbrev Table := List (Text × Toml)

def Table.get? (t : Table) (key : Text) : Option Toml := (t.find? (·.1 = key)).map (·.2)

def Table.put (key : Text) (value : Toml) : Table → Table
  | [] => [(key, value)]
  | entry :: rest => if entry.1 = key then (key, value) :: rest else entry :: put key value rest

def mapLast? {α : Type} (f : α → Option α) : List α → Option (List α)
  | [] => none
  | [a] => (f a).map ([·])
  | a :: rest => (mapLast? f rest).map (a :: ·)

/-- Changes the table at the end of a path, which is made where it is missing.
The path leads through the last table of an array if `arrays` is set. -/
def Table.modify (arrays : Bool) (f : Table → Option Table) : List Text → Table → Option Table
  | [], t => f t
  | key :: path, t =>
      match t.get? key with
      | none => (modify arrays f path []).map fun u => t.put key (.table u)
      | some (.table u) => (modify arrays f path u).map fun u => t.put key (.table u)
      | some (.array items) =>
          if arrays then
            (mapLast? (fun
              | .table u => (modify arrays f path u).map .table
              | _ => none) items).map fun items => t.put key (.array items)
          else none
      | some _ => none

def Table.add? (key : Text) (value : Toml) (t : Table) : Option Table :=
  match t.get? key with
  | none => some (t.put key value)
  | some _ => none

/-! ## Marks -/

inductive Mark
  | closed
  | frozen
deriving DecidableEq

abbrev Marks := List (List Text × Mark)

/-- Whether the path has the mark; being frozen reaches down. -/
def Marks.has (marks : Marks) (path : List Text) (mark : Mark) : Bool :=
  !path.isEmpty && marks.any fun entry =>
    entry.2 = mark && (entry.1 = path || (mark = .frozen && entry.1.isPrefixOf path))

def Marks.clear (marks : Marks) (path : List Text) : Marks :=
  marks.filter fun entry => !path.isPrefixOf entry.1

/-! ## Lexemes -/

def isSpace (c : CodePoint) : Bool := c.isOneOf [' ', '\t']

def isSpaceOrBreak (c : CodePoint) : Bool := c.isOneOf [' ', '\t', '\n']

def isBareKey (c : CodePoint) : Bool := c.isAsciiLetter || c.isDigit || c.isOneOf ['-', '_']

def isControl (c : CodePoint) : Bool := (c.val < 0x20 && c.val != 9) || c.val = 0x7F

def isLineControl (c : CodePoint) : Bool := isControl c && c.val != 10

def skipSpaces (s : Text) : Text := s.dropWhile isSpace

def skipComment (s : Text) : Option Text :=
  match s with
  | [] => some []
  | c :: rest =>
      if c.is '#' then
        let comment := rest.takeWhile fun d => !d.is '\n'
        if comment.any isControl then none else some (rest.drop comment.length)
      else some s

def skipLines : Nat → Text → Option Text
  | 0, _ => none
  | fuel + 1, s =>
      match s.dropWhile isSpaceOrBreak with
      | [] => some []
      | c :: rest =>
          if c.is '#' then (skipComment (c :: rest)).bind (skipLines fuel) else some (c :: rest)

def after? (c : Char) : Text → Option Text
  | [] => none
  | d :: rest => if d.is c then some rest else none

def hex? : Nat → Nat → Text → Option (Nat × Text)
  | 0, value, rest => some (value, rest)
  | _ + 1, _, [] => none
  | count + 1, value, c :: rest =>
      match c.digit? 16 with
      | none => none
      | some d => hex? count (value * 16 + d) rest

def escapedScalar? (count : Nat) (s : Text) : Option (Text × Text) :=
  match hex? count 0 s with
  | none => none
  | some (value, rest) =>
      if 0xD800 ≤ value && value < 0xE000 then none
      else (CodePoint.ofNat? value).map fun p => ([p], rest)

def simpleEscapes : List (Char × Nat) :=
  [('b', 8), ('t', 9), ('n', 10), ('f', 12), ('r', 13), ('\x22', 0x22), ('\\', 0x5C)]

/-- What an escape after its backslash stands for, and the rest.  Over several
lines, a backslash at a line end takes all blanks after it away. -/
def escape (multiline : Bool) (s : Text) : Option (Text × Text) :=
  match s with
  | [] => none
  | c :: rest =>
      if multiline && isSpaceOrBreak c then
        if c.is '\n' then some ([], rest.dropWhile isSpaceOrBreak)
        else
          match skipSpaces rest with
          | [] => some ([], [])
          | d :: rest =>
              if d.is '\n' then some ([], rest.dropWhile isSpaceOrBreak) else none
      else if c.is 'u' then escapedScalar? 4 rest
      else if c.is 'U' then escapedScalar? 8 rest
      else
        match simpleEscapes.find? fun entry => c.is entry.1 with
        | none => none
        | some (_, value) => (CodePoint.ofNat? value).map fun p => ([p], rest)

def startsTriple (quote : Char) (s : Text) : Bool :=
  (s.take 3).length = 3 && (s.take 3).all (·.is quote)

/-- The content of a basic string up to its closing quotes, and the rest after
them. -/
def basic (multiline : Bool) : Nat → Text → Option (Text × Text)
  | 0, _ => none
  | _ + 1, [] => none
  | fuel + 1, c :: rest =>
      if c.is '\x22' && (!multiline || startsTriple '\x22' (c :: rest)) then
        some ([], if multiline then rest.drop 2 else rest)
      else if c.is '\\' then
        match escape multiline rest with
        | none => none
        | some (found, rest) =>
            (basic multiline fuel rest).map fun (more, left) => (found ++ more, left)
      else if (if multiline then isLineControl c else isControl c) then none
      else (basic multiline fuel rest).map fun (more, left) => (c :: more, left)

def literal (s : Text) : Option (Text × Text) :=
  let content := s.takeWhile fun c => !c.is '\x27'
  match s.drop content.length with
  | [] => none
  | _ :: rest => if content.any isControl then none else some (content, rest)

def literalLines : Text → Option (Text × Text)
  | [] => none
  | c :: rest =>
      if startsTriple '\x27' (c :: rest) then some ([], rest.drop 2)
      else if isLineControl c then none
      else (literalLines rest).map fun (more, left) => (c :: more, left)

/-- Up to two quotes directly after closing ones belong to the content. -/
def extraQuotes (quote : Char) (content rest : Text) : Text × Text :=
  match after? quote rest with
  | none => (content, rest)
  | some rest =>
      match after? quote rest with
      | none => (content ++ sign quote, rest)
      | some rest => (content ++ sign quote ++ sign quote, rest)

/-- A line break directly after opening quotes does not count. -/
def withoutBreak (s : Text) : Text := (after? '\n' s).getD s

def string? (s : Text) : Option (Text × Text) :=
  if startsTriple '\x22' s then
    (basic true (s.length + 1) (withoutBreak (s.drop 3))).map fun (content, rest) =>
      extraQuotes '\x22' content rest
  else if startsTriple '\x27' s then
    (literalLines (withoutBreak (s.drop 3))).map fun (content, rest) =>
      extraQuotes '\x27' content rest
  else
    match s with
    | [] => none
    | c :: rest =>
        if c.is '\x22' then basic false (s.length + 1) rest
        else if c.is '\x27' then literal rest
        else none

/-! ## Keys -/

def keyPart (s : Text) : Option (Text × Text) :=
  match s with
  | [] => none
  | c :: rest =>
      if isBareKey c then some (s.takeWhile isBareKey, s.dropWhile isBareKey)
      else if c.is '\x22' then basic false (s.length + 1) rest
      else if c.is '\x27' then literal rest
      else none

def key : Nat → Text → Option (List Text × Text)
  | 0, _ => none
  | fuel + 1, s =>
      match keyPart s with
      | none => none
      | some (part, rest) =>
          let rest := skipSpaces rest
          match after? '.' rest with
          | none => some ([part], rest)
          | some rest => (key fuel (skipSpaces rest)).map fun (parts, left) => (part :: parts, left)

/-! ## Numbers, dates and times -/

def digits? : Nat → Nat → Text → Option (Nat × Text)
  | 0, value, rest => some (value, rest)
  | _ + 1, _, [] => none
  | count + 1, value, c :: rest =>
      if c.isDigit then digits? count (value * 10 + (c.val - 0x30)) rest else none

def field? (least most : Nat) (s : Text) : Option Text :=
  match digits? 2 0 s with
  | none => none
  | some (value, rest) => if least ≤ value && value ≤ most then some rest else none

def timeOfDay? (s : Text) : Option Text := do
  let rest ← field? 0 23 s
  let rest ← after? ':' rest
  let rest ← field? 0 59 rest
  let rest ← after? ':' rest
  let rest ← field? 0 59 rest
  match after? '.' rest with
  | none => some rest
  | some fraction =>
      if fraction.head?.any CodePoint.isDigit then some (fraction.dropWhile CodePoint.isDigit)
      else some rest

def skipOffset (s : Text) : Text :=
  match s with
  | [] => []
  | c :: rest =>
      if c.isOneOf ['Z', 'z'] then rest
      else if c.isOneOf ['+', '-'] then
        match (field? 0 23 rest).bind (after? ':') with
        | none => s
        | some minutes => (field? 0 59 minutes).getD s
      else s

def isLeap (year : Nat) : Bool := year % 4 = 0 && (year % 100 != 0 || year % 400 = 0)

def daysOf (year month : Nat) : Nat :=
  if month = 2 then (if isLeap year then 29 else 28)
  else if month = 4 || month = 6 || month = 9 || month = 11 then 30
  else 31

/-- Year, month and day at the start of the text, each in its bounds, and the
rest. -/
def calendarDate? (s : Text) : Option (Nat × Nat × Nat × Text) := do
  let (year, rest) ← digits? 4 0 s
  let rest ← after? '-' rest
  let (month, rest) ← digits? 2 0 rest
  let rest ← after? '-' rest
  let (day, rest) ← digits? 2 0 rest
  if 1 ≤ month && month ≤ 12 && 1 ≤ day && day ≤ 31 then some (year, month, day, rest) else none

/-- A value of one word, if one starts here.  Within, nothing says that it is
no value after all. -/
def dateOrTime? (s : Text) : Option (Option (Toml × Text)) :=
  match calendarDate? s with
  | some (year, month, day, rest) =>
      if year = 0 || daysOf year month < day then some none
      else
        let withTime := match rest with
          | c :: more => if c.isOneOf ['T', 't', ' '] then timeOfDay? more else none
          | [] => none
        match withTime with
        | some left => some (some (.dateTime, skipOffset left))
        | none => some (some (.date, rest))
  | none => (timeOfDay? s).map fun rest => some (.time, rest)

/-- How many code points at the start are digits of the base, with single
underscores between them. -/
def digitRun (base : Nat) : Text → Nat
  | [] => 0
  | c :: rest =>
      if (c.digit? base).isSome then
        match rest with
        | u :: d :: rest' =>
            if u.is '_' && (d.digit? base).isSome then digitRun base (d :: rest') + 2
            else digitRun base (u :: d :: rest') + 1
        | rest => digitRun base rest + 1
      else 0

def radixNumber? (s : Text) : Option Text :=
  match s with
  | zero :: letter :: rest =>
      let base := if letter.is 'x' then 16 else if letter.is 'o' then 8
        else if letter.is 'b' then 2 else 0
      if zero.is '0' && digitRun base rest != 0 then some (rest.drop (digitRun base rest)) else none
  | _ => none

def fraction? (s : Text) : Option Text :=
  match after? '.' s with
  | none => none
  | some rest => if digitRun 10 rest = 0 then none else some (rest.drop (digitRun 10 rest))

def exponent? (s : Text) : Option Text :=
  match s with
  | [] => none
  | e :: rest =>
      if e.isOneOf ['e', 'E'] then
        let rest := match rest with
          | c :: more => if c.isOneOf ['+', '-'] then more else rest
          | [] => []
        if digitRun 10 rest = 0 then none else some (rest.drop (digitRun 10 rest))
      else none

def unsigned (s : Text) : Text :=
  match s with
  | [] => []
  | c :: rest => if c.isOneOf ['+', '-'] then rest else s

def number? (s : Text) : Option (Toml × Text) :=
  match radixNumber? s with
  | some rest => some (.integer, rest)
  | none =>
      let s := unsigned s
      let whole := if s.head?.any (·.is '0') then 1 else digitRun 10 s
      if whole = 0 then none
      else
        let rest := s.drop whole
        let afterFraction := (fraction? rest).getD rest
        let afterExponent := (exponent? afterFraction).getD afterFraction
        if afterExponent.length = rest.length then some (.integer, rest)
        else some (.float, afterExponent)

def specialFloat? (s : Text) : Option (Toml × Text) :=
  let s := unsigned s
  if (text "inf").isPrefixOf s || (text "nan").isPrefixOf s then some (.float, s.drop 3) else none

/-! ## Values -/

def scalar? (s : Text) : Option (Toml × Text) :=
  if s.head?.any (·.isOneOf ['\x22', '\x27']) then
    (string? s).map fun (content, rest) => (.string content, rest)
  else if (text "true").isPrefixOf s then some (.boolean true, s.drop 4)
  else if (text "false").isPrefixOf s then some (.boolean false, s.drop 5)
  else
    match dateOrTime? s with
    | some found => found
    | none =>
        match number? s with
        | some found => some found
        | none => specialFloat? s

def isInline : Toml → Bool
  | .array _ => true
  | .table _ => true
  | _ => false

mutual

def value : Nat → Text → Option (Toml × Text)
  | 0, _ => none
  | fuel + 1, s =>
      match after? '[' s with
      | some rest =>
          match skipLines (rest.length + 1) rest with
          | none => none
          | some rest =>
              match after? ']' rest with
              | some left => some (.array [], left)
              | none => (arrayItems fuel rest).map fun (items, left) => (.array items, left)
      | none =>
          match after? '\x7b' s with
          | some rest =>
              let rest := skipSpaces rest
              match after? '\x7d' rest with
              | some left => some (.table [], left)
              | none =>
                  (inlineEntries fuel [] [] rest).map fun (entries, left) => (.table entries, left)
          | none => scalar? s

def arrayItems : Nat → Text → Option (List Toml × Text)
  | 0, _ => none
  | fuel + 1, s =>
      match value fuel s with
      | none => none
      | some (item, rest) =>
          match skipLines (rest.length + 1) rest with
          | none => none
          | some rest =>
              match after? ']' rest with
              | some left => some ([item], left)
              | none =>
                  match (after? ',' rest).bind fun rest => skipLines (rest.length + 1) rest with
                  | none => none
                  | some rest =>
                      match after? ']' rest with
                      | some left => some ([item], left)
                      | none =>
                          (arrayItems fuel rest).map fun (items, left) => (item :: items, left)

def inlineEntries : Nat → Marks → Table → Text → Option (Table × Text)
  | 0, _, _, _ => none
  | fuel + 1, marks, entries, s =>
      match keyValue fuel s with
      | none => none
      | some (path, item, rest) =>
          if marks.has path .frozen then none
          else
            match path.getLast? with
            | none => none
            | some last =>
                match Table.modify false (Table.add? last item) path.dropLast entries with
                | none => none
                | some entries =>
                    let rest := skipSpaces rest
                    match after? '\x7d' rest with
                    | some left => some (entries, left)
                    | none =>
                        match after? ',' rest with
                        | none => none
                        | some rest =>
                            let marks := if isInline item then (path, .frozen) :: marks else marks
                            inlineEntries fuel marks entries (skipSpaces rest)

def keyValue : Nat → Text → Option (List Text × Toml × Text)
  | 0, _ => none
  | fuel + 1, s =>
      match key (s.length + 1) s with
      | none => none
      | some (path, rest) =>
          match after? '=' rest with
          | none => none
          | some rest =>
              (value fuel (skipSpaces rest)).map fun (item, left) => (path, item, left)

end

/-! ## Documents -/

/-- A document while it is read: its tables, the marks, the paths to be closed
at the next header, and the header that entries belong under. -/
structure Reading where
  root : Table
  marks : Marks
  pending : List (List Text)
  header : List Text

/-- The paths to the tables that a dotted key goes through. -/
def containers (header path : List Text) : List (List Text) :=
  (List.range (path.length - 1)).map fun i => header ++ path.take (i + 1)

def addEntry (r : Reading) (path : List Text) (item : Toml) : Option Reading := do
  let last ← path.getLast?
  let through := containers r.header path
  let parent := r.header ++ path.dropLast
  if through.any (fun p => Marks.has r.marks p .closed) then none
  else if Marks.has r.marks parent .frozen then none
  else
    let root ← Table.modify true (Table.add? last item) parent r.root
    let marks := if isInline item then (r.header ++ path, Mark.frozen) :: r.marks else r.marks
    some { r with root := root, marks := marks, pending := r.pending ++ through }

def closePending (r : Reading) : Reading :=
  { r with marks := r.pending.map (·, Mark.closed) ++ r.marks, pending := [] }

def openTable (r : Reading) (path : List Text) : Option Reading := do
  if Marks.has r.marks path .closed || Marks.has r.marks path .frozen then none
  else
    let root ← Table.modify true some path r.root
    some { r with root := root, marks := (path, .closed) :: r.marks, header := path }

def appendTable (last : Text) (t : Table) : Option Table :=
  match t.get? last with
  | none => some (t.put last (.array [.table []]))
  | some (.array items) => some (t.put last (.array (items ++ [.table []])))
  | some _ => none

def openArray (r : Reading) (path : List Text) : Option Reading := do
  let last ← path.getLast?
  if Marks.has r.marks path .frozen then none
  else
    let root ← Table.modify true (appendTable last) path.dropLast r.root
    some { r with
      root := root, marks := (path, .closed) :: Marks.clear r.marks path, header := path }

def headerStatement (r : Reading) (s : Text) : Option (Reading × Text) := do
  let r := closePending r
  let array := s.head?.any (·.is '[')
  let inner := if array then s.drop 1 else s
  let (path, rest) ← key (inner.length + 1) (skipSpaces inner)
  let r ← if array then openArray r path else openTable r path
  let rest ← after? ']' rest
  let rest ← if array then after? ']' rest else some rest
  some (r, rest)

def statement (r : Reading) (s : Text) : Option (Reading × Text) :=
  match s with
  | [] => some (r, [])
  | c :: rest =>
      if c.is '\n' || c.is '#' then some (r, s)
      else if isBareKey c || c.isOneOf ['\x22', '\x27'] then do
        let (path, item, left) ← keyValue (s.length + 2) s
        let r ← addEntry r path item
        some (r, skipSpaces left)
      else if c.is '[' then do
        let (r, left) ← headerStatement r rest
        some (r, skipSpaces left)
      else none

def statements : Nat → Reading → Text → Option Reading
  | 0, _, _ => none
  | fuel + 1, r, s =>
      match statement r (skipSpaces s) with
      | none => none
      | some (r, rest) =>
          match skipComment rest with
          | none => none
          | some [] => some r
          | some (c :: rest) => if c.is '\n' then statements fuel r rest else none

def unixLines : Text → Text
  | [] => []
  | [c] => [c]
  | c :: d :: rest =>
      if c.is '\r' && d.is '\n' then d :: unixLines rest else c :: unixLines (d :: rest)

def parse (s : Text) : Option Table :=
  (statements (s.length + 1) ⟨[], [], [], []⟩ (unixLines s)).map (·.root)

end Toml

end ClassMaps
