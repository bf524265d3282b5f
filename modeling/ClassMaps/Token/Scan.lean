import ClassMaps.Token
import ClassMaps.Text.Identifier

/-!
# Scanning

Source text is cut into tokens.  The scanner looks at the start of the rest,
finds how long the next lexeme is, and takes exactly that many code points, so
that the printed tokens are the source again.

A line break is a line feed, a carriage return, or both in this order.  Inside
brackets it is a gap, and a next line that starts as the lines of its block do has
this indentation set apart.  Outside, it ends a logical line, and the blanks at the
start of the next one are measured: a tab moves to the next multiple of eight, and
a second measure with tabs of one must agree on every comparison.  Lines without a
token are gaps and are not measured.

A formatted string opens a frame.  Its fields are scanned like any source; the
text between them, and the format of a field after its colon, are literal
runs.  Quotes inside a field belong to strings of their own.
-/

set_option autoImplicit false

namespace ClassMaps

namespace Scan

/-! ## Gaps -/

def push (t : Text) : Gap → Gap
  | .text spelling :: rest => .text (t ++ spelling) :: rest
  | rest => .text t :: rest

def pushBreak (newline t : Text) (gap : Gap) : Gap :=
  if t = newline then .newline :: gap else push t gap

def pushIndent (c : CodePoint) : Gap → Gap
  | .indent spelling :: rest => .indent (c :: spelling) :: rest
  | rest => .indent [c] :: rest

def isBlank (c : CodePoint) : Bool := c.isOneOf [' ', '\t', '\x0c']

/-- How many code points of a line are the indentation of its block: all of them
or none. -/
def indentLength (indent line : Text) : Nat := if indent.isPrefixOf line then indent.length else 0

/-- The gap at the start of the text, and the rest.  Line breaks belong to it
only if `breaks` is set, and the lines after them may start with the indentation
of the block, of which `margin` code points are still to come; a backslash joins
a line to a next one that is there. -/
def gap (newline indent : Text) (breaks comment : Bool) (margin : Nat) : Text → Gap × Text
  | [] => ([], [])
  | [c] =>
      if breaks && c.isBreak then (pushBreak newline [c] [], [])
      else if 0 < margin then (pushIndent c [], [])
      else if (comment && !c.isBreak) || isBlank c || c.is '#' then (push [c] [], [])
      else ([], [c])
  | c :: d :: rest =>
      if c.is '\r' && d.is '\n' then
        if breaks then
          let (found, after) := gap newline indent breaks false (indentLength indent rest) rest
          (pushBreak newline [c, d] found, after)
        else ([], c :: d :: rest)
      else if c.isBreak then
        if breaks then
          let (found, after) :=
            gap newline indent breaks false (indentLength indent (d :: rest)) (d :: rest)
          (pushBreak newline [c] found, after)
        else ([], c :: d :: rest)
      else if 0 < margin then
        let (found, after) := gap newline indent breaks false (margin - 1) (d :: rest)
        (pushIndent c found, after)
      else if comment || isBlank c || c.is '#' then
        let (found, after) := gap newline indent breaks (comment || c.is '#') 0 (d :: rest)
        (push [c] found, after)
      else if c.is '\\' then
        match rest with
        | [] => ([], c :: d :: rest)
        | e :: rest' =>
            if d.is '\r' && e.is '\n' then
              if rest'.isEmpty then ([], c :: d :: rest)
              else
                let (found, after) := gap newline indent breaks false 0 rest'
                (push [c, d, e] found, after)
            else if d.isBreak then
              let (found, after) := gap newline indent breaks false 0 (e :: rest')
              (push [c, d] found, after)
            else ([], c :: d :: rest)
      else ([], c :: d :: rest)

def isBlankLine (s : Text) : Bool :=
  match s.dropWhile isBlank with
  | [] => true
  | c :: rest => c.is '#' || Text.breakLength (c :: rest) != 0

/-- The lines without a token at the start of the text, and the rest.  `inside`
says that the text starts within such a line. -/
def blankLines (newline : Text) (inside : Bool) : Text → Gap × Text
  | [] => ([], [])
  | [c] =>
      if inside || isBlankLine [c] then
        (if c.isBreak then pushBreak newline [c] [] else push [c] [], [])
      else ([], [c])
  | c :: d :: rest =>
      if inside || isBlankLine (c :: d :: rest) then
        if c.is '\r' && d.is '\n' then
          let (found, after) := blankLines newline false rest
          (pushBreak newline [c, d] found, after)
        else if c.isBreak then
          let (found, after) := blankLines newline false (d :: rest)
          (pushBreak newline [c] found, after)
        else
          let (found, after) := blankLines newline true (d :: rest)
          (push [c] found, after)
      else ([], c :: d :: rest)

/-! ## Indentation -/

/-- The blanks that a line starts with, and their width with tabs of eight and
with tabs of one. -/
structure Indent where
  column : Nat
  tabless : Nat
  spelling : Text
deriving DecidableEq

namespace Indent

def none : Indent := ⟨0, 0, []⟩

def step (i : Indent) (c : CodePoint) : Indent :=
  if c.is '\t' then { i with column := (i.column / 8 + 1) * 8, tabless := i.tabless + 1 }
  else if c.is '\x0c' then { i with column := 0, tabless := 0 }
  else { i with column := i.column + 1, tabless := i.tabless + 1 }

def ofLine (s : Text) : Indent :=
  let blanks := s.takeWhile isBlank
  blanks.foldl step ⟨0, 0, blanks⟩

/-- Whether the two measure the same, however they are spelled. -/
def agrees (i j : Indent) : Bool := i.column = j.column && i.tabless = j.tabless

end Indent

inductive Shift
  | same
  | deeper
  | shallower (count : Nat) (left : List Indent)

/-- Drops the levels deeper than `i`; the remaining innermost level must agree with
`i`. -/
def unwind (i : Indent) (count : Nat) : List Indent → Option (Nat × List Indent)
  | [] => if i.agrees Indent.none then some (count, []) else none
  | level :: rest =>
      if i.column < level.column then unwind i (count + 1) rest
      else if i.agrees level then some (count, level :: rest)
      else none

def shift (levels : List Indent) (i : Indent) : Option Shift :=
  let level := levels.head?.getD Indent.none
  if i.column = level.column then
    if i.tabless = level.tabless then some .same else none
  else if level.column < i.column then
    if level.tabless < i.tabless then some .deeper else none
  else (unwind i 0 levels).map fun (count, left) => .shallower count left

/-! ## Lexemes -/

/-- An open formatted string: its quote, and how many brackets and how many
formats are open in it. -/
structure Frame where
  quote : CodePoint
  triple : Bool
  raw : Bool
  brackets : Nat
  formats : Nat

namespace Frame

def inField (frame : Frame) : Bool := frame.formats < frame.brackets

def inFormat (frame : Frame) : Bool := !frame.inField && 0 < frame.formats

def opened (frame : Frame) : Frame := { frame with brackets := frame.brackets + 1 }

def closed (frame : Frame) : Frame :=
  if frame.inFormat then
    { frame with brackets := frame.brackets - 1, formats := frame.formats - 1 }
  else { frame with brackets := frame.brackets - 1 }

def awaitsFormat (frame : Frame) : Bool := frame.brackets = frame.formats + 1

def formatOpened (frame : Frame) : Frame := { frame with formats := frame.formats + 1 }

end Frame

structure State where
  levels : List Indent
  brackets : List CodePoint
  frames : List Frame
  lineStart : Bool

namespace State

def initial : State := ⟨[], [], [], true⟩

/-- The indentation of the block that the state is in. -/
def indentation (state : State) : Text := (state.levels.head?.map Indent.spelling).getD []

def literalFrame? (state : State) : Option Frame :=
  state.frames.head?.filter fun frame => !frame.inField

def mapFrame (state : State) (f : Frame → Frame) : State :=
  match state.frames with
  | [] => state
  | frame :: rest => { state with frames := f frame :: rest }

def openBracket (state : State) (c : CodePoint) : State :=
  { state.mapFrame Frame.opened with brackets := c :: state.brackets }

def closeBracket (state : State) (c : CodePoint) : Option State :=
  match state.brackets with
  | [] => none
  | b :: rest =>
      if (b.is '(' && c.is ')') || (b.is '[' && c.is ']') || (b.is '\x7b' && c.is '\x7d') then
        some { state.mapFrame Frame.closed with brackets := rest }
      else none

end State

def isQuote (c : CodePoint) : Bool := c.isOneOf ['\x22', '\x27']

def startsTriple (quote : CodePoint) (s : Text) : Bool := s.take 3 = [quote, quote, quote]

def stringRest (quote : CodePoint) (triple : Bool) : Text → Option Nat
  | [] => none
  | c :: rest =>
      if c = quote && (!triple || startsTriple quote (c :: rest)) then
        some (if triple then 3 else 1)
      else if c.is '\\' then
        match rest with
        | [] => none
        | [_] => none
        | d :: e :: rest' =>
            if d.is '\r' && e.is '\n' then (stringRest quote triple rest').map (· + 3)
            else (stringRest quote triple (e :: rest')).map (· + 2)
      else if !triple && c.isBreak then none
      else (stringRest quote triple rest).map (· + 1)

/-- The length of the literal run at the start of the text, up to the closing
quotes or a brace.  `named` says that the brace of a `\N` escape is open. -/
def literalRun (frame : Frame) (named : Bool) : Text → Option Nat
  | [] => none
  | [c] => if c = frame.quote && !frame.triple then some 0
      else if c.is '\x7b' || (c.is '\x7d' && frame.inFormat) then some 0 else none
  | c :: d :: rest =>
      if c = frame.quote && (!frame.triple || startsTriple frame.quote (c :: d :: rest)) then some 0
      else if c.is '\\' then
        if frame.raw then
          if isQuote d || d.is '\\' then (literalRun frame named rest).map (· + 2)
          else (literalRun frame named (d :: rest)).map (· + 1)
        else if d.isOneOf ['\x7b', '\x7d'] then (literalRun frame named (d :: rest)).map (· + 1)
        else match rest with
          | [] => none
          | e :: rest' =>
              if d.is 'N' && e.is '\x7b' && !frame.inFormat then
                (literalRun frame true rest').map (· + 3)
              else if d.is '\r' && e.is '\n' then (literalRun frame named rest').map (· + 3)
              else (literalRun frame named (e :: rest')).map (· + 2)
      else if c.is '\x7b' then
        if frame.inFormat then some 0
        else if d.is '\x7b' then (literalRun frame named rest).map (· + 2)
        else some 0
      else if c.is '\x7d' then
        if named then (literalRun frame false (d :: rest)).map (· + 1)
        else if frame.inFormat then some 0
        else if d.is '\x7d' then (literalRun frame named rest).map (· + 2)
        else none
      else if !frame.triple && c.isBreak then none
      else (literalRun frame named (d :: rest)).map (· + 1)

/-- How many code points at the start are digits of the base, with single
underscores between them. -/
def digitsLength (base : Nat) : Text → Nat
  | [] => 0
  | c :: rest =>
      if (c.digit? base).isSome then
        match rest with
        | u :: d :: rest' =>
            if u.is '_' && (d.digit? base).isSome then digitsLength base (d :: rest') + 2
            else digitsLength base (u :: d :: rest') + 1
        | rest => digitsLength base rest + 1
      else 0

def exponentLength : Text → Nat
  | e :: rest =>
      if e.isOneOf ['e', 'E'] then
        match rest with
        | s :: rest' =>
            if s.isOneOf ['+', '-'] then
              let n := digitsLength 10 rest'
              if n = 0 then 0 else n + 2
            else
              let n := digitsLength 10 (s :: rest')
              if n = 0 then 0 else n + 1
        | [] => 0
      else 0
  | [] => 0

def radix? (c : CodePoint) : Option Nat :=
  if c.isOneOf ['x', 'X'] then some 16
  else if c.isOneOf ['o', 'O'] then some 8
  else if c.isOneOf ['b', 'B'] then some 2
  else none

/-- The length of the digits after a radix, where an underscore may come first. -/
def radixDigits (base : Nat) : Text → Nat
  | u :: rest =>
      if u.is '_' then
        let n := digitsLength base rest
        if n = 0 then 0 else n + 1
      else digitsLength base (u :: rest)
  | [] => 0

/-- The length of a decimal number.  A whole number that starts with a zero has
no other digit. -/
def decimalLength (s : Text) : Option Nat :=
  let whole := digitsLength 10 s
  let fraction :=
    match s.drop whole with
    | c :: rest => if c.is '.' then digitsLength 10 rest + 1 else 0
    | [] => 0
  let exponent := exponentLength (s.drop (whole + fraction))
  let length := whole + fraction + exponent
  let imaginary := (s.drop length).head?.any (·.isOneOf ['j', 'J'])
  if imaginary then some (length + 1)
  else if fraction = 0 && exponent = 0 && (s.head?.any (·.is '0')) &&
      (s.take whole).any (fun c => !c.isOneOf ['0', '_']) then none
  else some length

def numberLength (s : Text) : Option Nat :=
  match s with
  | zero :: letter :: rest =>
      match (if zero.is '0' then radix? letter else none) with
      | some base =>
          let n := radixDigits base rest
          if n = 0 then decimalLength s else some (n + 2)
      | none => decimalLength s
  | _ => decimalLength s

def operators : List Text :=
  [text "**=", text "//=", text "<<=", text ">>=", text "...",
   text "!=", text "%=", text "&=", text "**", text "*=", text "+=", text "-=", text "->",
   text "//", text "/=", text "<<", text "<=", text "<>", text "==", text ">=", text ">>",
   text "@=", text "^=", text "|=", text ":=",
   text "%", text "&", text "(", text ")", text "*", text "+", text ",", text "-", text ".",
   text "/", text ":", text ";", text "<", text "=", text ">", text "@", text "[", text "]",
   text "^", text "\x7b", text "|", text "\x7d", text "~", text "!"]

def operator? (s : Text) : Option Text := operators.find? fun o => o.isPrefixOf s

def isStringPrefix (letters : Text) : Bool :=
  [text "", text "r", text "u", text "b", text "f", text "br", text "rb", text "fr",
    text "rf"].contains (letters.map CodePoint.toAsciiLower)

def stringLexeme (state : State) (letters : Text) (quote : CodePoint) (s : Text) :
    Option (Kind × Nat × State) :=
  let body := s.drop letters.length
  let triple := startsTriple quote body
  let opening := letters.length + if triple then 3 else 1
  if letters.any (·.isOneOf ['f', 'F']) then
    let raw := letters.any (·.isOneOf ['r', 'R'])
    some (.opening, opening, { state with frames := ⟨quote, triple, raw, 0, 0⟩ :: state.frames })
  else
    (stringRest quote triple (s.drop opening)).map fun n => (.string, opening + n, state)

def isNamePart (c : CodePoint) : Bool :=
  !c.isAscii || c.isAsciiLetter || c.isDigit || c.is '_'

def keywords : List Text :=
  [text "False", text "None", text "True", text "and", text "as", text "assert", text "async",
   text "await", text "break", text "class", text "continue", text "def", text "del",
   text "elif", text "else", text "except", text "finally", text "for", text "from",
   text "global", text "if", text "import", text "in", text "is", text "lambda",
   text "nonlocal", text "not", text "or", text "pass", text "raise", text "return",
   text "try", text "while", text "with", text "yield"]

def nameLexeme (state : State) (s : Text) : Option (Kind × Nat × State) :=
  let name := s.takeWhile isNamePart
  if Text.isIdentifier name then
    some (if keywords.contains name then .keyword else .name, name.length, state)
  else none

def operatorLexeme (state : State) (s : Text) : Option (Kind × Nat × State) := do
  let o ← operator? s
  let c ← o.head?
  if c.isOneOf ['(', '[', '\x7b'] then some (.operator, o.length, state.openBracket c)
  else if c.isOneOf [')', ']', '\x7d'] then
    return (.operator, o.length, ← state.closeBracket c)
  else if c.is ':' && state.frames.head?.any Frame.awaitsFormat then
    some (.operator, 1, state.mapFrame Frame.formatOpened)
  else some (.operator, o.length, state)

/-- The lexeme at the start of a text that has no gap there: its kind, its
length and the state after it. -/
def lexeme (state : State) (s : Text) : Option (Kind × Nat × State) :=
  match s with
  | [] => none
  | c :: rest =>
      if Text.breakLength s != 0 then
        some (.newline, Text.breakLength s, { state with lineStart := true })
      else if c.isDigit || (c.is '.' && rest.head?.any CodePoint.isDigit) then
        (numberLength s).map fun n => (.number, n, state)
      else if isNamePart c || isQuote c then
        let letters := Token.stringPrefix s
        match s.drop letters.length with
        | q :: _ =>
            if isQuote q && isStringPrefix letters then stringLexeme state letters q s
            else nameLexeme state s
        | [] => nameLexeme state s
      else operatorLexeme state s

/-! ## Tokens -/

/-- The literal run, or the closing quotes, or the brace that comes next in an
open formatted string. -/
def literalLexeme (state : State) (frame : Frame) (s : Text) : Option (Kind × Nat × State) := do
  let n ← literalRun frame false s
  if n != 0 then some (.run, n, state)
  else if (s.head?.any (· = frame.quote)) then
    some (.closing, if frame.triple then 3 else 1, { state with frames := state.frames.tail })
  else operatorLexeme state s

/-- How the tokens of a rest are found, in a state. -/
abbrev Next := State → Text → Option (List Token)

/-- A token of a lexeme at the start of the rest, after a gap, and the tokens
that follow. -/
def lexed (next : Next) (found : Gap) (rest : Text) (lex : Option (Kind × Nat × State)) :
    Option (List Token) :=
  match lex with
  | none => none
  | some (kind, n, state) =>
      (next state (rest.drop n)).map (⟨kind, found, rest.take n⟩ :: ·)

/-- The gap at the start of a rest that starts within a line, and what comes after
it. -/
def gapIn (newline : Text) (state : State) (s : Text) : Gap × Text :=
  gap newline state.indentation (!state.brackets.isEmpty) false 0 s

/-- The tokens of a rest that starts within a line, or at a line whose
indentation has been measured.  `before` is the gap so far. -/
def inLine (newline : Text) (next : Next) (state : State) (before : Gap) (s : Text) :
    Option (List Token) :=
  let (found, rest) := gapIn newline state s
  match rest with
  | [] =>
      if state.brackets.isEmpty then
        (next { state with lineStart := true } []).map (⟨.newline, before ++ found, []⟩ :: ·)
      else none
  | c :: after =>
      lexed next (before ++ found) (c :: after)
        (lexeme { state with lineStart := false } (c :: after))

def dedents (n : Nat) : List Token := List.replicate n ⟨.dedent, [], []⟩

/-- The tokens of a rest that starts with a line, after the gap of the lines
before it that have no token. -/
def atLine (newline : Text) (next : Next) (state : State) (found : Gap) (rest : Text) :
    Option (List Token) :=
  let indent := Indent.ofLine rest
  if (rest.dropWhile isBlank).head?.any (·.is '\\') then inLine newline next state found rest
  else
    match shift state.levels indent with
    | none => none
    | some .same => inLine newline next state found rest
    | some .deeper =>
        (next { state with levels := indent :: state.levels, lineStart := false } rest).map
          (⟨.indent, found, []⟩ :: ·)
    | some (.shallower count left) =>
        (next { state with levels := left, lineStart := false } rest).map fun tokens =>
          dedents (count - 1) ++ ⟨.dedent, found, []⟩ :: tokens

def round (newline : Text) (next : Next) (state : State) (s : Text) : Option (List Token) :=
  match state.literalFrame? with
  | some frame => lexed next [] s (literalLexeme state frame s)
  | none =>
      if !state.lineStart then inLine newline next state [] s
      else
        let (found, rest) := blankLines newline false s
        match rest with
        | [] => some (dedents state.levels.length ++ [⟨.finish, found, []⟩])
        | c :: after => atLine newline next state found (c :: after)

/-- The tokens of the rest of a source, in at most `fuel` rounds. -/
def tokensFrom (newline : Text) : Nat → Next
  | 0, _, _ => none
  | fuel + 1, state, s => round newline (tokensFrom newline fuel) state s

end Scan

/-- The tokens of a source whose own line break is `newline`, unless some part
of it is no token. -/
def Token.scan? (newline source : Text) : Option (List Token) :=
  Scan.tokensFrom newline (2 * source.length + 8) Scan.State.initial source

end ClassMaps
