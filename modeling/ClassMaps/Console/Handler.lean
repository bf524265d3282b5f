import ClassMaps.Console.Style
import ClassMaps.Grammar
import ClassMaps.Literal
import ClassMaps.Token.Scan

/-!
# Handlers in tags

A tag whose name starts with `@` may be given a handler: words with points between
them and arguments in parentheses, or arguments alone.  The arguments must be a
literal: a number, a string, a constant, or a tuple, list, set or dict of literals.
Beyond ASCII, a word is taken to have the code points of identifiers.
-/

set_option autoImplicit false

namespace ClassMaps

namespace Handler

/-! ## Literals -/

/-- The rules of literals.  `fixed` is for those that can be in a set or a key of a
dict: no list, set or dict can. -/
inductive Rule
  | number
  | signed
  | value (fixed : Bool)

abbrev Syn := Grammar Rule

open Grammar

def word (s : String) : Syn := .word (text s)

def call (rule : Rule) : Syn := .rule rule

def inParentheses (rule : Rule) : Syn := word "(" ++ call rule ++ word ")"

/-- Whether the expression is a number with a `j` at its end. -/
def isImaginary : Expr → Bool
  | .other _ [.token number] => number.getLast?.any (·.isOneOf ['j', 'J'])
  | _ => false

/-- A real number and an imaginary one. -/
def complex : Syn :=
  .only (fun e => !isImaginary e) (call .signed) ++ (word "+" <|> word "-") ++
    .only isImaginary (call .number)

def constant : Syn := word "None" <|> word "True" <|> word "False" <|> word "..."

/-- A tuple, or one value in parentheses. -/
def tuple (fixed : Bool) : Syn :=
  word "(" ++
    (word ")" <|>
      (call (.value fixed) ++
        optional (word "," ++ optional (listed (call (.value fixed)))) ++ word ")"))

def list : Syn := word "[" ++ (word "]" <|> (listed (call (.value false)) ++ word "]"))

def set : Syn :=
  (word "set" ++ word "(" ++ word ")") <|>
    (word "\x7b" ++ listed (call (.value true)) ++ word "\x7d")

def dict : Syn :=
  word "\x7b" ++
    (word "\x7d" <|>
      (listed (call (.value true) ++ word ":" ++ call (.value false)) ++ word "\x7d"))

def rules : Rule → Syn
  | .number => .node (.other .atom) (.kind .number) <|> inParentheses .number
  | .signed =>
      (optional (word "+" <|> word "-") ++ call .number) <|> inParentheses .signed
  | .value true =>
      complex <|> call .signed <|> oneOrMore (.kind .string) <|> constant <|> tuple true
  | .value false =>
      complex <|> call .signed <|> oneOrMore (.kind .string) <|> constant <|> tuple false <|>
        list <|> dict <|> set

/-- A literal, or a tuple without parentheses, that is the whole of a source. -/
def whole : Syn :=
  call (.value false) ++ optional (word "," ++ optional (listed (call (.value false)))) ++
    .kind .newline ++ .kind .finish

/-- Whether the source is a literal that denotes something. -/
def isLiteral (source : Text) : Bool :=
  !Text.hasSurrogate source &&
    match Token.scan? (sign '\n') source with
    | none => false
    | some tokens =>
        (Grammar.read? rules whole tokens).any (·.2.isEmpty) && !Token.mixesBytes tokens &&
          tokens.all fun token =>
            token.kind != .string || (Literal.evaluate token.text).toOption.isSome

/-! ## Handlers -/

/-- Whether the code point can stand in the name of a handler. -/
def isNamePart (c : CodePoint) : Bool := c.is '.' || c.is '_' || c.continuesIdentifier

/-- The arguments of a handler: what stands in the parentheses after its name, or
none if there are no parentheses.  What has no such shape is all argument. -/
def arguments (given : Text) : Text :=
  let rest := given.dropWhile isNamePart
  if rest.isEmpty then text "()"
  else if rest.head?.any (·.is '(') && rest.getLast?.any (·.is ')') &&
      rest.all (fun c => !c.is '\n') then rest
  else given

/-- Whether a handler can be read. -/
def isRead (given : Text) : Bool := isLiteral (arguments (Style.trimmed given))

end Handler

end ClassMaps
