import ClassMaps.Text

/-!
# Expressions

A lossless tree of source expressions.  Only what class maps are made of has a
shape of its own: names, string literals and their concatenations, calls,
subscripts, dict displays and enclosing parentheses.  Everything else is an
`other` expression: a row of gaps, tokens and inner expressions in source
order.

Blanks, comments and line breaks are kept in gaps.  A line break spelled like
the first one of its module is kept as `Trivia.newline`, so that the same tree
can be printed with another line break, and the indentation of the block around
an expression is kept apart in each line that starts with it, so that the
expression can be printed without.
-/

set_option autoImplicit false

namespace ClassMaps

/-- One piece of what stands between two tokens: a line break spelled as the
module's own, the indentation of the block at the start of a line, or any other
blanks, comments, joined lines and line breaks. -/
inductive Trivia
  | text (spelling : Text)
  | newline
  | indent (spelling : Text)
deriving DecidableEq

abbrev Gap := List Trivia

/-- A comma with the gaps around it. -/
structure Comma where
  before : Gap
  after : Gap
deriving DecidableEq

/-- How an argument or index is marked: not at all, by one or two stars, or by
a keyword and an equals sign. -/
inductive Mark
  | plain
  | star (gap : Gap)
  | doubleStar (gap : Gap)
  | keyword (name : Text) (before after : Gap)
deriving DecidableEq

/-- An argument of a call, or an index of a subscript. -/
structure Slot (α : Type) where
  mark : Mark
  value : α
  comma : Option Comma

/-- An element of a dict display: a pair, or a spread after two stars. -/
inductive Element (α : Type)
  | pair (key : α) (before after : Gap) (value : α) (comma : Option Comma)
  | spread (gap : Gap) (value : α) (comma : Option Comma)

/-- One piece of a row whose shape does not matter. -/
inductive Part (α : Type)
  | gap (trivia : Gap)
  | token (text : Text)
  | expr (value : α)

/-- The kinds of `other` expression that are told apart when deciding what may
be assigned to; `operation` stands for all the rest. -/
inductive Form
  | atom
  | attribute
  | tuple
  | list
  | set
  | starred
  | slice
  | comprehension
  | operation
deriving DecidableEq

inductive Expr
  | name (text : Text)
  | string (text : Text)
  | formatted (parts : List (Part Expr))
  | concat (left : Expr) (gap : Gap) (right : Expr)
  | call (function : Expr) (gap opening : Gap) (arguments : List (Slot Expr)) (closing : Gap)
  | subscript (value : Expr) (gap opening : Gap) (indices : List (Slot Expr)) (closing : Gap)
  | dict (opening : Gap) (elements : List (Element Expr)) (closing : Gap)
  | other (form : Form) (parts : List (Part Expr))
  | paren (opening : Gap) (inner : Expr) (closing : Gap)

abbrev Argument := Slot Expr

abbrev Entry := Element Expr

namespace Slot

/-- An argument without star, keyword and comma. -/
def bare {α : Type} (value : α) : Slot α := ⟨.plain, value, none⟩

/-- Whether the argument has neither star nor keyword. -/
def isPositional {α : Type} (slot : Slot α) : Bool :=
  match slot.mark with
  | .plain => true
  | _ => false

def withValue {α β : Type} (slot : Slot α) (value : β) : Slot β := ⟨slot.mark, value, slot.comma⟩

end Slot

namespace Element

/-- The value of a pair, or what a spread spreads. -/
def value {α : Type} : Element α → α
  | .pair _ _ _ value _ => value
  | .spread _ value _ => value

def withValue {α : Type} : Element α → α → Element α
  | .pair key before after _ comma, value => .pair key before after value comma
  | .spread gap _ comma, value => .spread gap value comma

end Element

namespace Expr

/-- The expression without its own enclosing parentheses. -/
def stripped : Expr → Expr
  | .paren _ inner _ => inner.stripped
  | e => e

/-- The name that the expression is, parentheses aside. -/
def name? (e : Expr) : Option Text :=
  match e.stripped with
  | .name text => some text
  | _ => none

/-- The arguments of a call, parentheses aside. -/
def arguments (e : Expr) : List Argument :=
  match e.stripped with
  | .call _ _ _ arguments _ => arguments
  | _ => []

/-- The elements of a dict display, parentheses aside. -/
def elements (e : Expr) : List Entry :=
  match e.stripped with
  | .dict _ elements _ => elements
  | _ => []

/-- Whether the expression is this name, parentheses aside. -/
def isName (e : Expr) (name : Text) : Bool := e.name? = some name

end Expr

end ClassMaps
