import ClassMaps.Expr.Print

/-!
# Fragments

What reading a grammar gives: a row of fragments in source order.  A label
says how to assemble a row that has been read into an expression, an argument
or an element.  A row that does not fit its label becomes an `other`
expression, so that assembling never loses anything.
-/

set_option autoImplicit false

namespace ClassMaps

inductive Fragment
  | gap (trivia : Gap)
  | token (text : Text)
  | expr (value : Expr)
  | slot (slot : Slot Expr)
  | element (element : Element Expr)

namespace Comma

def parts : Option Comma → List (Part Expr)
  | none => []
  | some comma => [.gap comma.before, .token (sign ','), .gap comma.after]

end Comma

namespace Slot

def parts (slot : Slot Expr) : List (Part Expr) :=
  let mark : List (Part Expr) :=
    match slot.mark with
    | .plain => []
    | .star gap => [.token (sign '*'), .gap gap]
    | .doubleStar gap => [.token (sign '*' ++ sign '*'), .gap gap]
    | .keyword name before after =>
        [.expr (.name name), .gap before, .token (sign '='), .gap after]
  mark ++ [.expr slot.value] ++ Comma.parts slot.comma

end Slot

namespace Element

def parts : Element Expr → List (Part Expr)
  | .pair key before after value comma =>
      [.expr key, .gap before, .token (sign ':'), .gap after, .expr value] ++ Comma.parts comma
  | .spread gap value comma =>
      [.token (sign '*' ++ sign '*'), .gap gap, .expr value] ++ Comma.parts comma

def withComma : Element Expr → Comma → Element Expr
  | .pair key before after value _, comma => .pair key before after value (some comma)
  | .spread gap value _, comma => .spread gap value (some comma)

end Element

namespace Fragment

def print (newline : Text) : Fragment → Text
  | .gap trivia => Gap.print newline trivia
  | .token text => text
  | .expr value => value.print newline
  | .slot s => s.print newline
  | .element e => e.print newline

def printAll (newline : Text) (fragments : List Fragment) : Text :=
  fragments.flatMap (Fragment.print newline)

/-- The row of a fragment whose shape no longer matters. -/
def parts : Fragment → List (Part Expr)
  | .gap trivia => [.gap trivia]
  | .token text => [.token text]
  | .expr value => [.expr value]
  | .slot s => s.parts
  | .element e => e.parts

def allParts (fragments : List Fragment) : List (Part Expr) := fragments.flatMap parts

/-- An argument that has no comma yet. -/
def slot? : Fragment → Option (Slot Expr)
  | .slot ⟨mark, value, none⟩ => some ⟨mark, value, none⟩
  | _ => none

/-- An element that has no comma yet. -/
def element? : Fragment → Option (Element Expr)
  | .element (.pair key before after value none) => some (.pair key before after value none)
  | .element (.spread stars value none) => some (.spread stars value none)
  | _ => none

/-- How a row of fragments is assembled. -/
inductive Label
  | keep
  | name
  | string
  | strings
  | formatted
  | argument
  | pair
  | spread
  | call
  | subscript
  | braces
  | paren
  | other (form : Form)
deriving DecidableEq

/-- The items of a row up to the bracket that closes it, and the gap before
that bracket.  The gap after a last comma counts as the closing gap. -/
def items {ι : Type} (item? : Fragment → Option ι) (withComma : ι → Comma → ι) (closer : Text) :
    List Fragment → Option (List ι × Gap)
  | [item, .gap closing, .token t] =>
      if t = closer then (item? item).map fun i => ([i], closing) else none
  | item :: .gap before :: .token t :: .gap after :: rest =>
      if t = sign ',' then
        match item? item with
        | none => none
        | some i =>
            match rest with
            | [.token u] => if u = closer then some ([withComma i ⟨before, []⟩], after) else none
            | rest =>
                (items item? withComma closer rest).map fun (is, closing) =>
                  (withComma i ⟨before, after⟩ :: is, closing)
      else none
  | _ => none

/-- The gap after an opening bracket, the items, and the gap before the closing
bracket. -/
def bracketed {ι : Type} (item? : Fragment → Option ι) (withComma : ι → Comma → ι)
    (closer : Text) : List Fragment → Option (Gap × List ι × Gap)
  | [.gap opening, .token t] => if t = closer then some (opening, [], []) else none
  | .gap opening :: rest =>
      (items item? withComma closer rest).map fun (is, closing) => (opening, is, closing)
  | _ => none

def slots (closer : Text) : List Fragment → Option (Gap × List (Slot Expr) × Gap) :=
  bracketed slot? (fun s comma => { s with comma := some comma }) closer

def elements (closer : Text) : List Fragment → Option (Gap × List (Element Expr) × Gap) :=
  bracketed element? Element.withComma closer

/-- Neighbouring strings, joined from the right. -/
def strings? : List Fragment → Option Expr
  | [.expr e] => some e
  | .expr e :: .gap g :: rest => (strings? rest).map (.concat e g)
  | _ => none

/-- An `other` expression of the whole row. -/
def otherOf (form : Form) (row : List Fragment) : Expr := .other form (allParts row)

def argumentOf : List Fragment → Slot Expr
  | [.expr value] => .bare value
  | [.token t, .gap g, .expr value] =>
      if t = sign '*' then ⟨.star g, value, none⟩
      else if t = sign '*' ++ sign '*' then ⟨.doubleStar g, value, none⟩
      else .bare (otherOf .operation [.token t, .gap g, .expr value])
  | [.expr (.name name), .gap before, .token t, .gap after, .expr value] =>
      if t = sign '=' then ⟨.keyword name before after, value, none⟩
      else .bare (otherOf .operation
        [.expr (.name name), .gap before, .token t, .gap after, .expr value])
  | row => .bare (otherOf .operation row)

/-- A row without leading gap, assembled as its label says. -/
def assemble : Label → List Fragment → List Fragment
  | .keep, row => row
  | .name, [.token t] => [.expr (.name t)]
  | .string, [.token t] => [.expr (.string t)]
  | .strings, row => [.expr ((strings? row).getD (otherOf .operation row))]
  | .formatted, row => [.expr (.formatted (allParts row))]
  | .argument, row => [.slot (argumentOf row)]
  | .pair, .expr key :: .gap before :: .token t :: .gap after :: .expr value :: rest =>
      if t = sign ':' then .element (.pair key before after value none) :: rest
      else .expr key :: .gap before :: .token t :: .gap after :: .expr value :: rest
  | .spread, .token t :: .gap g :: .expr value :: rest =>
      if t = sign '*' ++ sign '*' then .element (.spread g value none) :: rest
      else .token t :: .gap g :: .expr value :: rest
  | .call, .expr function :: .gap g :: .token t :: rest =>
      match (if t = sign '(' then slots (sign ')') rest else none) with
      | some (opening, arguments, closing) =>
          [.expr (.call function g opening arguments closing)]
      | none => [.expr (otherOf .operation (.expr function :: .gap g :: .token t :: rest))]
  | .subscript, .expr value :: .gap g :: .token t :: rest =>
      match (if t = sign '[' then slots (sign ']') rest else none) with
      | some (opening, indices, closing) =>
          [.expr (.subscript value g opening indices closing)]
      | none => [.expr (otherOf .operation (.expr value :: .gap g :: .token t :: rest))]
  | .braces, .token t :: rest =>
      match (if t = sign '\x7b' then elements (sign '\x7d') rest else none) with
      | some (opening, found, closing) => [.expr (.dict opening found closing)]
      | none => [.expr (otherOf .set (.token t :: rest))]
  | .paren, [.token t, .gap opening, .token u] =>
      if t = sign '(' && u = sign ')' then [.expr (.paren opening (.other .tuple []) [])]
      else [.expr (otherOf .operation [.token t, .gap opening, .token u])]
  | .paren, [.token t, .gap opening, .expr inner, .gap closing, .token u] =>
      if t = sign '(' && u = sign ')' then [.expr (.paren opening inner closing)]
      else [.expr (otherOf .operation
        [.token t, .gap opening, .expr inner, .gap closing, .token u])]
  | .other form, row => [.expr (otherOf form row)]
  | _, row => [.expr (otherOf .operation row)]

/-- Assembles a row and leaves its leading gap outside. -/
def wrap (label : Label) : List Fragment → List Fragment
  | .gap trivia :: row => .gap trivia :: assemble label row
  | row => assemble label row

end Fragment

end ClassMaps
