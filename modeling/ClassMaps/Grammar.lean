import ClassMaps.Token
import ClassMaps.Grammar.Fragment

/-!
# Grammars

A grammar is data: what to match, in what order, and how to assemble what has
been matched.  Choice is ordered and committed, and repetition takes all it
can.  `read` is the one reader of all grammars; since every step of it only
moves tokens into fragments, nothing of a source is lost on the way.
-/

set_option autoImplicit false

namespace ClassMaps

/-- What may follow an expression that `guard` admits, and how the two are
assembled together. -/
structure Tail (α : Type) where
  guard : Expr → Bool
  label : Fragment.Label
  body : α

inductive Grammar (Rule : Type)
  | done
  | word (text : Text)
  | kind (kind : Kind)
  | seq (first second : Grammar Rule)
  | either (first second : Grammar Rule)
  | many (item : Grammar Rule)
  | ahead (item : Grammar Rule)
  | unless (item : Grammar Rule)
  | node (label : Fragment.Label) (body : Grammar Rule)
  | only (guard : Expr → Bool) (body : Grammar Rule)
  | grow (again : Bool) (first : Grammar Rule) (tails : List (Tail (Grammar Rule)))
  | rule (rule : Rule)

namespace Grammar

variable {Rule : Type}

instance : Append (Grammar Rule) := ⟨.seq⟩

instance : OrElse (Grammar Rule) := ⟨fun first second => .either first (second ())⟩

def optional (item : Grammar Rule) : Grammar Rule := .either item .done

/-- One or more. -/
def oneOrMore (item : Grammar Rule) : Grammar Rule := item ++ .many item

/-- One or more, with commas between neighbours. -/
def separated (item : Grammar Rule) : Grammar Rule := item ++ .many (.word (sign ',') ++ item)

/-- One or more, with commas between neighbours and perhaps one at the end. -/
def listed (item : Grammar Rule) : Grammar Rule :=
  separated item ++ optional (.word (sign ','))

/-- An expression, assembled with the first tail that follows it, if one does. -/
def extend (first : Grammar Rule) (tails : List (Tail (Grammar Rule))) : Grammar Rule :=
  .grow false first tails

/-- A tail of any expression. -/
def tail (label : Fragment.Label) (body : Grammar Rule) : Tail (Grammar Rule) :=
  ⟨fun _ => true, label, body⟩

/-- Whether the token is spelled as a word or operator of the grammar. -/
def isWord (token : Token) (text : Text) : Bool :=
  (token.kind = .operator || token.kind = .keyword || token.kind = .name) && token.text = text

/-- Whether every expression of the row is admitted. -/
def admits (guard : Expr → Bool) (row : List Fragment) : Bool :=
  row.all fun
    | .expr value => guard value
    | _ => true

abbrev Reading := Option (List Fragment × List Token)

mutual

/-- Reads a grammar at the start of the tokens: the assembled fragments and the
tokens left. -/
def read (rules : Rule → Grammar Rule) : Nat → Grammar Rule → List Token → Reading
  | 0, _, _ => none
  | _ + 1, .done, tokens => some ([], tokens)
  | _ + 1, .word text, tokens =>
      match tokens with
      | [] => none
      | token :: rest =>
          if isWord token text then some ([.gap token.gap, .token token.text], rest)
          else none
  | _ + 1, .kind wanted, tokens =>
      match tokens with
      | [] => none
      | token :: rest =>
          if token.kind = wanted then some ([.gap token.gap, .token token.text], rest)
          else none
  | fuel + 1, .seq first second, tokens =>
      match read rules fuel first tokens with
      | none => none
      | some (row, rest) =>
          match read rules fuel second rest with
          | none => none
          | some (more, left) => some (row ++ more, left)
  | fuel + 1, .either first second, tokens =>
      match read rules fuel first tokens with
      | none => read rules fuel second tokens
      | found => found
  | fuel + 1, .many item, tokens =>
      match read rules fuel item tokens with
      | none => some ([], tokens)
      | some (row, rest) =>
          match read rules fuel (.many item) rest with
          | none => none
          | some (more, left) => some (row ++ more, left)
  | fuel + 1, .ahead item, tokens =>
      if (read rules fuel item tokens).isSome then some ([], tokens) else none
  | fuel + 1, .unless item, tokens =>
      if (read rules fuel item tokens).isSome then none else some ([], tokens)
  | fuel + 1, .node label body, tokens =>
      (read rules fuel body tokens).map fun (row, rest) => (Fragment.wrap label row, rest)
  | fuel + 1, .only guard body, tokens =>
      (read rules fuel body tokens).filter fun found => admits guard found.1
  | fuel + 1, .grow again first tails, tokens =>
      match read rules fuel first tokens with
      | none => none
      | some (row, rest) => growFrom rules fuel again tails row rest
  | fuel + 1, .rule r, tokens => read rules fuel (rules r) tokens

/-- Assembles what has been read with the first tail that follows, once or as
often as one does. -/
def growFrom (rules : Rule → Grammar Rule) :
    Nat → Bool → List (Tail (Grammar Rule)) → List Fragment → List Token → Reading
  | 0, _, _, _, _ => none
  | fuel + 1, again, tails, row, tokens =>
      match firstTail rules fuel tails row tokens with
      | none => some (row, tokens)
      | some (grown, rest) =>
          if again then growFrom rules fuel again tails grown rest
          else some (grown, rest)

def firstTail (rules : Rule → Grammar Rule) :
    Nat → List (Tail (Grammar Rule)) → List Fragment → List Token → Reading
  | 0, _, _, _ => none
  | _ + 1, [], _, _ => none
  | fuel + 1, ⟨guard, label, body⟩ :: tails, row, tokens =>
      match (if admits guard row then read rules fuel body tokens else none) with
      | none => firstTail rules fuel tails row tokens
      | some (more, rest) => some (Fragment.wrap label (row ++ more), rest)

end

/-- Reads a grammar at the start of the tokens, with fuel for the deepest
nesting that so many tokens can have. -/
def read? (rules : Rule → Grammar Rule) (start : Grammar Rule) (tokens : List Token) : Reading :=
  read rules (128 * (tokens.length + 2)) start tokens

end Grammar

end ClassMaps
