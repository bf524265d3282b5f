import ClassMaps.Expr.Print

/-!
# Tokens

A token is a lexeme with the gap before it.  Line ends and changes of
indentation are tokens too; the latter, and a line end that the last line
lacks, have an empty text.  A formatted string is a row of tokens: its
opening, its literal runs and the tokens of its fields, and its closing.
-/

set_option autoImplicit false

namespace ClassMaps

inductive Kind
  | name
  | keyword
  | operator
  | number
  | string
  | opening
  | run
  | closing
  | newline
  | indent
  | dedent
  | finish
deriving DecidableEq

structure Token where
  kind : Kind
  gap : Gap
  text : Text
deriving DecidableEq

namespace Token

def print (newline : Text) (token : Token) : Text :=
  Gap.print newline token.gap ++ token.text

def printAll (newline : Text) (tokens : List Token) : Text :=
  tokens.flatMap (Token.print newline)

/-- The letters of a string literal before its first quote. -/
def stringPrefix (literal : Text) : Text := literal.takeWhile CodePoint.isAsciiLetter

/-- Whether a string literal stands for bytes. -/
def isBytesLiteral (literal : Text) : Bool := (stringPrefix literal).any (·.isOneOf ['b', 'B'])

/-- Whether the token can be the last one of a string. -/
def endsString (token : Token) : Bool := token.kind = .string || token.kind = .closing

/-- Whether the token can be the first one of a string. -/
def startsString (token : Token) : Bool := token.kind = .string || token.kind = .opening

/-- Whether the token is a literal for bytes. -/
def isBytes (token : Token) : Bool := token.kind = .string && isBytesLiteral token.text

/-- Whether a bytes literal stands directly beside a string that is not one. -/
def mixesBytes : List Token → Bool
  | first :: second :: rest =>
      (first.endsString && second.startsString && first.isBytes != second.isBytes) ||
        mixesBytes (second :: rest)
  | _ => false

end Token

end ClassMaps
