import ClassMaps.Grammar
import ClassMaps.Expr.Target

/-!
# The grammar of Python

Expressions are assembled; statements are rows of tokens and expressions.
Every choice looks at what has been read so far, so no expression is read
twice in a nested way, and the time to read a source does not grow with the
power of its nesting.

A target is read as an expression and then admitted or not.  Parameters and
arguments are rules of one item and of what may follow it, so that an item in
the wrong place is not read.
-/

set_option autoImplicit false

namespace ClassMaps

namespace Python

/-- The rules that others refer to.  `annotated` tells the parameters of a
definition from those of a lambda. -/
inductive Rule
  | expression | disjunction | conjunction | inversion | comparison
  | bitOr | bitXor | bitAnd | shift | sum | term | factor | power | awaited | primary | atom
  | namedExpression | starNamed | starExpression | starExpressions | yieldExpression
  | formatted | field | format | clauses | targets
  | firstArguments | arguments | keywordArguments | mappedArguments
  | parameters (annotated : Bool) | starParameters (annotated : Bool)
  | afterPlain (annotated slash : Bool) | afterDefault (annotated slash : Bool)
  | afterStar (annotated : Bool)
  | pattern | closedPattern | patternItems | mappingItems | classItems | classKeywords
  | assignmentValue | simpleStatements | statement | block

abbrev Syn := Grammar Rule

open Grammar

def word (s : String) : Syn := .word (text s)

def call (rule : Rule) : Syn := .rule rule

def other (form : Form) (body : Syn) : Syn := .node (.other form) body

def identifier : Syn := .node .name (.kind .name)

/-! ## Expressions -/

def chain (operand operator : Syn) : Syn :=
  extend operand [tail (.other .operation) (oneOrMore (operator ++ operand))]

def comparisonOperator : Syn :=
  word "==" <|> word "!=" <|> word "<=" <|> word "<" <|> word ">=" <|> word ">" <|>
    (word "not" ++ word "in") <|> word "in" <|> (word "is" ++ word "not") <|> word "is"

def starred : Syn := other .starred (word "*" ++ call .bitOr)

def tupleTail (item : Syn) : Syn := word "," ++ optional (listed item)

/-- The rest of a comprehension in a bracket that ends after it. -/
def comprehensionTail (closer : String) : Tail Syn :=
  tail (.other .comprehension) (call .clauses ++ .ahead (word closer))

def assignmentExpression : Syn :=
  other .operation (identifier ++ word ":=" ++ call .expression)

/-- A starred item and a comma, or an item, and perhaps more items.  A single
item may have tails of its own. -/
def tupleOrItem (tails : List (Tail Syn)) : Syn :=
  other .tuple (starred ++ tupleTail (call .starNamed)) <|>
    extend (call .namedExpression)
      (tails ++ [tail (.other .tuple) (tupleTail (call .starNamed))])

def parenthesized : Syn :=
  .node .paren (word "(" ++
    (word ")" <|> ((call .yieldExpression <|> tupleOrItem [comprehensionTail ")"]) ++ word ")")))

def listDisplay : Syn :=
  other .list (word "[" ++
    (word "]" <|>
      ((starred <|> extend (call .namedExpression) [comprehensionTail "]"]) ++
        optional (tupleTail (call .starNamed)) ++ word "]")))

def spread : Syn := .node .spread (word "**" ++ call .bitOr)

def pairItem : Syn :=
  spread <|> .node .pair (call .expression ++ word ":" ++ call .expression)

def setRest : Syn := optional (tupleTail (call .starNamed))

def dictRest : Syn := optional (tupleTail pairItem)

def braces : Syn :=
  .node .braces (word "\x7b" ++
    (word "\x7d" <|>
      (((spread ++ dictRest) <|> (starred ++ setRest) <|>
        (assignmentExpression ++ (call .clauses <|> setRest)) <|>
        extend (call .expression)
          [tail .pair (word ":" ++ call .expression ++ (call .clauses <|> dictRest)),
           tail .keep (call .clauses), tail .keep (tupleTail (call .starNamed))]) ++
        word "\x7d")))

def strings : Syn :=
  .node .strings (oneOrMore (.node .string (.kind .string) <|> call .formatted))

def constant : Syn := .node .name (word "None" <|> word "True" <|> word "False")

def atom : Syn :=
  identifier <|> constant <|> strings <|> other .atom (.kind .number) <|> parenthesized <|>
    listDisplay <|> braces <|> other .atom (word "...")

def starArgument : Syn := .node .argument (word "*" ++ call .expression)

def mappedArgument : Syn := .node .argument (word "**" ++ call .expression)

def keywordArgument : Syn := .node .argument (identifier ++ word "=" ++ call .expression)

/-- The comma after an argument, and what may follow it. -/
def andThen (rule : Rule) : Syn := optional (word "," ++ optional (call rule))

/-- Arguments from the first on, where one without mark may come next. -/
def argumentsFrom (positional : Syn) : Syn :=
  (starArgument ++ andThen .arguments) <|> (mappedArgument ++ andThen .mappedArguments) <|>
    (keywordArgument ++ andThen .keywordArguments) <|>
    (.node .argument (positional ++ .unless (word "=")) ++ andThen .arguments)

def callTail : Tail Syn :=
  tail .call (word "(" ++ (word ")" <|> (call .firstArguments ++ word ")")))

def sliceRest : Syn :=
  word ":" ++ optional (call .expression) ++ optional (word ":" ++ optional (call .expression))

def index : Syn :=
  starArgument <|> .node .argument
    (other .slice sliceRest <|> assignmentExpression <|>
      extend (call .expression ++ .unless (word ":=")) [tail (.other .slice) sliceRest])

def subscriptTail : Tail Syn := tail .subscript (word "[" ++ listed index ++ word "]")

def attributeTail : Tail Syn := tail (.other .attribute) (word "." ++ identifier)

def clause : Syn :=
  optional (word "async") ++ word "for" ++ call .targets ++ word "in" ++ call .disjunction ++
    .many (word "if" ++ call .disjunction)

/-- One target: an expression that may be starred, still to be admitted. -/
def targetItem : Syn := other .starred (word "*" ++ call .primary) <|> call .primary

def targetRow : Syn := extend targetItem [tail (.other .tuple) (tupleTail targetItem)]

def formatPart : Syn := .kind .run <|> call .field

/-! ## Parameters -/

def annotation (annotated : Bool) (value : Rule) : Syn :=
  if annotated then optional (word ":" ++ call value) else .done

def parameter (annotated : Bool) : Syn := identifier ++ annotation annotated .expression

def default_ : Syn := word "=" ++ call .expression

/-- A parameter and what may follow it, with and without a default. -/
def plainOrDefault (annotated slash : Bool) : Syn :=
  parameter annotated ++
    ((default_ ++ call (.afterDefault annotated slash)) <|> call (.afterPlain annotated slash))

def mapParameter (annotated : Bool) : Syn :=
  word "**" ++ parameter annotated ++ optional (word ",")

/-! ## Patterns -/

def captureName : Syn :=
  .unless (word "_") ++ identifier ++ .unless (word "." <|> word "(" <|> word "=")

def starPattern : Syn := word "*" ++ (word "_" <|> captureName)

def patternItem : Syn := starPattern <|> call .pattern

/-- A pattern, or a row of patterns that has at least one comma. -/
def patternRow : Syn :=
  (starPattern ++ word "," ++ optional (call .patternItems)) <|>
    (call .pattern ++ optional (word "," ++ optional (call .patternItems)))

def signedNumber : Syn := optional (word "-") ++ .kind .number

def literalPattern : Syn :=
  (signedNumber ++ optional ((word "+" <|> word "-") ++ .kind .number)) <|> strings <|> constant

def namePattern : Syn :=
  identifier ++ .many (word "." ++ identifier) ++
    ((word "(" ++ optional (call .classItems) ++ word ")") <|> .unless (word "="))

def keywordPattern : Syn := identifier ++ word "=" ++ call .pattern

def mappingKey : Syn :=
  literalPattern <|> (identifier ++ oneOrMore (word "." ++ identifier))

/-! ## Statements -/

def newline : Syn := .kind .newline

def typeParameter : Syn :=
  (word "*" ++ identifier ++ optional (word "=" ++ call .starExpression)) <|>
    (word "**" ++ identifier ++ optional default_) <|>
    (identifier ++ optional (word ":" ++ call .expression) ++ optional default_)

def typeParameters : Syn := word "[" ++ listed typeParameter ++ word "]"

def typeAlias : Syn :=
  word "type" ++ identifier ++ optional typeParameters ++ word "=" ++ call .expression

def augmentedAssignment : Syn :=
  word "+=" <|> word "-=" <|> word "*=" <|> word "@=" <|> word "/=" <|> word "%=" <|>
    word "&=" <|> word "|=" <|> word "^=" <|> word "<<=" <|> word ">>=" <|> word "**=" <|>
    word "//="

def assignedValue : Syn := call .yieldExpression <|> call .starExpressions

def assignmentTail : Tail Syn :=
  ⟨Expr.isTarget, .keep, word "=" ++ call .assignmentValue⟩

/-- An expression, or an assignment to it. -/
def expressionStatement : Syn :=
  extend (call .starExpressions)
    [⟨Expr.isAnnotatable, .keep,
      word ":" ++ call .expression ++ optional (word "=" ++ assignedValue)⟩,
     assignmentTail,
     ⟨Expr.isSingleTarget, .keep, augmentedAssignment ++ assignedValue⟩]

def dottedName : Syn := identifier ++ .many (word "." ++ identifier)

def importedName : Syn := identifier ++ optional (word "as" ++ identifier)

def importStatement : Syn :=
  word "import" ++ separated (dottedName ++ optional (word "as" ++ identifier))

def dots : Syn := word "." <|> word "..."

def fromStatement : Syn :=
  word "from" ++ ((oneOrMore dots ++ optional dottedName) <|> dottedName) ++ word "import" ++
    ((word "(" ++ listed importedName ++ word ")") <|>
      (separated importedName ++ .unless (word ",")) <|> word "*")

def simpleStatement : Syn :=
  typeAlias <|> expressionStatement <|>
    (word "return" ++ optional (call .starExpressions)) <|>
    importStatement <|> fromStatement <|>
    (word "raise" ++
      optional (call .expression ++ optional (word "from" ++ call .expression))) <|>
    word "pass" <|>
    (word "del" ++ .only Expr.isDeletable targetRow ++ .ahead (word ";" <|> newline)) <|>
    call .yieldExpression <|>
    (word "assert" ++ call .expression ++ optional (word "," ++ call .expression)) <|>
    word "break" <|> word "continue" <|>
    (word "global" ++ separated identifier) <|> (word "nonlocal" ++ separated identifier)

def body : Syn := word ":" ++ call .block

def elseBody : Syn := word "else" ++ body

def ifStatement : Syn :=
  word "if" ++ call .namedExpression ++ body ++
    .many (word "elif" ++ call .namedExpression ++ body) ++ optional elseBody

def whileStatement : Syn := word "while" ++ call .namedExpression ++ body ++ optional elseBody

def forStatement : Syn :=
  word "for" ++ call .targets ++ word "in" ++ call .starExpressions ++ body ++ optional elseBody

def handlerName : Syn := optional (word "as" ++ identifier)

def handler : Syn :=
  word "except" ++ optional (call .expression ++ handlerName) ++ body

def groupHandler : Syn :=
  word "except" ++ word "*" ++ call .expression ++ handlerName ++ body

def tryStatement : Syn :=
  word "try" ++ body ++
    ((word "finally" ++ body) <|>
      ((oneOrMore groupHandler <|> oneOrMore handler) ++ optional elseBody ++
        optional (word "finally" ++ body)))

def withItem : Syn :=
  call .expression ++
    optional (word "as" ++ .only Expr.isTarget targetItem ++
      .ahead (word "," <|> word ")" <|> word ":"))

def withStatement : Syn :=
  word "with" ++
    ((word "(" ++ listed withItem ++ word ")" ++ word ":") <|>
      (separated withItem ++ word ":")) ++ call .block

def functionDefinition : Syn :=
  word "def" ++ identifier ++ optional typeParameters ++
    word "(" ++ optional (call (.parameters true)) ++ word ")" ++
    optional (word "->" ++ call .expression) ++ body

def classDefinition : Syn :=
  word "class" ++ identifier ++ optional typeParameters ++
    optional (word "(" ++ optional (call .arguments) ++ word ")") ++ body

def decorated : Syn :=
  .many (word "@" ++ call .namedExpression ++ newline) ++
    (classDefinition <|> (optional (word "async") ++ functionDefinition))

def caseBlock : Syn :=
  word "case" ++ patternRow ++ optional (word "if" ++ call .namedExpression) ++ body

def matchStatement : Syn :=
  word "match" ++ tupleOrItem [] ++ word ":" ++ newline ++ .kind .indent ++
    oneOrMore caseBlock ++ .kind .dedent

def compoundStatement : Syn :=
  ifStatement <|> whileStatement <|> forStatement <|> tryStatement <|> withStatement <|>
    decorated <|> (word "async" ++ (forStatement <|> withStatement)) <|> matchStatement

/-! ## The rules -/

def rules : Rule → Syn
  | .expression =>
      other .operation
        (word "lambda" ++ optional (call (.parameters false)) ++ word ":" ++ call .expression) <|>
      extend (call .disjunction)
        [tail (.other .operation)
          (word "if" ++ call .disjunction ++ word "else" ++ call .expression)]
  | .disjunction => chain (call .conjunction) (word "or")
  | .conjunction => chain (call .inversion) (word "and")
  | .inversion => other .operation (word "not" ++ call .inversion) <|> call .comparison
  | .comparison => chain (call .bitOr) comparisonOperator
  | .bitOr => chain (call .bitXor) (word "|")
  | .bitXor => chain (call .bitAnd) (word "^")
  | .bitAnd => chain (call .shift) (word "&")
  | .shift => chain (call .sum) (word "<<" <|> word ">>")
  | .sum => chain (call .term) (word "+" <|> word "-")
  | .term =>
      chain (call .factor)
        (word "*" <|> word "/" <|> word "//" <|> word "%" <|> word "@")
  | .factor =>
      other .operation ((word "+" <|> word "-" <|> word "~") ++ call .factor) <|> call .power
  | .power => extend (call .awaited) [tail (.other .operation) (word "**" ++ call .factor)]
  | .awaited => other .operation (word "await" ++ call .primary) <|> call .primary
  | .primary => .grow true (call .atom) [attributeTail, callTail, subscriptTail]
  | .atom => atom
  | .namedExpression => assignmentExpression <|> (call .expression ++ .unless (word ":="))
  | .starNamed => starred <|> call .namedExpression
  | .starExpression => starred <|> call .expression
  | .starExpressions =>
      extend (call .starExpression) [tail (.other .tuple) (tupleTail (call .starExpression))]
  | .yieldExpression =>
      other .operation (word "yield" ++
        ((word "from" ++ call .expression) <|> optional (call .starExpressions)))
  | .formatted =>
      .node .formatted (.kind .opening ++ .many formatPart ++ .kind .closing)
  | .field =>
      word "\x7b" ++ assignedValue ++ optional (word "=") ++
        optional (word "!" ++ (word "r" <|> word "s" <|> word "a")) ++
        optional (word ":" ++ call .format) ++ word "\x7d"
  | .format => .many formatPart
  | .clauses => oneOrMore clause
  | .targets => .only Expr.isTarget targetRow
  | .firstArguments =>
      argumentsFrom (extend (call .namedExpression) [comprehensionTail ")"])
  | .arguments => argumentsFrom (call .namedExpression)
  | .keywordArguments =>
      (starArgument ++ andThen .keywordArguments) <|>
        (mappedArgument ++ andThen .mappedArguments) <|>
        (keywordArgument ++ andThen .keywordArguments)
  | .mappedArguments => (mappedArgument <|> keywordArgument) ++ andThen .mappedArguments
  | .parameters annotated =>
      call (.starParameters annotated) <|> plainOrDefault annotated false
  | .starParameters annotated =>
      (word "*" ++
        ((word "," ++ parameter annotated ++ optional default_ ++ call (.afterStar annotated)) <|>
          (identifier ++ annotation annotated .starExpression ++ call (.afterStar annotated)))) <|>
      mapParameter annotated
  | .afterPlain annotated slash =>
      optional (word "," ++
        optional
          ((if slash then call (.starParameters annotated)
            else (word "/" ++ call (.afterPlain annotated true)) <|>
              call (.starParameters annotated)) <|>
            plainOrDefault annotated slash))
  | .afterDefault annotated slash =>
      optional (word "," ++
        optional
          ((if slash then call (.starParameters annotated)
            else (word "/" ++ call (.afterDefault annotated true)) <|>
              call (.starParameters annotated)) <|>
            (parameter annotated ++ default_ ++ call (.afterDefault annotated slash))))
  | .afterStar annotated =>
      optional (word "," ++
        optional
          (mapParameter annotated <|>
            (parameter annotated ++ optional default_ ++ call (.afterStar annotated))))
  | .pattern =>
      call .closedPattern ++ .many (word "|" ++ call .closedPattern) ++
        optional (word "as" ++ captureName)
  | .closedPattern =>
      literalPattern <|> word "_" <|> namePattern <|>
        (word "(" ++ optional patternRow ++ word ")") <|>
        (word "[" ++ optional (call .patternItems) ++ word "]") <|>
        (word "\x7b" ++ optional (call .mappingItems) ++ word "\x7d")
  | .patternItems => listed patternItem
  | .mappingItems =>
      (word "**" ++ captureName ++ optional (word ",")) <|>
        (mappingKey ++ word ":" ++ call .pattern ++ andThen .mappingItems)
  | .classItems =>
      (keywordPattern ++ andThen .classKeywords) <|> (call .pattern ++ andThen .classItems)
  | .classKeywords => keywordPattern ++ andThen .classKeywords
  | .assignmentValue =>
      call .yieldExpression <|> extend (call .starExpressions) [assignmentTail]
  | .simpleStatements =>
      simpleStatement ++ .many (word ";" ++ simpleStatement) ++ optional (word ";") ++ newline
  | .statement => compoundStatement <|> call .simpleStatements
  | .block =>
      (newline ++ .kind .indent ++ oneOrMore (call .statement) ++ .kind .dedent) <|>
        call .simpleStatements

/-! ## What can be read -/

def file : Syn := .many (call .statement) ++ .kind .finish

def oneStatement : Syn := call .statement ++ .kind .finish

def oneExpression : Syn := call .starExpressions ++ newline ++ .kind .finish

end Python

end ClassMaps
