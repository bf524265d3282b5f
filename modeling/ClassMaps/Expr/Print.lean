import ClassMaps.Expr

/-!
# Printing expressions

`Expr.print newline` writes an expression out again, with `newline` for each
line break that is spelled as the module's own.
-/

set_option autoImplicit false

namespace ClassMaps

def Trivia.print (newline : Text) : Trivia → Text
  | .text spelling => spelling
  | .newline => newline
  | .indent spelling => spelling

def Gap.print (newline : Text) (gap : Gap) : Text := gap.flatMap (Trivia.print newline)

def Comma.print (newline : Text) : Option Comma → Text
  | none => []
  | some comma => Gap.print newline comma.before ++ sign ',' ++ Gap.print newline comma.after

def Mark.print (newline : Text) : Mark → Text
  | .plain => []
  | .star gap => sign '*' ++ Gap.print newline gap
  | .doubleStar gap => sign '*' ++ sign '*' ++ Gap.print newline gap
  | .keyword name before after =>
      name ++ Gap.print newline before ++ sign '=' ++ Gap.print newline after

mutual

def Expr.print (newline : Text) : Expr → Text
  | .name text => text
  | .string text => text
  | .formatted parts => Part.printAll newline parts
  | .concat left gap right =>
      left.print newline ++ Gap.print newline gap ++ right.print newline
  | .call function gap opening arguments closing =>
      function.print newline ++ Gap.print newline gap ++ sign '(' ++ Gap.print newline opening ++
        Slot.printAll newline arguments ++ Gap.print newline closing ++ sign ')'
  | .subscript value gap opening indices closing =>
      value.print newline ++ Gap.print newline gap ++ sign '[' ++ Gap.print newline opening ++
        Slot.printAll newline indices ++ Gap.print newline closing ++ sign ']'
  | .dict opening elements closing =>
      sign '\x7b' ++ Gap.print newline opening ++ Element.printAll newline elements ++
        Gap.print newline closing ++ sign '\x7d'
  | .other _ parts => Part.printAll newline parts
  | .paren opening inner closing =>
      sign '(' ++ Gap.print newline opening ++ inner.print newline ++
        Gap.print newline closing ++ sign ')'

def Slot.printAll (newline : Text) : List (Slot Expr) → Text
  | [] => []
  | ⟨mark, value, comma⟩ :: rest =>
      mark.print newline ++ value.print newline ++ Comma.print newline comma ++
        Slot.printAll newline rest

def Element.printAll (newline : Text) : List (Element Expr) → Text
  | [] => []
  | .pair key before after value comma :: rest =>
      key.print newline ++ Gap.print newline before ++ sign ':' ++ Gap.print newline after ++
        value.print newline ++ Comma.print newline comma ++ Element.printAll newline rest
  | .spread gap value comma :: rest =>
      sign '*' ++ sign '*' ++ Gap.print newline gap ++ value.print newline ++
        Comma.print newline comma ++ Element.printAll newline rest

def Part.printAll (newline : Text) : List (Part Expr) → Text
  | [] => []
  | .gap trivia :: rest => Gap.print newline trivia ++ Part.printAll newline rest
  | .token text :: rest => text ++ Part.printAll newline rest
  | .expr value :: rest => value.print newline ++ Part.printAll newline rest

end

/-- One argument with its comma. -/
def Slot.print (newline : Text) (slot : Slot Expr) : Text := Slot.printAll newline [slot]

/-- One element with its comma. -/
def Element.print (newline : Text) (element : Element Expr) : Text :=
  Element.printAll newline [element]

/-! ## Outside their block -/

def Trivia.isIndent : Trivia → Bool
  | .indent _ => true
  | _ => false

/-- The gap without the indentation of the block in its lines. -/
def Gap.outdented (gap : Gap) : Gap := gap.filter fun trivia => !trivia.isIndent

def Comma.outdented : Option Comma → Option Comma
  | none => none
  | some comma => some ⟨Gap.outdented comma.before, Gap.outdented comma.after⟩

def Mark.outdented : Mark → Mark
  | .plain => .plain
  | .star gap => .star (Gap.outdented gap)
  | .doubleStar gap => .doubleStar (Gap.outdented gap)
  | .keyword name before after => .keyword name (Gap.outdented before) (Gap.outdented after)

mutual

/-- The expression without the indentation of the block around it.  Texts of more
than one line are tokens and keep theirs. -/
def Expr.outdented : Expr → Expr
  | .name text => .name text
  | .string text => .string text
  | .formatted parts => .formatted (Part.outdentedAll parts)
  | .concat left gap right => .concat left.outdented (Gap.outdented gap) right.outdented
  | .call function gap opening arguments closing =>
      .call function.outdented (Gap.outdented gap) (Gap.outdented opening)
        (Slot.outdentedAll arguments) (Gap.outdented closing)
  | .subscript value gap opening indices closing =>
      .subscript value.outdented (Gap.outdented gap) (Gap.outdented opening)
        (Slot.outdentedAll indices) (Gap.outdented closing)
  | .dict opening elements closing =>
      .dict (Gap.outdented opening) (Element.outdentedAll elements) (Gap.outdented closing)
  | .other form parts => .other form (Part.outdentedAll parts)
  | .paren opening inner closing =>
      .paren (Gap.outdented opening) inner.outdented (Gap.outdented closing)

def Slot.outdentedAll : List (Slot Expr) → List (Slot Expr)
  | [] => []
  | ⟨mark, value, comma⟩ :: rest =>
      ⟨mark.outdented, value.outdented, Comma.outdented comma⟩ :: Slot.outdentedAll rest

def Element.outdentedAll : List (Element Expr) → List (Element Expr)
  | [] => []
  | .pair key before after value comma :: rest =>
      .pair key.outdented (Gap.outdented before) (Gap.outdented after) value.outdented
        (Comma.outdented comma) :: Element.outdentedAll rest
  | .spread gap value comma :: rest =>
      .spread (Gap.outdented gap) value.outdented (Comma.outdented comma) ::
        Element.outdentedAll rest

def Part.outdentedAll : List (Part Expr) → List (Part Expr)
  | [] => []
  | .gap trivia :: rest => .gap (Gap.outdented trivia) :: Part.outdentedAll rest
  | .token text :: rest => .token text :: Part.outdentedAll rest
  | .expr value :: rest => .expr value.outdented :: Part.outdentedAll rest

end

end ClassMaps
