import ClassMaps.Proofs.Check
import ClassMaps.Proofs.Resolution

/-!
# Trees without their format

`Expr.erased` is what is left of a tree once its format is erased: gaps, the
parentheses that enclose expressions, and the commas of arguments and elements.
Literals keep their spelling.  Of the rows whose shape does not matter, some
tokens are format as well, and an `Erasure` says which.

No decision about a call or an entry looks at the format: each finds the same in
a tree and in what is left of it.  So erasing commutes with resolving.
-/

set_option autoImplicit false

namespace ClassMaps

/-! ## Rows -/

/-- What a row of parts is the content of. -/
inductive Row
  | module
  | formatted
  | other (form : Form)

namespace Part

def map {α β : Type} (f : α → β) : Part α → Part β
  | .gap trivia => .gap trivia
  | .token text => .token text
  | .expr value => .expr (f value)

end Part

/-- What is left of rows.  It does not depend on what the expressions of a row
are, and they are all left, in their order. -/
structure Erasure where
  row {α : Type} : Row → List (Part α) → List (Part α)
  row_map {α β : Type} (f : α → β) (kind : Row) (parts : List (Part α)) :
    row kind (parts.map (Part.map f)) = (row kind parts).map (Part.map f)
  exprs_row {α : Type} (kind : Row) (parts : List (Part α)) :
    Part.exprs (row kind parts) = Part.exprs parts

namespace Erasure

/-- What follows the items of a row in a statement or an expression. -/
def closers : List Text := [sign ')', sign ']', sign '\x7d', sign ':', text "if"]

/-- Whether no item follows. -/
def isOver {α : Type} : List (Part α) → Bool
  | [] => true
  | .gap _ :: rest => isOver rest
  | .token text :: _ => closers.contains text
  | .expr _ :: _ => false

def isLineEnd (text : Text) : Bool := text.all fun c => c.is '\n' || c.is '\r'

/-- A row without gaps and trailing commas, with all line ends alike. -/
def tidy {α : Type} : List (Part α) → List (Part α)
  | [] => []
  | .gap _ :: rest => tidy rest
  | .token text :: rest =>
      if text = sign ',' && isOver rest then tidy rest
      else .token (if isLineEnd text then [] else text) :: tidy rest
  | .expr value :: rest => .expr value :: tidy rest

/-- A formatted string without the gaps in its fields. -/
def withoutGaps {α : Type} : List (Part α) → List (Part α)
  | [] => []
  | .gap _ :: rest => withoutGaps rest
  | .token text :: rest => .token text :: withoutGaps rest
  | .expr value :: rest => .expr value :: withoutGaps rest

theorem isOver_map {α β : Type} (f : α → β) (parts : List (Part α)) :
    isOver (parts.map (Part.map f)) = isOver parts := by
  induction parts with
  | nil => rfl
  | cons part rest ih => cases part <;> simp [Part.map, isOver, ih]

theorem tidy_map {α β : Type} (f : α → β) (parts : List (Part α)) :
    tidy (parts.map (Part.map f)) = (tidy parts).map (Part.map f) := by
  induction parts with
  | nil => rfl
  | cons part rest ih =>
      cases part with
      | gap trivia => exact ih
      | token text =>
          simp only [List.map_cons, Part.map, tidy, isOver_map, ih]
          split <;> rfl
      | expr value => simp [Part.map, tidy, ih]

theorem exprs_tidy {α : Type} (parts : List (Part α)) :
    Part.exprs (tidy parts) = Part.exprs parts := by
  induction parts with
  | nil => rfl
  | cons part rest ih =>
      cases part with
      | gap trivia => exact ih
      | token text =>
          simp only [tidy]
          split <;> exact ih
      | expr value => simp [Part.exprs, tidy, ih]

theorem withoutGaps_map {α β : Type} (f : α → β) (parts : List (Part α)) :
    withoutGaps (parts.map (Part.map f)) = (withoutGaps parts).map (Part.map f) := by
  induction parts with
  | nil => rfl
  | cons part rest ih => cases part <;> simp [Part.map, withoutGaps, ih]

theorem exprs_withoutGaps {α : Type} (parts : List (Part α)) :
    Part.exprs (withoutGaps parts) = Part.exprs parts := by
  induction parts with
  | nil => rfl
  | cons part rest ih => cases part <;> simp [Part.exprs, withoutGaps, ih]

/-- The format of rows is their gaps, the spelling of line ends, and trailing
commas. -/
def layout : Erasure where
  row
    | .formatted, parts => withoutGaps parts
    | _, parts => tidy parts
  row_map f kind parts := by
    cases kind with
    | formatted => exact withoutGaps_map f parts
    | module | other form => exact tidy_map f parts
  exprs_row kind parts := by
    cases kind with
    | formatted => exact exprs_withoutGaps parts
    | module | other form => exact exprs_tidy parts

end Erasure

/-! ## Trees -/

def Mark.erased : Mark → Mark
  | .plain => .plain
  | .star _ => .star []
  | .doubleStar _ => .doubleStar []
  | .keyword name _ _ => .keyword name [] []

mutual

def Expr.erased (erasure : Erasure) : Expr → Expr
  | .name text => .name text
  | .string text => .string text
  | .formatted parts => .formatted (erasure.row .formatted (Part.erasedAll erasure parts))
  | .concat left _ right => .concat (left.erased erasure) [] (right.erased erasure)
  | .call function _ _ arguments _ =>
      .call (function.erased erasure) [] [] (Slot.erasedAll erasure arguments) []
  | .subscript value _ _ indices _ =>
      .subscript (value.erased erasure) [] [] (Slot.erasedAll erasure indices) []
  | .dict _ elements _ => .dict [] (Element.erasedAll erasure elements) []
  | .other form parts => .other form (erasure.row (.other form) (Part.erasedAll erasure parts))
  | .paren _ inner _ => inner.erased erasure

/-- Between two items there is always a comma, so none is left. -/
def Slot.erasedAll (erasure : Erasure) : List (Slot Expr) → List (Slot Expr)
  | [] => []
  | ⟨mark, value, _⟩ :: rest =>
      ⟨mark.erased, value.erased erasure, none⟩ :: Slot.erasedAll erasure rest

def Element.erasedAll (erasure : Erasure) : List (Element Expr) → List (Element Expr)
  | [] => []
  | .pair key _ _ value _ :: rest =>
      .pair (key.erased erasure) [] [] (value.erased erasure) none ::
        Element.erasedAll erasure rest
  | .spread _ value _ :: rest =>
      .spread [] (value.erased erasure) none :: Element.erasedAll erasure rest

/-- The parts of a row, of which only the expressions are erased inside. -/
def Part.erasedAll (erasure : Erasure) : List (Part Expr) → List (Part Expr)
  | [] => []
  | .gap trivia :: rest => .gap trivia :: Part.erasedAll erasure rest
  | .token text :: rest => .token text :: Part.erasedAll erasure rest
  | .expr value :: rest => .expr (value.erased erasure) :: Part.erasedAll erasure rest

end

-- What is left of a call on several lines, in parentheses and with trailing commas.
example (t : Text) :
    (Expr.paren [.newline] (.call (.name t) [] [.newline]
        [⟨.star [.newline], .dict [] [.spread [.newline] (.name t) (some ⟨[], []⟩)] [.newline],
          some ⟨[], [.newline]⟩⟩] []) [.newline]).erased .layout =
      .call (.name t) [] [] [⟨.star [], .dict [] [.spread [] (.name t) none] [], none⟩] [] := by
  cbv

def Slot.erased (erasure : Erasure) (slot : Argument) : Argument :=
  ⟨slot.mark.erased, slot.value.erased erasure, none⟩

def Element.erased (erasure : Erasure) : Entry → Entry
  | .pair key _ _ value _ => .pair (key.erased erasure) [] [] (value.erased erasure) none
  | .spread _ value _ => .spread [] (value.erased erasure) none

/-- A module without its format; its line break is part of that. -/
def Module.erased (erasure : Erasure) (m : Module) : List (Part Expr) :=
  erasure.row .module (Part.erasedAll erasure m.parts)

section Shape
variable (erasure : Erasure)

theorem Slot.erasedAll_eq_map (slots : List Argument) :
    Slot.erasedAll erasure slots = slots.map (Slot.erased erasure) := by
  induction slots with
  | nil => rfl
  | cons slot rest ih => simp [Slot.erasedAll, Slot.erased, ih]

theorem Element.erasedAll_eq_map (elements : List Entry) :
    Element.erasedAll erasure elements = elements.map (Element.erased erasure) := by
  induction elements with
  | nil => rfl
  | cons element rest ih => cases element <;> simp [Element.erasedAll, Element.erased, ih]

theorem Slot.isPositional_erased (slot : Argument) :
    (slot.erased erasure).isPositional = slot.isPositional := by
  obtain ⟨mark, value, comma⟩ := slot
  cases mark <;> rfl

namespace Expr

theorem stripped_ne_paren (e : Expr) (opening : Gap) (inner : Expr) (closing : Gap) :
    e.stripped ≠ .paren opening inner closing := by
  fun_induction stripped e with
  | case1 _ _ _ ih => exact ih
  | case2 e notParen => exact notParen opening inner closing

theorem stripped_erased (e : Expr) : (e.erased erasure).stripped = e.stripped.erased erasure := by
  fun_induction stripped e with
  | case1 opening inner closing ih => simpa only [erased] using ih
  | case2 e notParen =>
      cases e with
      | paren opening inner closing => exact absurd rfl (notParen opening inner closing)
      | _ => simp only [erased, stripped]

theorem erased_stripped (e : Expr) :
    e.stripped.erased erasure = e.erased erasure := by
  fun_induction stripped e with
  | case1 opening inner closing ih => rw [ih, erased]
  | case2 => rfl

theorem erased_of_isName (e : Expr) (name : Text)
    (named : e.isName name = true) : e.erased erasure = .name name := by
  rw [← erased_stripped]
  unfold isName name? at named
  cases shape : e.stripped with
  | name found =>
      simp only [shape, Option.some.injEq, decide_eq_true_eq] at named
      rw [named, erased]
  | _ => simp [shape] at named

theorem name?_erased (e : Expr) : (e.erased erasure).name? = e.name? := by
  unfold name?
  rw [stripped_erased]
  cases shape : e.stripped with
  | paren opening inner closing => exact absurd shape (e.stripped_ne_paren opening inner closing)
  | _ => simp only [erased]

theorem isName_erased (e : Expr) (name : Text) :
    (e.erased erasure).isName name = e.isName name := by
  simp [isName, name?_erased]

theorem isFormatted_erased (e : Expr) : (e.erased erasure).isFormatted = e.isFormatted := by
  unfold isFormatted
  rw [stripped_erased]
  cases shape : e.stripped with
  | paren opening inner closing => exact absurd shape (e.stripped_ne_paren opening inner closing)
  | _ => simp only [erased]

theorem denoted_erased (e : Expr) : (e.erased erasure).denoted = e.denoted := by
  fun_induction denoted e with
  | case1 literal => simp only [erased, denoted]
  | case2 left gap right formatted =>
      simp only [erased, denoted, isFormatted_erased, formatted, if_true]
  | case3 left gap right plain leftSame rightSame =>
      simp only [erased, denoted, isFormatted_erased, plain, leftSame, rightSame]
      rfl
  | case4 opening inner closing ih => simp only [erased, ih]
  | case5 e notString notConcat notParen =>
      cases e with
      | string literal => exact absurd rfl (notString literal)
      | concat left gap right => exact absurd rfl (notConcat left gap right)
      | paren opening inner closing => exact absurd rfl (notParen opening inner closing)
      | _ => simp only [erased, denoted]

theorem isDict_erased (e : Expr) : (e.erased erasure).isDict = e.isDict := by
  unfold isDict
  rw [stripped_erased]
  cases shape : e.stripped with
  | paren opening inner closing => exact absurd shape (e.stripped_ne_paren opening inner closing)
  | _ => simp only [erased]

theorem elements_erased (e : Expr) :
    (e.erased erasure).elements = e.elements.map (Element.erased erasure) := by
  unfold elements
  rw [stripped_erased]
  cases shape : e.stripped with
  | paren opening inner closing => exact absurd shape (e.stripped_ne_paren opening inner closing)
  | _ => simp [erased, Element.erasedAll_eq_map]

theorem stringValue_erased (e : Expr) : (e.erased erasure).stringValue = e.stringValue := by
  simp only [stringValue, denoted_erased]

theorem text?_erased (e : Expr) : (e.erased erasure).text? = e.text? := by
  simp only [text?, stringValue_erased]

end Expr

namespace Lookup

theorem soleLiteral?_erased (slots : List Argument) :
    soleLiteral? (Slot.erasedAll erasure slots) = soleLiteral? slots := by
  match slots with
  | [] => rfl
  | [slot] =>
      simp only [Slot.erasedAll, soleLiteral?, Expr.stripped_erased]
      cases shape : slot.value.stripped with
      | paren opening inner closing =>
          exact absurd shape (slot.value.stripped_ne_paren opening inner closing)
      | _ => simp only [Expr.erased]
  | _ :: _ :: _ => simp only [Slot.erasedAll, soleLiteral?]

theorem pathLiteral?_erased (e : Expr) (loader : Text) :
    pathLiteral? (e.erased erasure) loader = pathLiteral? e loader := by
  unfold pathLiteral?
  rw [Expr.stripped_erased]
  cases shape : e.stripped with
  | paren opening inner closing => exact absurd shape (e.stripped_ne_paren opening inner closing)
  | subscript value gap opening indices closing =>
      simp only [Expr.erased, Expr.stripped_erased]
      cases inside : value.stripped with
      | paren opening' inner closing' =>
          exact absurd inside (value.stripped_ne_paren opening' inner closing')
      | _ => simp only [Expr.erased, Expr.isName_erased, soleLiteral?_erased]
  | _ => simp only [Expr.erased]

theorem recognizes_erased (e : Expr) (loader : Text) (wanted : Option Text) :
    recognizes (e.erased erasure) loader wanted = recognizes e loader wanted := by
  simp only [recognizes, pathLiteral?_erased]

theorem erased_expr (loader path className : Text) :
    (expr (.name loader) path className).erased erasure = expr (.name loader) path className := by
  simp [expr, Expr.erased, Slot.erasedAll, Slot.bare, Mark.erased]

end Lookup

/-! ## Calls -/

namespace Call

def Verdict.erased : Verdict → Verdict
  | .classMap path _ elements => .classMap path [] (Element.erasedAll erasure elements)
  | found => found

theorem declares_erased (tagger : Text) (function : Expr) (arguments : List Argument) :
    declares tagger (function.erased erasure) (Slot.erasedAll erasure arguments) =
      declares tagger function arguments := by
  cases arguments with
  | nil => rfl
  | cons first rest =>
      have positional := first.isPositional_erased erasure
      simp only [Slot.erased] at positional
      simp only [Slot.erasedAll, declares, Expr.isName_erased, positional]

theorem unpack_erased (arguments : List Argument) :
    unpack (Slot.erasedAll erasure arguments) =
      (unpack arguments).map (Verdict.erased erasure) := by
  rw [Slot.erasedAll_eq_map]
  match arguments with
  | [] | [_] | [_, _] => rfl
  | _ :: _ :: _ :: _ :: _ => simp [unpack, Except.map, Verdict.erased]
  | [first, second, third] =>
      simp only [List.map_cons, List.map_nil, unpack, Slot.isPositional_erased]
      split
      · simp only [Slot.erased, Expr.stringValue_erased, Expr.stripped_erased]
        match second.value.stringValue with
        | .error fault => rfl
        | .ok none => rfl
        | .ok (some path) =>
            cases shape : third.value.stripped with
            | paren opening inner closing =>
                exact absurd shape (third.value.stripped_ne_paren opening inner closing)
            | _ => simp only [Expr.erased, Except.map, Verdict.erased]
      · rfl

theorem verdict_erased (tagger : Text) (function : Expr) (arguments : List Argument) :
    verdict tagger (function.erased erasure) (Slot.erasedAll erasure arguments) =
      (verdict tagger function arguments).map (Verdict.erased erasure) := by
  simp only [verdict, declares_erased, unpack_erased]
  split <;> rfl

theorem tests_erased (arguments : List Argument) :
    tests (Slot.erasedAll erasure arguments) = tests arguments := by
  have positional : Slot.isPositional ∘ Slot.erased erasure = Slot.isPositional :=
    funext fun slot => slot.isPositional_erased erasure
  have any : ∀ (i : Nat) (test : Expr → Bool), (∀ e, test (Expr.erased erasure e) = test e) →
      ((arguments.map (Slot.erased erasure))[i]?.any fun slot => test slot.value) =
        arguments[i]?.any fun slot => test slot.value := by
    intro i test kept
    rw [List.getElem?_map]
    cases arguments[i]? <;> simp [Slot.erased, kept]
  simp only [tests, Slot.erasedAll_eq_map, List.length_map, List.all_map, positional,
    any 1 (fun e => e.text?.isSome) fun e => by rw [e.text?_erased],
    any 2 Expr.isDict fun e => e.isDict_erased erasure]

theorem malformation?_erased (arguments : List Argument) :
    malformation? (Slot.erasedAll erasure arguments) = malformation? arguments := by
  simp only [malformation?, tests_erased]

theorem classMap?_erased (tagger : Text) (function : Expr) (arguments : List Argument) :
    classMap? tagger (function.erased erasure) (Slot.erasedAll erasure arguments) =
      (classMap? tagger function arguments).map fun found =>
        (found.1, found.2.map (Element.erased erasure)) := by
  unfold classMap?
  rw [declares_erased, malformation?_erased]
  split
  · match arguments with
    | [] | [_] | [_, _] | _ :: _ :: _ :: _ :: _ => simp only [Slot.erasedAll, Option.map_none]
    | [first, second, third] =>
        simp only [Slot.erasedAll, Expr.text?_erased, Expr.elements_erased]
        cases second.value.text? <;> rfl
  · rfl

theorem path?_erased (tagger : Text) (function : Expr) (arguments : List Argument) :
    path? tagger (function.erased erasure) (Slot.erasedAll erasure arguments) =
      path? tagger function arguments := by
  unfold path?
  rw [classMap?_erased]
  cases classMap? tagger function arguments <;> rfl

end Call

/-! ## Entries -/

namespace Entry

theorem className?_erased (entry : Entry) :
    className? (Element.erased erasure entry) = className? entry := by
  cases entry <;> simp [Element.erased, className?, Expr.name?_erased, Expr.text?_erased]

theorem isLookup_erased (path loader : Text) (entry : Entry) :
    isLookup path loader (Element.erased erasure entry) = isLookup path loader entry := by
  cases entry <;> simp only [Element.erased, isLookup, Lookup.recognizes_erased]

theorem replacement?_erased (path loader : Text) (entry : Entry) :
    replacement? path loader (Element.erased erasure entry) = replacement? path loader entry := by
  simp only [replacement?, className?_erased]

theorem erased_of_replacement? (path loader : Text) (entry : Entry) (lookup : Expr)
    (given : replacement? path loader entry = some lookup) : lookup.erased erasure = lookup := by
  obtain ⟨found, _, rfl⟩ := Option.map_eq_some_iff.mp given
  exact Lookup.erased_expr erasure loader path found.2

theorem fault?_erased (path loader : Text) (entry : Entry) :
    fault? path loader (Element.erased erasure entry) = fault? path loader entry := by
  cases entry with
  | spread gap value comma => rfl
  | pair key before after value comma =>
      exact fault?_pair_congr path loader _ _ _ _ _ _ _ _ _ _ (key.name?_erased erasure)
        (Lookup.recognizes_erased erasure value loader (some path))
        (value.stringValue_erased erasure)

end Entry

theorem Call.fault?_erased (settings : Settings) (function : Expr) (arguments : List Argument) :
    Call.fault? settings (function.erased erasure) (Slot.erasedAll erasure arguments) =
      Call.fault? settings function arguments := by
  unfold Call.fault?
  rw [Call.verdict_erased]
  match Call.verdict settings.tagger function arguments with
  | .error fault => rfl
  | .ok .plain | .ok (.malformed reason) => rfl
  | .ok (.classMap path opening elements) =>
      simp only [Except.map, Call.Verdict.erased, Element.erasedAll_eq_map, List.findSome?_map]
      congr 1
      funext entry
      rw [Function.comp_apply, Entry.fault?_erased]

end Shape

/-! ## Resolving -/

theorem Part.resolvedAll_eq_map (settings : Settings) (parts : List (Part Expr)) :
    Part.resolvedAll settings parts = parts.map (Part.map (Expr.resolved settings none)) := by
  induction parts with
  | nil => rfl
  | cons part rest ih => cases part <;> simp [Part.resolvedAll, Part.map, ih]

theorem Part.resolvedAll_row (erasure : Erasure) (settings : Settings) (kind : Row)
    (parts : List (Part Expr)) :
    Part.resolvedAll settings (erasure.row kind parts) =
      erasure.row kind (Part.resolvedAll settings parts) := by
  rw [Part.resolvedAll_eq_map, Part.resolvedAll_eq_map, erasure.row_map]

theorem erased_resolved (erasure : Erasure) (settings : Settings) :
    (∀ (e : Expr) (path : Option Text),
      (e.resolved settings path).erased erasure = (e.erased erasure).resolved settings path) ∧
    (∀ (slots : List Argument) (paths : List (Option Text)),
      Slot.erasedAll erasure (Slot.resolvedAll settings paths slots) =
        Slot.resolvedAll settings paths (Slot.erasedAll erasure slots)) ∧
    (∀ (elements : List Entry) (path : Option Text),
      Element.erasedAll erasure (Element.resolvedAll settings path elements) =
        Element.resolvedAll settings path (Element.erasedAll erasure elements)) ∧
    (∀ parts : List (Part Expr),
      Part.erasedAll erasure (Part.resolvedAll settings parts) =
        Part.resolvedAll settings (Part.erasedAll erasure parts)) := by
  apply Expr.tree_induction
  case call =>
    intro function gap opening arguments closing functionSame argumentsSame path
    simp only [Expr.resolved, Expr.erased, Call.path?_erased, functionSame, argumentsSame]
  case pair =>
    intro key before after value comma rest keySame valueSame restSame path
    have kept : ∀ path, Entry.replacement? path settings.loader
        (.pair (key.erased erasure) [] [] (value.erased erasure) none) =
          Entry.replacement? path settings.loader (.pair key before after value comma) :=
      fun path => Entry.replacement?_erased erasure path settings.loader
        (.pair key before after value comma)
    simp only [Element.resolvedAll, Element.erasedAll, keySame, restSame, kept]
    cases found : path.bind fun path =>
        Entry.replacement? path settings.loader (.pair key before after value comma) with
    | none => simp only [Option.getD_none, valueSame]
    | some lookup =>
        obtain ⟨path, _, replaced⟩ := Option.bind_eq_some_iff.mp found
        simp only [Option.getD_some, Entry.erased_of_replacement? erasure _ _ _ lookup replaced]
  case formatted | other =>
    intros
    simp_all only [Expr.resolved, Expr.erased, Part.resolvedAll_row]
  all_goals
    intros
    simp_all only [Expr.resolved, Slot.resolvedAll, Element.resolvedAll, Part.resolvedAll,
      Expr.erased, Slot.erasedAll, Element.erasedAll, Part.erasedAll]

theorem Module.erased_resolved (erasure : Erasure) (settings : Settings) (m : Module) :
    (m.resolved settings).erased erasure =
      Part.resolvedAll settings (m.erased erasure) := by
  simp only [Module.erased, Module.resolved, Part.resolvedAll_row,
    (ClassMaps.erased_resolved erasure settings).2.2.2]

end ClassMaps
