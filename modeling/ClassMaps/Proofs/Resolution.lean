import ClassMaps.Proofs.Declaration

/-!
# The resolved tree

`Expr.resolved` resolves all class maps of a tree by recursion on the tree
alone.  What becomes of a call or an entry is decided on the input: an entry
with a class name gets the lookup of it, and everything else is resolved inside.
The path of a class map is handed down to the dict display that it belongs to
and no further.

Resolving changes no shape that a decision looks at.  So a resolved call
passes and fails the same tests, and resolving a second time, by any loader,
changes nothing.
-/

set_option autoImplicit false

namespace ClassMaps

mutual

/-- The expression with its class maps resolved; `path` is the path of the
class map that the expression itself is, if it is one. -/
def Expr.resolved (settings : Settings) : Option Text → Expr → Expr
  | _, .name text => .name text
  | _, .string text => .string text
  | _, .formatted parts => .formatted (Part.resolvedAll settings parts)
  | _, .concat left gap right =>
      .concat (left.resolved settings none) gap (right.resolved settings none)
  | _, .call function gap opening arguments closing =>
      .call (function.resolved settings none) gap opening
        (Slot.resolvedAll settings
          [none, none, Call.path? settings.tagger function arguments] arguments) closing
  | _, .subscript value gap opening indices closing =>
      .subscript (value.resolved settings none) gap opening
        (Slot.resolvedAll settings [] indices) closing
  | path, .dict opening elements closing =>
      .dict opening (Element.resolvedAll settings path elements) closing
  | _, .other form parts => .other form (Part.resolvedAll settings parts)
  | path, .paren opening inner closing => .paren opening (inner.resolved settings path) closing

/-- The arguments in order, each as the class map of its path if it has one. -/
def Slot.resolvedAll (settings : Settings) :
    List (Option Text) → List (Slot Expr) → List (Slot Expr)
  | _, [] => []
  | paths, ⟨mark, value, comma⟩ :: rest =>
      ⟨mark, value.resolved settings paths.head?.join, comma⟩ ::
        Slot.resolvedAll settings paths.tail rest

/-- The elements in order.  In a class map, an element with a class name gets
the lookup of it for its value. -/
def Element.resolvedAll (settings : Settings) :
    Option Text → List (Element Expr) → List (Element Expr)
  | _, [] => []
  | path, .pair key before after value comma :: rest =>
      let lookup? := path.bind fun path =>
        Entry.replacement? path settings.loader (.pair key before after value comma)
      .pair (key.resolved settings none) before after
          (lookup?.getD (value.resolved settings none)) comma ::
        Element.resolvedAll settings path rest
  | path, .spread gap value comma :: rest =>
      .spread gap (value.resolved settings none) comma :: Element.resolvedAll settings path rest

def Part.resolvedAll (settings : Settings) : List (Part Expr) → List (Part Expr)
  | [] => []
  | .gap trivia :: rest => .gap trivia :: Part.resolvedAll settings rest
  | .token text :: rest => .token text :: Part.resolvedAll settings rest
  | .expr value :: rest => .expr (value.resolved settings none) :: Part.resolvedAll settings rest

end

-- Where no class map is declared, nothing changes.
example (settings : Settings) (path : Option Text) (t : Text) :
    (Expr.subscript (.dict [] [.spread [] (.name t) none] []) [] []
        [.bare (.other .atom [.token t])] []).resolved settings path =
      .subscript (.dict [] [.spread [] (.name t) none] []) [] []
        [.bare (.other .atom [.token t])] [] := by
  cbv

def Element.resolved (settings : Settings) (path : Option Text) : Entry → Entry
  | .pair key before after value comma =>
      let lookup? := path.bind fun path =>
        Entry.replacement? path settings.loader (.pair key before after value comma)
      .pair (key.resolved settings none) before after
        (lookup?.getD (value.resolved settings none)) comma
  | .spread gap value comma => .spread gap (value.resolved settings none) comma

def Module.resolved (settings : Settings) (m : Module) : Module :=
  { m with parts := Part.resolvedAll settings m.parts }

section Shape
variable (settings : Settings)

theorem Element.resolvedAll_eq_map (path : Option Text) (elements : List Entry) :
    Element.resolvedAll settings path elements =
      elements.map (Element.resolved settings path) := by
  induction elements with
  | nil => rfl
  | cons element rest ih =>
      cases element <;> simp [Element.resolvedAll, Element.resolved, ih]

theorem Slot.getElem?_resolvedAll (paths : List (Option Text)) (slots : List Argument) (i : Nat) :
    (Slot.resolvedAll settings paths slots)[i]? =
      slots[i]?.map fun slot => slot.withValue (slot.value.resolved settings paths[i]?.join) := by
  induction slots generalizing paths i with
  | nil => simp [Slot.resolvedAll]
  | cons slot rest ih =>
      obtain ⟨mark, value, comma⟩ := slot
      cases i with
      | zero => cases paths <;> simp [Slot.resolvedAll, Slot.withValue]
      | succ i => cases paths <;> simp [Slot.resolvedAll, ih]

theorem Slot.length_resolvedAll (paths : List (Option Text)) (slots : List Argument) :
    (Slot.resolvedAll settings paths slots).length = slots.length := by
  induction slots generalizing paths with
  | nil => rfl
  | cons slot rest ih => simp [Slot.resolvedAll, ih]

theorem Slot.all_isPositional_resolvedAll (paths : List (Option Text)) (slots : List Argument) :
    (Slot.resolvedAll settings paths slots).all Slot.isPositional =
      slots.all Slot.isPositional := by
  induction slots generalizing paths with
  | nil => rfl
  | cons slot rest ih => simp [Slot.resolvedAll, Slot.isPositional, ih]

namespace Expr

theorem stripped_resolved (path : Option Text) (e : Expr) :
    (e.resolved settings path).stripped = e.stripped.resolved settings path := by
  fun_induction stripped e with
  | case1 opening inner closing ih => simp only [resolved, stripped, ih]
  | case2 e notParen =>
      cases e with
      | paren opening inner closing => exact absurd rfl (notParen opening inner closing)
      | _ => simp only [resolved, stripped]

theorem name?_resolved (path : Option Text) (e : Expr) :
    (e.resolved settings path).name? = e.name? := by
  unfold name?
  rw [stripped_resolved]
  cases e.stripped <;> simp only [resolved]

theorem isName_resolved (path : Option Text) (e : Expr) (name : Text) :
    (e.resolved settings path).isName name = e.isName name := by
  simp [isName, name?_resolved]

theorem isDict_resolved (path : Option Text) (e : Expr) :
    (e.resolved settings path).isDict = e.isDict := by
  unfold isDict
  rw [stripped_resolved]
  cases e.stripped <;> simp only [resolved]

theorem elements_resolved (path : Option Text) (e : Expr) :
    (e.resolved settings path).elements = e.elements.map (Element.resolved settings path) := by
  unfold elements
  rw [stripped_resolved]
  cases e.stripped <;> simp [resolved, Element.resolvedAll_eq_map]

theorem isFormatted_resolved (path : Option Text) (e : Expr) :
    (e.resolved settings path).isFormatted = e.isFormatted := by
  unfold isFormatted
  rw [stripped_resolved]
  cases e.stripped <;> simp only [resolved]

theorem denoted_resolved (path : Option Text) (e : Expr) :
    (e.resolved settings path).denoted = e.denoted := by
  fun_induction denoted e generalizing path with
  | case1 literal => simp only [resolved, denoted]
  | case2 left gap right formatted =>
      simp only [resolved, denoted, isFormatted_resolved, formatted, if_true]
  | case3 left gap right plain leftSame rightSame =>
      simp only [resolved, denoted, isFormatted_resolved, plain, leftSame, rightSame]
      rfl
  | case4 opening inner closing ih => simp only [resolved, denoted, ih]
  | case5 e notString notConcat notParen =>
      cases e with
      | string literal => exact absurd rfl (notString literal)
      | concat left gap right => exact absurd rfl (notConcat left gap right)
      | paren opening inner closing => exact absurd rfl (notParen opening inner closing)
      | _ => simp only [resolved, denoted]

theorem stringValue_resolved (path : Option Text) (e : Expr) :
    (e.resolved settings path).stringValue = e.stringValue := by
  simp only [stringValue, denoted_resolved]

theorem text?_resolved (path : Option Text) (e : Expr) :
    (e.resolved settings path).text? = e.text? := by
  simp only [text?, stringValue_resolved]

end Expr

namespace Lookup

theorem soleLiteral?_resolved (paths : List (Option Text)) (slots : List Argument) :
    soleLiteral? (Slot.resolvedAll settings paths slots) = soleLiteral? slots := by
  match slots with
  | [] => rfl
  | [slot] =>
      simp only [Slot.resolvedAll, soleLiteral?, Expr.stripped_resolved]
      cases slot.value.stripped <;> simp only [Expr.resolved]
  | _ :: _ :: _ => simp only [Slot.resolvedAll, soleLiteral?]

theorem pathLiteral?_resolved (path : Option Text) (e : Expr) (loader : Text) :
    pathLiteral? (e.resolved settings path) loader = pathLiteral? e loader := by
  unfold pathLiteral?
  rw [Expr.stripped_resolved]
  cases e.stripped with
  | subscript value gap opening indices closing =>
      simp only [Expr.resolved, Expr.stripped_resolved]
      cases value.stripped <;>
        simp only [Expr.resolved, Expr.isName_resolved, soleLiteral?_resolved]
  | _ => simp only [Expr.resolved]

theorem recognizes_resolved (path : Option Text) (e : Expr) (loader : Text)
    (wanted : Option Text) :
    recognizes (e.resolved settings path) loader wanted = recognizes e loader wanted := by
  simp only [recognizes, pathLiteral?_resolved]

end Lookup

namespace Call

theorem declares_resolved (path : Option Text) (paths : List (Option Text)) (tagger : Text)
    (function : Expr) (arguments : List Argument) :
    declares tagger (function.resolved settings path) (Slot.resolvedAll settings paths arguments) =
      declares tagger function arguments := by
  cases arguments with
  | nil => rfl
  | cons first rest =>
      simp only [Slot.resolvedAll, declares, Expr.isName_resolved, Slot.isPositional]

theorem tests_resolved (paths : List (Option Text)) (arguments : List Argument) :
    tests (Slot.resolvedAll settings paths arguments) = tests arguments := by
  have literal : ∀ i : Nat, ((Slot.resolvedAll settings paths arguments)[i]?.any
      fun slot => slot.value.text?.isSome) = arguments[i]?.any fun slot => slot.value.text?.isSome := by
    intro i
    rw [Slot.getElem?_resolvedAll]
    cases arguments[i]? <;> simp [Slot.withValue, Expr.text?_resolved]
  have display : ∀ i : Nat, ((Slot.resolvedAll settings paths arguments)[i]?.any
      fun slot => slot.value.isDict) = arguments[i]?.any fun slot => slot.value.isDict := by
    intro i
    rw [Slot.getElem?_resolvedAll]
    cases arguments[i]? <;> simp [Slot.withValue, Expr.isDict_resolved]
  simp only [tests, Slot.length_resolvedAll, Slot.all_isPositional_resolvedAll, literal, display]

theorem malformation?_resolved (paths : List (Option Text)) (arguments : List Argument) :
    malformation? (Slot.resolvedAll settings paths arguments) = malformation? arguments := by
  simp only [malformation?, tests_resolved]

theorem classMap?_resolved (path : Option Text) (paths : List (Option Text)) (tagger : Text)
    (function : Expr) (arguments : List Argument) :
    classMap? tagger (function.resolved settings path)
        (Slot.resolvedAll settings paths arguments) =
      (classMap? tagger function arguments).map fun found =>
        (found.1, found.2.map (Element.resolved settings paths[2]?.join)) := by
  unfold classMap?
  rw [declares_resolved, malformation?_resolved]
  by_cases passed : (declares tagger function arguments && (malformation? arguments).isNone) = true
  · rw [if_pos passed, if_pos passed]
    match arguments with
    | [] | [_] | [_, _] | _ :: _ :: _ :: _ :: _ => simp only [Slot.resolvedAll, Option.map_none]
    | [first, second, third] =>
        have paths2 : paths.tail.tail.head? = paths[2]? := by
          cases paths with
          | nil => rfl
          | cons _ rest => cases rest <;> simp [List.head?_eq_getElem?]
        simp only [Slot.resolvedAll, Expr.text?_resolved, Expr.elements_resolved, paths2]
        cases second.value.text? <;> simp
  · rw [if_neg passed, if_neg passed]
    rfl

theorem path?_resolved (path : Option Text) (paths : List (Option Text)) (tagger : Text)
    (function : Expr) (arguments : List Argument) :
    path? tagger (function.resolved settings path) (Slot.resolvedAll settings paths arguments) =
      path? tagger function arguments := by
  unfold path?
  rw [classMap?_resolved]
  cases classMap? tagger function arguments <;> rfl

end Call

theorem Expr.classMap?_resolved (call : Expr) :
    (call.resolved settings none).classMap? settings.tagger =
      (call.classMap? settings.tagger).map fun found =>
        (found.1, found.2.map (Element.resolved settings (some found.1))) := by
  cases call with
  | call function gap opening arguments closing =>
      simp only [Expr.resolved, Expr.classMap?, Call.classMap?_resolved]
      match declared : Call.classMap? settings.tagger function arguments with
      | none => rfl
      | some (path, elements) => simp [Call.path?, declared]
  | _ => simp only [Expr.resolved, Expr.classMap?, Option.map_none]

/-! ## Entries -/

theorem Expr.resolved_of_name? (path : Option Text) (e : Expr) (name : Text)
    (given : e.name? = some name) : e.resolved settings path = e := by
  unfold Expr.name? at given
  fun_induction Expr.stripped e with
  | case1 opening inner closing ih => simp only [Expr.resolved, ih given]
  | case2 e notParen =>
      cases e with
      | name text => simp only [Expr.resolved]
      | _ => cases given

theorem Lookup.text?_expr (loader : Expr) (path className : Text) :
    (Lookup.expr loader path className).text? = none := rfl

theorem Lookup.pathLiteral?_expr (path className loader other : Text) :
    Lookup.pathLiteral? (Lookup.expr (.name loader) path className) other =
      if other = loader then some (Literal.quote path) else none := by
  by_cases same : other = loader
  · simp [Lookup.pathLiteral?, Lookup.expr, Expr.stripped, Expr.isName, Expr.name?, Slot.bare,
      Lookup.soleLiteral?, same]
  · have different : loader ≠ other := fun same' => same same'.symm
    simp [Lookup.pathLiteral?, Lookup.expr, Expr.stripped, Expr.isName, Expr.name?, same, different]

theorem Lookup.resolved_expr (path : Option Text) (loader file className : Text) :
    (Lookup.expr (.name loader) file className).resolved settings path =
      Lookup.expr (.name loader) file className := by
  simp [Lookup.expr, Expr.resolved, Slot.resolvedAll, Slot.bare]

namespace Entry

theorem className?_resolved (entry : Entry) :
    className? (Element.resolved settings none entry) = className? entry := by
  cases entry with
  | spread gap value comma => rfl
  | pair key before after value comma =>
      simp [Element.resolved, className?, Expr.name?_resolved, Expr.text?_resolved]

theorem fault?_resolved (path loader : Text) (entry : Entry) :
    fault? path loader (Element.resolved settings none entry) = fault? path loader entry := by
  cases entry with
  | spread gap value comma => rfl
  | pair key before after value comma =>
      exact fault?_pair_congr path loader _ _ _ _ _ _ _ _ _ _ (key.name?_resolved settings none)
        (Lookup.recognizes_resolved settings none value loader (some path))
        (value.stringValue_resolved settings none)

theorem resolved_of_className? (path : Text) (entry : Entry) (name className : Text)
    (found : className? entry = some (name, className)) :
    Element.resolved settings (some path) entry =
      entry.withValue (Lookup.expr (.name settings.loader) path className) := by
  cases entry with
  | spread gap value comma => cases found
  | pair key before after value comma =>
      have keyKept : key.resolved settings none = key := by
        simp only [className?, Option.bind_eq_some_iff] at found
        obtain ⟨keyName, isName, _⟩ := found
        exact key.resolved_of_name? settings none keyName isName
      simp [Element.resolved, replacement?, found, keyKept, Element.withValue]

theorem resolved_of_noClassName (path : Option Text) (entry : Entry)
    (noName : className? entry = none) :
    Element.resolved settings path entry = Element.resolved settings none entry := by
  cases entry with
  | spread gap value comma => rfl
  | pair key before after value comma =>
      cases path <;> simp [Element.resolved, replacement?, noName]

theorem className?_resolved_classMap (path : Text) (entry : Entry) :
    className? (Element.resolved settings (some path) entry) = none := by
  match found : className? entry with
  | none => rw [resolved_of_noClassName settings _ entry found, className?_resolved, found]
  | some (name, className) =>
      rw [resolved_of_className? settings path entry name className found]
      cases entry with
      | spread gap value comma => rfl
      | pair key before after value comma =>
          simp [Element.withValue, className?, Lookup.text?_expr]

end Entry

/-! ## Resolving twice -/

theorem Element.resolved_of_resolved_children (other : Settings) (path : Option Text)
    (key value : Expr) (before after : Gap) (comma : Option Comma)
    (keyKept : (key.resolved settings none).resolved other none = key.resolved settings none)
    (valueKept : (value.resolved settings none).resolved other none = value.resolved settings none) :
    Element.resolved other path
        (Element.resolved settings path (.pair key before after value comma)) =
      Element.resolved settings path (.pair key before after value comma) := by
  cases path with
  | none => simp [Element.resolved, keyKept, valueKept]
  | some path =>
      -- No class name is left, so the second time every element is only resolved inside.
      rw [Entry.resolved_of_noClassName other (some path) _
        (Entry.className?_resolved_classMap settings path _)]
      match found : Entry.className? (.pair key before after value comma) with
      | none =>
          rw [Entry.resolved_of_noClassName settings (some path) _ found]
          simp [Element.resolved, keyKept, valueKept]
      | some (name, className) =>
          simp [Element.resolved, Entry.replacement?, found, keyKept, Lookup.resolved_expr]

end Shape

/-- What has been resolved by one loader is left alone by any other. -/
theorem resolved_resolved (settings other : Settings) (same : other.tagger = settings.tagger) :
    (∀ (e : Expr) (path : Option Text),
      (e.resolved settings path).resolved other path = e.resolved settings path) ∧
    (∀ (slots : List Argument) (paths : List (Option Text)),
      Slot.resolvedAll other paths (Slot.resolvedAll settings paths slots) =
        Slot.resolvedAll settings paths slots) ∧
    (∀ (elements : List Entry) (path : Option Text),
      Element.resolvedAll other path (Element.resolvedAll settings path elements) =
        Element.resolvedAll settings path elements) ∧
    (∀ parts : List (Part Expr),
      Part.resolvedAll other (Part.resolvedAll settings parts) =
        Part.resolvedAll settings parts) := by
  apply Expr.tree_induction
  case call =>
    intro function gap opening arguments closing functionKept argumentsKept path
    simp only [Expr.resolved]
    rw [same, Call.path?_resolved, functionKept, argumentsKept]
  case pair =>
    intro key before after value comma rest keyKept valueKept restKept path
    have head := Element.resolved_of_resolved_children settings other path key value before after
      comma (keyKept none) (valueKept none)
    have tail := restKept path
    simp only [Element.resolvedAll_eq_map, List.map_cons] at tail ⊢
    rw [head, tail]
  all_goals
    intros
    simp_all only [Expr.resolved, Slot.resolvedAll, Element.resolvedAll, Part.resolvedAll]

end ClassMaps
