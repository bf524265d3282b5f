import ClassMaps.Proofs.Delimiting

/-!
# Lookups are known again

A lookup is made by one function and recognised by another, and the two meet
only in the literal for the path: it is written by the one and evaluated by the
other.  A lookup that has been made is recognised by its own loader, and of its
own path if one is asked for, whatever the class name is.  It is recognised by
no other loader and of no other path; the empty path is a path like any other,
and not the absence of one.
-/

set_option autoImplicit false

namespace ClassMaps

namespace Lookup

theorem make_of_identifier (path className loader : Text)
    (named : Text.isIdentifier loader = true) :
    make path className loader = .ok (expr (.name loader) path className) := by
  cases loader with
  | nil => cases named
  | cons first rest => simp [make, Expr.ofName, named, Except.map]

/-- A lookup that was made is recognised exactly by its own loader and, if a path
is asked for, of its own path.  A path with a surrogate cannot be asked for: its
literal is not evaluated. -/
theorem recognizes_make (path className loader : Text)
    (named : Text.isIdentifier loader = true) :
    ∃ e, make path className loader = .ok e ∧ ∀ other wanted,
      recognizes e other wanted =
        if other = loader ∧ wanted.isSome ∧ Text.hasSurrogate path then .error .surrogate
        else .ok (decide (other = loader ∧ (wanted = none ∨ wanted = some path))) := by
  refine ⟨_, make_of_identifier path className loader named, ?_⟩
  intro other wanted
  rw [recognizes, pathLiteral?_expr]
  by_cases same : other = loader
  · cases wanted with
    | none => simp [same]
    | some file =>
        simp only [if_pos same, Literal.evaluate_quote_eq]
        cases broken : Text.hasSurrogate path with
        | true => simp [same, Except.map]
        | false => simp [same, Except.map, eq_comm]
  · simp [same]

/-- An empty class name and a path that needs escapes, asked for without a path,
of its own path, of the empty path, and by another loader. -/
theorem recognizes_make_sample :
    Text.isIdentifier (text "require") = true ∧
    ∃ e, make (text "a\"\\\n") [] (text "require") = .ok e ∧
      recognizes e (text "require") none = .ok true ∧
      recognizes e (text "require") (some (text "a\"\\\n")) = .ok true ∧
      recognizes e (text "require") (some []) = .ok false ∧
      recognizes e (text "load") (some (text "a\"\\\n")) = .ok false := by
  have named : Text.isIdentifier (text "require") = true := by decide
  obtain ⟨e, made, seen⟩ := recognizes_make (text "a\"\\\n") [] (text "require") named
  refine ⟨named, e, made, ?_, ?_, ?_, ?_⟩
  · rw [seen]; decide
  · rw [seen]; decide
  · rw [seen]; decide
  · rw [seen]; decide

end Lookup

end ClassMaps
