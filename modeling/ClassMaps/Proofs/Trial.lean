import ClassMaps.Proofs.Outcome

/-!
# What can go wrong with an entry

To judge an entry is to evaluate literals and, if the entry has a class name, to
make the loader a name.  `Entry.literals` lists the literals in the order in
which they are evaluated: the path of what looks like a lookup, and the strings
that the value is made of.  An entry is judged unless one of them denotes
nothing or the loader is needed and is no identifier, and the first of these
that fails is the fault.
-/

set_option autoImplicit false

namespace ClassMaps

/-- Why a computation gives nothing, if it does not. -/
def failure? {ε α : Type} : Except ε α → Option ε
  | .error fault => some fault
  | .ok _ => none

theorem failure?_eq_none_iff {ε α : Type} (run : Except ε α) :
    failure? run = none ↔ ∃ found, run = .ok found := by
  cases run <;> simp [failure?]

theorem failure?_map {ε α β : Type} (run : Except ε α) (change : α → β) :
    failure? (run.map change) = failure? run := by
  cases run <;> rfl

/-! ## Literals -/

def Literal.fault? (literal : Text) : Option LiteralFault := failure? (evaluate literal)

namespace Expr

/-- The literals that are evaluated to find what the expression denotes, in
order. -/
def literals : Expr → List Text
  | .string literal => [literal]
  | .concat left _ right =>
      if left.isFormatted || right.isFormatted then [] else left.literals ++ right.literals
  | .paren _ inner _ => inner.literals
  | _ => []

theorem failure?_denoted (e : Expr) :
    failure? e.denoted = e.literals.findSome? Literal.fault? := by
  fun_induction denoted e with
  | case1 literal => simp [literals, Literal.fault?, failure?_map]
  | case2 left gap right formatted => simp [literals, formatted, failure?]
  | case3 left gap right plain leftFault rightFault =>
      simp only [literals, plain, Bool.false_eq_true, if_false, List.findSome?_append, ← leftFault,
        ← rightFault]
      rcases left.denoted with fault | before
      · rfl
      · rcases right.denoted with fault | after <;> rfl
  | case4 opening inner closing ih => simpa only [literals] using ih
  | case5 e notString notConcat notParen =>
      cases e with
      | string literal => exact absurd rfl (notString literal)
      | concat left gap right => exact absurd rfl (notConcat left gap right)
      | paren opening inner closing => exact absurd rfl (notParen opening inner closing)
      | _ => simp [literals, failure?]

theorem failure?_stringValue (e : Expr) :
    failure? e.stringValue = e.literals.findSome? Literal.fault? := by
  rw [stringValue, failure?_map, failure?_denoted]

end Expr

/-! ## Entries -/

theorem Lookup.failure?_recognizes (e : Expr) (loader path : Text) :
    failure? (Lookup.recognizes e loader (some path)) =
      (Lookup.pathLiteral? e loader).bind Literal.fault? := by
  unfold Lookup.recognizes
  cases Lookup.pathLiteral? e loader with
  | none => rfl
  | some literal => simp [failure?_map, Literal.fault?]

namespace Entry

/-- The literals that are evaluated to judge an entry, in order. -/
def literals (loader : Text) : Entry → List Text
  | .pair _ _ _ value _ => (Lookup.pathLiteral? value loader).toList ++ value.literals
  | .spread _ _ _ => []

def nameFault? (loader : Text) (entry : Entry) : Option NameFault :=
  if (className? entry).isSome then failure? (Expr.ofName loader) else none

theorem fault?_eq (path loader : Text) (entry : Entry) :
    fault? path loader entry =
      (((literals loader entry).findSome? Literal.fault?).map EntryFault.literal).or
        ((nameFault? loader entry).map EntryFault.name) := by
  cases entry with
  | spread gap value comma => rfl
  | pair key before after value comma =>
      have recognition := Lookup.failure?_recognizes value loader path
      have evaluation := value.failure?_stringValue
      simp only [literals, List.findSome?_append, ← evaluation]
      have first : (Lookup.pathLiteral? value loader).toList.findSome? Literal.fault? =
          failure? (Lookup.recognizes value loader (some path)) := by
        rw [recognition]
        cases Lookup.pathLiteral? value loader <;> simp
      rw [first]
      rcases recognized : Lookup.recognizes value loader (some path) with fault | known
      · simp [fault?, judge, recognized, failure?]
      · cases known with
        | true =>
            have nothing := denoted_of_recognizes value loader path recognized
            have read : value.stringValue = .ok none := by rw [Expr.stringValue, nothing]; rfl
            have noText := text?_of_recognizes value loader path recognized
            simp [fault?, judge, recognized, read, failure?, nameFault?, className?, noText]
        | false =>
            rcases read : value.stringValue with fault | found
            · simp [fault?, judge, recognized, read, failure?]
            · have sameText := Expr.text?_of_stringValue value found read
              cases found with
              | none =>
                  simp [fault?, judge, recognized, read, failure?, nameFault?, className?, sameText]
              | some className =>
                  cases keyName : key.name? with
                  | none =>
                      simp [fault?, judge, recognized, read, failure?, nameFault?, className?,
                        keyName]
                  | some name =>
                      cases made : Expr.ofName loader <;>
                        simp [fault?, judge, recognized, read, keyName, named, Lookup.make, made,
                          failure?, nameFault?, className?, sameText, Except.map]

theorem nameFault?_eq_none_iff (loader : Text) (entry : Entry) :
    nameFault? loader entry = none ↔
      ((className? entry).isSome → Text.isIdentifier loader = true) := by
  have named : failure? (Expr.ofName loader) = none ↔ Text.isIdentifier loader = true := by
    cases loader with
    | nil => decide
    | cons first rest =>
        cases identifier : Text.isIdentifier (first :: rest) <;>
          simp [Expr.ofName, identifier, failure?]
  unfold nameFault?
  split
  · rename_i hasName
    simp [named, hasName]
  · rename_i noName
    simp [noName]

/-- An entry is judged unless a literal that has to be evaluated denotes nothing,
or the loader has to be called and is no identifier.  Where and for which path
makes no difference. -/
theorem judge_returns_iff (path loader : Text) (entry : Entry) (position : Position) :
    ((∃ judgement, judge path loader entry position = .ok judgement) ↔
      (∀ literal ∈ literals loader entry, ∃ found, Literal.evaluate literal = .ok found) ∧
      ((className? entry).isSome → Text.isIdentifier loader = true)) ∧
    (∀ judgement, judge path loader entry position = .ok judgement →
      judgement = ⟨replacement? path loader entry, diagnostic? path loader position entry⟩) ∧
    ∀ fault, judge path loader entry position = .error fault →
      ((literals loader entry).findSome? Literal.fault?).map EntryFault.literal = some fault ∨
      (literals loader entry).findSome? Literal.fault? = none ∧
        (nameFault? loader entry).map EntryFault.name = some fault := by
  have evaluated : (literals loader entry).findSome? Literal.fault? = none ↔
      ∀ literal ∈ literals loader entry, ∃ found, Literal.evaluate literal = .ok found := by
    rw [List.findSome?_eq_none_iff]
    simp only [Literal.fault?, failure?_eq_none_iff]
  rw [judge_eq, ← evaluated, ← nameFault?_eq_none_iff, fault?_eq]
  cases (literals loader entry).findSome? Literal.fault? with
  | some fault => simp
  | none => cases nameFault? loader entry <;> simp

end Entry

namespace Sample

/-- A dict display with an escape that lacks its digits. -/
def unsound : Text := text "\x7bx: '\\x'\x7d\n"

def unsoundEntry : Entry := .pair (.name (text "x")) [] [.text (text " ")] (.string (text "'\\x'")) none

/-- A loader that is not blank and no identifier either. -/
def unnamed : Text := text "a b"

def namedEntry : Entry := .pair (.name (text "x")) [] [] (.string (text "'a'")) none

end Sample

/-- An entry of a source that is read, and a loader that is accepted, for which
no entry is given back. -/
theorem Entry.judge_not_total :
    (∃ m, Module.parse Sample.unsound = .ok m ∧
      .expr (.dict [] [Sample.unsoundEntry] []) ∈ m.parts ∧
      Entry.judge (text "p") (text "require") Sample.unsoundEntry .origin =
        .error (.literal .escape)) ∧
    ∃ settings, Settings.ofGiven (.text (text "t")) (.text Sample.unnamed) = .ok settings ∧
      Entry.judge (text "p") settings.loader Sample.namedEntry .origin =
        .error (.name (.invalid Sample.unnamed)) := by
  constructor
  · obtain ⟨m, parsed, same⟩ := Sample.returns_of_seen (Module.parse Sample.unsound)
      (fun m => Part.sameAll m.parts [.gap [], .expr (.dict [] [Sample.unsoundEntry] []), .gap [],
        .token (sign '\n'), .gap [], .token []]) true (by decide +kernel)
    have parts := (Expr.same_iff.2.2.2 _ _).mp same
    have failed : Entry.fault? (text "p") (text "require") Sample.unsoundEntry =
        some (.literal .escape) := by decide +kernel
    exact ⟨m, parsed, by simp [parts], by rw [Entry.judge_eq, failed]⟩
  · have failed : Entry.fault? (text "p") Sample.unnamed Sample.namedEntry =
        some (.name (.invalid Sample.unnamed)) := by decide +kernel
    exact ⟨⟨text "t", Sample.unnamed, by decide, by decide⟩, rfl,
      by rw [Entry.judge_eq, failed]⟩

end ClassMaps
