import ClassMaps.Proofs.Delimiting
import ClassMaps.Proofs.Erasure

/-!
# What passes for a lookup

A lookup may be formatted in any way, and its two literals may be spelled in any way:
it is still like the lookup that is made of its path and its class name.

Not all that is recognized is like a lookup that is made.  The shape that is
recognized leaves open how the argument and the index are marked, and what the literal
of the index denotes.  A starred or keyword argument, a starred index, and bytes in
place of a class name pass for a lookup, and an element with such a value is taken for
one that is done.
-/

set_option autoImplicit false

namespace ClassMaps

/-- The literal is the one made for the text, or denotes it. -/
def Literal.Spells (literal content : Text) : Prop :=
  literal = quote content ∨ evaluate literal = .ok (.text content)

namespace Lookup

/-- A lookup without format, with marks on its argument and on its index. -/
def marked (loader : Text) (argument index : Mark) (pathLiteral indexLiteral : Text) : Expr :=
  .subscript (.call (.name loader) [] [] [⟨argument, .string pathLiteral, none⟩] []) [] []
    [⟨index, .string indexLiteral, none⟩] []

/-- The expression is the lookup that is made of the path and the class name, but for
its format and the spelling of its literals. -/
def Like (e : Expr) (loader path className : Text) : Prop :=
  ∃ pathLiteral indexLiteral,
    Literal.Spells pathLiteral path ∧ Literal.Spells indexLiteral className ∧
      e.erased .layout = marked loader .plain .plain pathLiteral indexLiteral

theorem like_make (path className loader : Text) (e : Expr)
    (made : make path className loader = .ok e) : Like e loader path className := by
  rw [Entry.make_eq path className loader e made]
  exact ⟨_, _, .inl rfl, .inl rfl, erased_expr .layout loader path className⟩

theorem marked_inj (loader : Text) (argument argument' index index' : Mark)
    (pathLiteral pathLiteral' indexLiteral indexLiteral' : Text)
    (same : marked loader argument index pathLiteral indexLiteral =
      marked loader argument' index' pathLiteral' indexLiteral') :
    argument = argument' ∧ index = index' ∧ pathLiteral = pathLiteral' ∧
      indexLiteral = indexLiteral' := by
  simp only [marked, Expr.subscript.injEq, Expr.call.injEq, List.cons.injEq, Slot.mk.injEq,
    Expr.string.injEq, and_true, true_and] at same
  obtain ⟨⟨rfl, rfl⟩, rfl, rfl⟩ := same
  exact ⟨rfl, rfl, rfl, rfl⟩

/-! ## The shape that is recognized -/

theorem soleLiteral?_eq_some_iff (erasure : Erasure) (slots : List Argument) (literal : Text) :
    soleLiteral? slots = some literal ↔
      ∃ mark, Slot.erasedAll erasure slots = [⟨mark, .string literal, none⟩] := by
  constructor
  · intro found
    match slots with
    | [] => cases found
    | _ :: _ :: _ => cases found
    | [⟨mark, value, comma⟩] =>
        refine ⟨mark.erased, ?_⟩
        rw [Slot.erasedAll, ← Expr.erased_stripped]
        cases shape : value.stripped with
        | string text =>
            simp only [soleLiteral?, shape, Option.some.injEq] at found
            rw [found, Expr.erased, Slot.erasedAll]
        | _ => simp [soleLiteral?, shape] at found
  · rintro ⟨mark, shape⟩
    rw [← soleLiteral?_erased erasure, shape]
    rfl

theorem pathLiteral?_eq_some_iff (e : Expr) (loader literal : Text) :
    pathLiteral? e loader = some literal ↔
      ∃ argument index indexLiteral,
        e.erased .layout = marked loader argument index literal indexLiteral := by
  constructor
  · intro found
    unfold pathLiteral? at found
    split at found
    · rename_i value gap opening indices closing outer
      split at found
      · rename_i function gap' opening' arguments closing' inner
        split at found
        · rename_i fits
          rw [Bool.and_eq_true] at fits
          obtain ⟨named, indexed⟩ := fits
          obtain ⟨indexLiteral, isIndex⟩ := Option.isSome_iff_exists.mp indexed
          obtain ⟨argument, arguments'⟩ := (soleLiteral?_eq_some_iff .layout _ _).mp found
          obtain ⟨index, indices'⟩ := (soleLiteral?_eq_some_iff .layout _ _).mp isIndex
          refine ⟨argument, index, indexLiteral, ?_⟩
          have function' := Expr.erased_of_isName .layout function loader named
          rw [← Expr.erased_stripped, outer, Expr.erased, ← Expr.erased_stripped .layout value,
            inner, Expr.erased, function', arguments', indices']
          rfl
        · cases found
      · cases found
    · cases found
  · rintro ⟨argument, index, indexLiteral, shape⟩
    rw [← pathLiteral?_erased .layout, shape]
    simp [pathLiteral?, marked, soleLiteral?, Expr.stripped, Expr.isName, Expr.name?]

theorem recognizes_some_iff (e : Expr) (loader path : Text) :
    recognizes e loader (some path) = .ok true ↔
      ∃ literal, pathLiteral? e loader = some literal ∧
        Literal.evaluate literal = .ok (.text path) := by
  unfold recognizes
  cases pathLiteral? e loader with
  | none => simp
  | some literal =>
      cases evaluated : Literal.evaluate literal with
      | error fault => simp [evaluated, Except.map]
      | ok found => simp [evaluated, Except.map]

/-! ## What is recognized -/

/-- The expression is a lookup of the path by the loader, but for these marks and this
literal of the index. -/
def Resembles (e : Expr) (loader path : Text) (argument index : Mark) (indexLiteral : Text) :
    Prop :=
  ∃ pathLiteral, Literal.evaluate pathLiteral = .ok (.text path) ∧
    e.erased .layout = marked loader argument index pathLiteral indexLiteral

theorem recognizes_iff_resembles (e : Expr) (loader path : Text) :
    recognizes e loader (some path) = .ok true ↔
      ∃ argument index indexLiteral, Resembles e loader path argument index indexLiteral := by
  rw [recognizes_some_iff]
  constructor
  · rintro ⟨pathLiteral, found, evaluated⟩
    obtain ⟨argument, index, indexLiteral, shape⟩ :=
      (pathLiteral?_eq_some_iff e loader pathLiteral).mp found
    exact ⟨argument, index, indexLiteral, pathLiteral, evaluated, shape⟩
  · rintro ⟨argument, index, indexLiteral, pathLiteral, evaluated, shape⟩
    exact ⟨pathLiteral, (pathLiteral?_eq_some_iff e loader pathLiteral).mpr
      ⟨argument, index, indexLiteral, shape⟩, evaluated⟩

theorem like_iff_of_resembles (e : Expr) (loader path : Text) (argument index : Mark)
    (indexLiteral : Text) (resembles : Resembles e loader path argument index indexLiteral) :
    (∃ className, Like e loader path className) ↔
      argument = .plain ∧ index = .plain ∧ ∃ className, Literal.Spells indexLiteral className := by
  obtain ⟨pathLiteral, evaluated, shape⟩ := resembles
  constructor
  · rintro ⟨className, pathLiteral', indexLiteral', _, spelled, like⟩
    rw [shape] at like
    obtain ⟨rfl, rfl, _, rfl⟩ := marked_inj _ _ _ _ _ _ _ _ _ like
    exact ⟨rfl, rfl, className, spelled⟩
  · rintro ⟨rfl, rfl, className, spelled⟩
    exact ⟨className, pathLiteral, indexLiteral, .inr evaluated, spelled, shape⟩

theorem judge_silent_iff (path loader : Text) (entry : Entry) (position : Position) :
    Entry.judge path loader entry position = .ok ⟨none, none⟩ ↔
      ∃ key before after value comma, entry = .pair key before after value comma ∧
        recognizes value loader (some path) = .ok true := by
  cases entry with
  | spread gap value comma => simp [Entry.judge, Entry.malformed]
  | pair key before after value comma =>
      have own : (∃ key' before' after' value' comma',
          Element.pair key before after value comma =
            Element.pair key' before' after' value' comma' ∧
          recognizes value' loader (some path) = .ok true) ↔
          recognizes value loader (some path) = .ok true := by
        constructor
        · rintro ⟨_, _, _, _, _, same, recognized⟩
          cases same
          exact recognized
        · intro recognized
          exact ⟨_, _, _, _, _, rfl, recognized⟩
      rw [own, Entry.judge]
      rcases recognizes value loader (some path) with fault | recognized
      · simp
      · cases recognized with
        | true => simp
        | false =>
            rcases value.stringValue with fault | (_ | className)
            · simp
            · simp [Entry.malformed]
            · cases key.name? with
              | none => simp [Entry.malformed]
              | some name =>
                  simp only [Entry.named]
                  cases make path className loader <;> simp

/-- What is recognized as a lookup of a path is one in all that the recognized shape
fixes.  It is like a lookup that could have been made if it has no marks and its index
spells a class name, and only then.  An element is passed over in silence if its value
is recognized, and only then. -/
theorem recognizes_resembling (loader path : Text) :
    (∀ e, recognizes e loader (some path) = .ok true ↔
      ∃ argument index indexLiteral, Resembles e loader path argument index indexLiteral) ∧
    (∀ e argument index indexLiteral, Resembles e loader path argument index indexLiteral →
      ((∃ className, Like e loader path className) ↔
        argument = .plain ∧ index = .plain ∧
          ∃ className, Literal.Spells indexLiteral className)) ∧
    ∀ entry position, Entry.judge path loader entry position = .ok ⟨none, none⟩ ↔
      ∃ key before after value comma, entry = .pair key before after value comma ∧
        ∃ argument index indexLiteral,
          Resembles value loader path argument index indexLiteral := by
  refine ⟨fun e => recognizes_iff_resembles e loader path,
    fun e => like_iff_of_resembles e loader path, ?_⟩
  intro entry position
  simp only [judge_silent_iff, recognizes_iff_resembles]

/-! ## Lookups that could not have been made -/

/-- A source with the expression that is read in it. -/
structure Spelled where
  code : Text
  tree : Expr
  parsed : (Expr.parse code).toOption.map (·.same tree) = some true

theorem Spelled.parse_code (spelled : Spelled) : Expr.parse spelled.code = .ok spelled.tree := by
  have known := spelled.parsed
  cases read : Expr.parse spelled.code with
  | error fault => simp [read, Except.toOption] at known
  | ok found =>
      rw [read] at known
      rw [(Expr.same_iff.1 found spelled.tree).mp (Option.some.inj known)]

/-- What is read is recognized and is like no lookup that is made. -/
def Spelled.Deceives (spelled : Spelled) : Prop :=
  Expr.parse spelled.code = .ok spelled.tree ∧
  recognizes spelled.tree (text "require") (some (text "p")) = .ok true ∧
  ∀ className, ¬ Like spelled.tree (text "require") (text "p") className

theorem Spelled.deceives (spelled : Spelled) (argument index : Mark) (indexLiteral : Text)
    (resembles : Resembles spelled.tree (text "require") (text "p") argument index indexLiteral)
    (unlike : argument = .plain → index = .plain →
      ∀ className, ¬ Literal.Spells indexLiteral className) : spelled.Deceives := by
  refine ⟨spelled.parse_code, ?_, ?_⟩
  · exact (recognizes_iff_resembles _ _ _).mpr ⟨argument, index, indexLiteral, resembles⟩
  · intro className like
    obtain ⟨plain, plain', className', spells⟩ :=
      (like_iff_of_resembles _ _ _ _ _ _ resembles).mp ⟨className, like⟩
    exact unlike plain plain' className' spells

theorem not_spells_bytes (className : Text) : ¬ Literal.Spells (text "b'a'") className := by
  rintro (spelled | evaluated)
  · have first := congrArg List.head? spelled
    simp [text, Literal.quote, sign, CodePoint.ofChar] at first
  · have denoted : Literal.evaluate (text "b'a'") = .ok .bytes := by rfl
    rw [denoted] at evaluated
    cases evaluated

def bytesIndex : Spelled where
  code := text "require('p')[b'a']"
  tree := marked (text "require") .plain .plain (text "'p'") (text "b'a'")
  parsed := by decide +kernel

def starredIndex : Spelled where
  code := text "require('p')[*'a']"
  tree := marked (text "require") .plain (.star []) (text "'p'") (text "'a'")
  parsed := by decide +kernel

def starredArgument : Spelled where
  code := text "require(*'p')['a']"
  tree := marked (text "require") (.star []) .plain (text "'p'") (text "'a'")
  parsed := by decide +kernel

def keywordArgument : Spelled where
  code := text "require(k='p')['a']"
  tree := marked (text "require") (.keyword (text "k") [] []) .plain (text "'p'") (text "'a'")
  parsed := by decide +kernel

/-- Bytes, stars and keywords pass for what they are not. -/
theorem recognizes_unlike :
    bytesIndex.Deceives ∧ starredIndex.Deceives ∧ starredArgument.Deceives ∧
      keywordArgument.Deceives := by
  have evaluated : Literal.evaluate (text "'p'") = .ok (.text (text "p")) := by rfl
  refine ⟨?_, ?_, ?_, ?_⟩
  · exact bytesIndex.deceives _ _ _ ⟨_, evaluated, rfl⟩ fun _ _ => not_spells_bytes
  · exact starredIndex.deceives _ _ _ ⟨_, evaluated, rfl⟩ (by rintro _ ⟨⟩)
  · exact starredArgument.deceives _ _ _ ⟨_, evaluated, rfl⟩ (by rintro ⟨⟩)
  · exact keywordArgument.deceives _ _ _ ⟨_, evaluated, rfl⟩ (by rintro ⟨⟩)

end Lookup

end ClassMaps
