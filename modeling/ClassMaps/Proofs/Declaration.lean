import ClassMaps.Proofs.Tree
import ClassMaps.Session

/-!
# What a call declares

The tests that a declaration has to pass, read off its arguments one by one,
and the kinds of entry that a class map can have.  The verdict on a call gives
the first test that fails, and the judgement of an entry gives the lookup and
the defect that its kind calls for, if no literal is unsound and the loader
can be named.
-/

set_option autoImplicit false

namespace ClassMaps

namespace Expr

def isDict (e : Expr) : Bool :=
  match e.stripped with
  | .dict _ _ _ => true
  | _ => false

theorem isDict_iff (e : Expr) :
    e.isDict = true ↔ ∃ opening elements closing, e.stripped = .dict opening elements closing := by
  unfold isDict
  cases e.stripped <;> simp

theorem denoted_stripped (e : Expr) : e.stripped.denoted = e.denoted := by
  fun_induction stripped e with
  | case1 opening inner closing ih => simp only [denoted, ih]
  | case2 => rfl

theorem text?_of_stringValue (e : Expr) (found : Option Text) (given : e.stringValue = .ok found) :
    e.text? = found := by
  simp only [text?, given]

theorem stringValue_of_text? (e : Expr) (content : Text) (given : e.text? = some content) :
    e.stringValue = .ok (some content) := by
  unfold stringValue
  rw [denoted_of_text? e content given]
  rfl

theorem text?_eq_some_iff (e : Expr) (content : Text) :
    e.text? = some content ↔ e.stringValue = .ok (some content) :=
  ⟨e.stringValue_of_text? content, e.text?_of_stringValue (some content)⟩

end Expr

/-! ## Calls -/

namespace Call

/-- What is asked of the arguments of a declaration, in order, with what is
wrong if the answer is no. -/
def tests (arguments : List Argument) : List (Bool × Malformation) :=
  [(arguments.length = 3, .count arguments.length),
   (arguments.all Slot.isPositional, .notPositional),
   (arguments[1]?.any fun second => second.value.text?.isSome, .path),
   (arguments[2]?.any fun third => third.value.isDict, .classMap)]

/-- What the first failing test finds wrong. -/
def malformation? (arguments : List Argument) : Option Malformation :=
  ((tests arguments).find? fun test => !test.1).map (·.2)

/-- The path and the elements of the class map that a call declares, if it
declares one and passes all tests. -/
def classMap? (tagger : Text) (function : Expr) (arguments : List Argument) :
    Option (Text × List Entry) :=
  if declares tagger function arguments && (malformation? arguments).isNone then
    match arguments with
    | [_, second, third] => second.value.text?.map fun path => (path, third.value.elements)
    | _ => none
  else none

def path? (tagger : Text) (function : Expr) (arguments : List Argument) : Option Text :=
  (classMap? tagger function arguments).map (·.1)

theorem malformation?_of_count (arguments : List Argument) (other : arguments.length ≠ 3) :
    malformation? arguments = some (.count arguments.length) := by
  simp [malformation?, tests, other]

theorem length_of_malformation? (arguments : List Argument) (reason : Malformation)
    (given : malformation? arguments = some reason) (notCount : ∀ n, reason ≠ .count n) :
    arguments.length = 3 := by
  by_cases three : arguments.length = 3
  · exact three
  · rw [malformation?_of_count arguments three] at given
    exact absurd (Option.some.inj given).symm (notCount _)

theorem malformation?_of_three (first second third : Argument) :
    malformation? [first, second, third] =
      if first.isPositional && second.isPositional && third.isPositional then
        if second.value.text?.isSome then
          if third.value.isDict then none else some .classMap
        else some .path
      else some .notPositional := by
  cases firstPlain : first.isPositional <;> cases secondPlain : second.isPositional <;>
    cases thirdPlain : third.isPositional <;> cases literal : second.value.text?.isSome <;>
    cases shape : third.value.isDict <;>
    simp [malformation?, tests, firstPlain, secondPlain, thirdPlain, literal, shape]

theorem malformation?_eq_none_iff (arguments : List Argument) :
    malformation? arguments = none ↔ ∃ first second third path,
      arguments = [first, second, third] ∧
      (first.isPositional ∧ second.isPositional ∧ third.isPositional) ∧
      second.value.text? = some path ∧ third.value.isDict := by
  constructor
  · intro passed
    by_cases three : arguments.length = 3
    · have listed := arguments.eq_getElem_of_length_eq_three three
      rw [listed, malformation?_of_three] at passed
      split at passed
      · rename_i positional
        split at passed
        · rename_i literal
          split at passed
          · rename_i display
            obtain ⟨path, isText⟩ := Option.isSome_iff_exists.mp literal
            simp only [Bool.and_eq_true] at positional
            exact ⟨_, _, _, path, listed, ⟨positional.1.1, positional.1.2, positional.2⟩, isText,
              display⟩
          · cases passed
        · cases passed
      · cases passed
    · rw [malformation?_of_count arguments three] at passed
      cases passed
  · rintro ⟨first, second, third, path, rfl, ⟨firstPlain, secondPlain, thirdPlain⟩, isText,
      display⟩
    rw [malformation?_of_three]
    simp [firstPlain, secondPlain, thirdPlain, isText, display]

theorem classMap?_cases (tagger : Text) (function : Expr) (arguments : List Argument)
    (path : Text) (elements : List Entry)
    (given : classMap? tagger function arguments = some (path, elements)) :
    ∃ first second third opening closing, arguments = [first, second, third] ∧
      second.value.text? = some path ∧
      third.value.stripped = .dict opening elements closing := by
  unfold classMap? at given
  split at given
  · rename_i tested
    simp only [Bool.and_eq_true, Option.isNone_iff_eq_none] at tested
    obtain ⟨first, second, third, path', rfl, _, literal, display⟩ :=
      (malformation?_eq_none_iff arguments).mp tested.2
    obtain ⟨opening, elements', closing, shape⟩ := third.value.isDict_iff.mp display
    simp only [literal, Option.map_some, Expr.elements, shape, Option.some.injEq,
      Prod.mk.injEq] at given
    obtain ⟨rfl, rfl⟩ := given
    exact ⟨first, second, third, opening, closing, rfl, literal, shape⟩
  · cases given

inductive Judged (tagger : Text) (function : Expr) (arguments : List Argument) : Verdict → Prop
  | plain (notDeclared : declares tagger function arguments = false) :
      Judged tagger function arguments .plain
  | malformed (reason : Malformation) (declared : declares tagger function arguments = true)
      (failed : malformation? arguments = some reason) :
      Judged tagger function arguments (.malformed reason)
  | classMap (first second third : Argument) (path : Text) (opening : Gap)
      (elements : List Entry) (closing : Gap)
      (declared : declares tagger function arguments = true)
      (passed : malformation? arguments = none)
      (three : arguments = [first, second, third])
      (literal : second.value.text? = some path)
      (display : third.value.stripped = .dict opening elements closing) :
      Judged tagger function arguments (.classMap path opening elements)

theorem judged_of_unpack (tagger : Text) (function : Expr) (arguments : List Argument)
    (found : Verdict) (declared : declares tagger function arguments = true)
    (given : unpack arguments = .ok found) : Judged tagger function arguments found := by
  unfold unpack at given
  split at given
  · rename_i first second third
    have tested := malformation?_of_three first second third
    by_cases positional : first.isPositional && second.isPositional && third.isPositional
    · rw [if_pos positional] at given tested
      rcases read : second.value.stringValue with fault | (_ | path)
      · simp [read] at given
      · simp only [read, Except.ok.injEq] at given
        rw [Expr.text?_of_stringValue _ _ read] at tested
        subst given
        exact .malformed .path declared tested
      · simp only [read] at given
        have isText := Expr.text?_of_stringValue _ _ read
        rw [isText, Option.isSome_some, if_pos rfl] at tested
        split at given
        · rename_i opening elements closing shape
          have isDict : third.value.isDict = true := by simp [Expr.isDict, shape]
          rw [if_pos isDict] at tested
          cases given
          exact .classMap first second third path opening elements closing declared tested rfl
            isText shape
        · rename_i other
          have noDict : ¬ third.value.isDict = true := by
            rw [Expr.isDict_iff]
            rintro ⟨opening, elements, closing, shape⟩
            exact other opening elements closing shape
          rw [if_neg noDict] at tested
          cases given
          exact .malformed .classMap declared tested
    · rw [if_neg positional] at given tested
      cases given
      exact .malformed .notPositional declared tested
  · rename_i other
    have notThree : arguments.length ≠ 3 := by
      intro three
      exact other _ _ _ (arguments.eq_getElem_of_length_eq_three three)
    cases given
    exact .malformed _ declared (malformation?_of_count arguments notThree)

theorem judged_of_verdict (tagger : Text) (function : Expr) (arguments : List Argument)
    (found : Verdict) (given : verdict tagger function arguments = .ok found) :
    Judged tagger function arguments found := by
  unfold verdict at given
  by_cases declared : declares tagger function arguments = true
  · rw [if_pos declared] at given
    exact judged_of_unpack tagger function arguments found declared given
  · rw [if_neg declared] at given
    cases given
    exact .plain (by simpa using declared)

def Verdict.classMap? : Verdict → Option (Text × List Entry)
  | .classMap path _ elements => some (path, elements)
  | _ => none

theorem classMap?_of_verdict (tagger : Text) (function : Expr) (arguments : List Argument)
    (found : Verdict) (given : verdict tagger function arguments = .ok found) :
    classMap? tagger function arguments = found.classMap? := by
  cases judged_of_verdict tagger function arguments found given with
  | plain notDeclared => simp [classMap?, notDeclared, Verdict.classMap?]
  | malformed reason declared failed => simp [classMap?, failed, Verdict.classMap?]
  | classMap first second third path opening elements closing declared passed three literal
      display =>
      have found : third.value.elements = elements := by simp [Expr.elements, display]
      subst three
      simp [classMap?, declared, passed, literal, found, Verdict.classMap?]

end Call

/-- The class map that an expression declares, if it is a call that declares
one. -/
def Expr.classMap? (tagger : Text) : Expr → Option (Text × List Entry)
  | .call function _ _ arguments _ => Call.classMap? tagger function arguments
  | _ => none

/-! ## Entries -/

namespace Entry

/-- The key and the class name of an entry that is a name with a string
literal. -/
def className? : Entry → Option (Text × Text)
  | .pair key _ _ value _ => key.name?.bind fun name => value.text?.map fun c => (name, c)
  | .spread _ _ _ => none

/-- Whether the entry is a lookup of the path by the loader already. -/
def isLookup (path loader : Text) : Entry → Bool
  | .pair _ _ _ value _ =>
      match Lookup.recognizes value loader (some path) with
      | .ok found => found
      | .error _ => false
  | .spread _ _ _ => false

def replacement? (path loader : Text) (entry : Entry) : Option Expr :=
  (className? entry).map fun found => Lookup.expr (.name loader) path found.2

/-- The defect of an entry, with the key that it is reported under. -/
def defect? (path loader : Text) (entry : Entry) : Option (Defect × Text) :=
  match className? entry with
  | some (name, className) => if className.isEmpty then some (.emptyClassName, name) else none
  | none => if isLookup path loader entry then none else some (.malformedEntry, keyText entry)

def diagnostic? (path loader : Text) (position : Position) (entry : Entry) : Option Diagnostic :=
  (defect? path loader entry).map fun found => ⟨found.1, some path, found.2, position, none⟩

def fault? (path loader : Text) (entry : Entry) : Option EntryFault :=
  match judge path loader entry .origin with
  | .error fault => some fault
  | .ok _ => none

/-- What the fault of a pair depends on. -/
theorem fault?_pair_congr (path loader : Text) (key key' value value' : Expr)
    (before before' after after' : Gap) (comma comma' : Option Comma)
    (sameName : key.name? = key'.name?)
    (sameLookup : Lookup.recognizes value loader (some path) =
      Lookup.recognizes value' loader (some path))
    (sameValue : value.stringValue = value'.stringValue) :
    fault? path loader (.pair key before after value comma) =
      fault? path loader (.pair key' before' after' value' comma') := by
  simp only [fault?, judge, sameName, sameLookup, sameValue]
  rcases Lookup.recognizes value' loader (some path) with fault | recognized
  · rfl
  · cases recognized with
    | true => rfl
    | false =>
        rcases value'.stringValue with fault | className
        · rfl
        · cases className with
          | none => rfl
          | some className => cases key'.name? <;> rfl

theorem make_eq (path className loader : Text) (value : Expr)
    (given : Lookup.make path className loader = .ok value) :
    value = Lookup.expr (.name loader) path className := by
  unfold Lookup.make Expr.ofName at given
  split at given
  · cases given
  · split at given
    · exact (Except.ok.inj given).symm
    · cases given

theorem calls_of_className? (key value : Expr) (before after : Gap) (comma : Option Comma)
    (found : Text × Text)
    (given : className? (.pair key before after value comma) = some found) :
    key.calls = [] ∧ value.calls = [] := by
  simp only [className?, Option.bind_eq_some_iff, Option.map_eq_some_iff] at given
  obtain ⟨name, isName, content, isText, _⟩ := given
  exact ⟨key.calls_of_name? name isName, value.calls_of_text? content isText⟩

theorem denoted_of_pathLiteral? (e : Expr) (loader literal : Text)
    (given : Lookup.pathLiteral? e loader = some literal) : e.denoted = .ok none := by
  unfold Lookup.pathLiteral? at given
  split at given
  · rename_i value gap opening indices closing shape
    rw [← Expr.denoted_stripped, shape]
    rfl
  · cases given

theorem denoted_of_recognizes (e : Expr) (loader path : Text)
    (given : Lookup.recognizes e loader (some path) = .ok true) : e.denoted = .ok none := by
  unfold Lookup.recognizes at given
  split at given
  · cases given
  · rename_i literal found
    exact denoted_of_pathLiteral? e loader literal found

theorem text?_of_recognizes (e : Expr) (loader path : Text)
    (given : Lookup.recognizes e loader (some path) = .ok true) : e.text? = none := by
  simp [Expr.text?, Expr.stringValue, denoted_of_recognizes e loader path given, Except.map]

theorem judge_eq (path loader : Text) (entry : Entry) (position : Position) :
    judge path loader entry position =
      match fault? path loader entry with
      | some fault => .error fault
      | none => .ok ⟨replacement? path loader entry, diagnostic? path loader position entry⟩ := by
  cases entry with
  | spread gap value comma =>
      simp [judge, fault?, malformed, replacement?, diagnostic?, defect?, className?, isLookup]
  | pair key before after value comma =>
      match recognized : Lookup.recognizes value loader (some path) with
      | .error fault => simp [judge, fault?, recognized]
      | .ok true =>
          have noText := text?_of_recognizes value loader path recognized
          simp [judge, fault?, recognized, replacement?, diagnostic?, defect?, className?,
            isLookup, noText]
      | .ok false =>
          match read : value.stringValue with
          | .error fault => simp [judge, fault?, recognized, read]
          | .ok none =>
              have noText := Expr.text?_of_stringValue value none read
              simp [judge, fault?, recognized, read, malformed, replacement?, diagnostic?, defect?,
                className?, isLookup, noText]
          | .ok (some className) =>
              have isText := Expr.text?_of_stringValue value _ read
              match keyName : key.name? with
              | none =>
                  simp [judge, fault?, recognized, read, malformed, replacement?, diagnostic?,
                    defect?, className?, isLookup, keyName]
              | some name =>
                  match made : Lookup.make path className loader with
                  | .error fault => simp [judge, fault?, recognized, read, keyName, named, made]
                  | .ok lookup =>
                      have lookupExact := make_eq path className loader lookup made
                      cases className <;>
                        simp [judge, fault?, recognized, read, keyName, named, made, replacement?,
                          diagnostic?, defect?, className?, isText, lookupExact]

theorem make_of_fault?_none (path loader : Text) (entry : Entry) (name className : Text)
    (sound : fault? path loader entry = none)
    (found : className? entry = some (name, className)) :
    Lookup.make path className loader = .ok (Lookup.expr (.name loader) path className) := by
  cases entry with
  | spread gap value comma => cases found
  | pair key before after value comma =>
      simp only [className?, Option.bind_eq_some_iff, Option.map_eq_some_iff, Prod.mk.injEq]
        at found
      obtain ⟨name', keyName, c, isText, rfl, rfl⟩ := found
      have read : value.stringValue = .ok (some c) := Expr.stringValue_of_text? value c isText
      match recognized : Lookup.recognizes value loader (some path) with
      | .error fault => simp [fault?, judge, recognized] at sound
      | .ok true =>
          have noText := text?_of_recognizes value loader path recognized
          rw [isText] at noText
          cases noText
      | .ok false =>
          match made : Lookup.make path c loader with
          | .error fault => simp [fault?, judge, recognized, read, keyName, named, made] at sound
          | .ok lookup => rw [make_eq path c loader lookup made]

end Entry

end ClassMaps
