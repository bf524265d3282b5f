import ClassMaps.Proofs.Idempotence

/-!
# What class maps say

A class map gives class names under keys.  Read so, an entry says the same
before and after it is resolved: the class name that its literal denotes is
the one that the index of its lookup denotes.  A run keeps what all class maps
of a tree say, however their literals are spelled.
-/

set_option autoImplicit false

namespace ClassMaps

/-- The spelling of the index of a lookup. -/
def Lookup.indexLiteral? (e : Expr) : Option Text :=
  match e.stripped with
  | .subscript _ _ _ indices _ => Lookup.soleLiteral? indices
  | _ => none

/-- What an entry under a name says in the class map for `path`: the source of
its key, and what its literal denotes, or the index of its lookup. -/
def Entry.reading? (path loader : Text) (entry : Entry) :
    Option (Text × Except LiteralFault Denoted) :=
  match entry with
  | .spread _ _ _ => none
  | .pair key _ _ value _ =>
      match key.name?, value.text? with
      | none, _ => none
      | some _, some className => some (Entry.keyText entry, .ok (.text className))
      | some _, none =>
          if Entry.isLookup path loader entry then
            (Lookup.indexLiteral? value).map fun literal =>
              (Entry.keyText entry, Literal.evaluate literal)
          else none

/-- What a class map says: a class name under the source of each key that is a
name. -/
structure Reading where
  path : Text
  names : List (Text × Except LiteralFault Denoted)
deriving DecidableEq

def Expr.reading? (settings : Settings) (call : Expr) : Option Reading :=
  (call.classMap? settings.tagger).map fun found =>
    ⟨found.1, found.2.filterMap (Entry.reading? found.1 settings.loader)⟩

/-- What the class maps of a module say, in pre-order. -/
def Module.readings (settings : Settings) (m : Module) : List Reading :=
  m.calls.filterMap (Expr.reading? settings)

/-! ## Resolved class maps -/

section Resolved
variable (settings : Settings)

theorem Lookup.indexLiteral?_resolved (path : Option Text) (e : Expr) :
    Lookup.indexLiteral? (e.resolved settings path) = Lookup.indexLiteral? e := by
  unfold Lookup.indexLiteral?
  rw [Expr.stripped_resolved]
  cases e.stripped <;> simp only [Expr.resolved, Lookup.soleLiteral?_resolved]

theorem Lookup.indexLiteral?_expr (loader path className : Text) :
    Lookup.indexLiteral? (Lookup.expr (.name loader) path className) =
      some (Literal.quote className) := rfl

variable (path : Text) (entry : Entry)

theorem Entry.reading?_of_className? (name className : Text)
    (found : Entry.className? entry = some (name, className)) :
    Entry.reading? path settings.loader entry =
      some (Entry.keyText entry, .ok (.text className)) := by
  cases entry with
  | spread gap value comma => cases found
  | pair key before after value comma =>
      simp only [Entry.className?, Option.bind_eq_some_iff, Option.map_eq_some_iff,
        Prod.mk.injEq] at found
      obtain ⟨keyName, isName, content, isText, rfl, rfl⟩ := found
      simp [Entry.reading?, isName, isText]

/-- The lookup of a class name is read as the class name. -/
theorem Entry.reading?_withValue (name className : Text)
    (found : Entry.className? entry = some (name, className))
    (wholePath : Text.hasSurrogate path = false)
    (wholeName : Text.hasSurrogate className = false) :
    Entry.reading? path settings.loader
        (entry.withValue (Lookup.expr (.name settings.loader) path className)) =
      some (Entry.keyText entry, .ok (.text className)) := by
  have recognized := Lookup.recognizes_expr settings path className wholePath
  have denotes := Literal.evaluate_quote className wholeName
  cases entry with
  | spread gap value comma => cases found
  | pair key before after value comma =>
      simp only [Entry.className?, Option.bind_eq_some_iff] at found
      obtain ⟨keyName, isName, _⟩ := found
      simp [Element.withValue, Entry.reading?, Entry.isLookup, isName, Lookup.text?_expr, recognized,
        Lookup.indexLiteral?_expr, denotes, Entry.keyText]

theorem Entry.reading?_resolved_of_noClassName (wholePath : Text.hasSurrogate path = false)
    (noName : Entry.className? entry = none) :
    Entry.reading? path settings.loader (Element.resolved settings (some path) entry) =
      Entry.reading? path settings.loader entry := by
  have isLookup := Entry.isLookup_resolved settings path entry fun _ => wholePath
  rw [noName, Option.isSome_none, Bool.false_or] at isLookup
  rw [Entry.resolved_of_noClassName settings (some path) entry noName] at isLookup ⊢
  cases entry with
  | spread gap value comma => rfl
  | pair key before after value comma =>
      cases isName : key.name? with
      | none => simp [Element.resolved, Entry.reading?, Expr.name?_resolved, isName]
      | some name =>
          have keyKept := key.resolved_of_name? settings none name isName
          simp only [Element.resolved, keyKept, Option.bind_none, Option.getD_none] at isLookup ⊢
          simp only [Entry.reading?, isName, isLookup, Expr.text?_resolved,
            Lookup.indexLiteral?_resolved, Entry.keyText]

theorem Entry.reading?_resolved (wholePath : Text.hasSurrogate path = false)
    (wholeName : ∀ name className, Entry.className? entry = some (name, className) →
      Text.hasSurrogate className = false) :
    Entry.reading? path settings.loader (Element.resolved settings (some path) entry) =
      Entry.reading? path settings.loader entry := by
  match found : Entry.className? entry with
  | none => exact Entry.reading?_resolved_of_noClassName settings path entry wholePath found
  | some (name, className) =>
      rw [Entry.resolved_of_className? settings path entry name className found,
        Entry.reading?_of_className? settings path entry name className found,
        Entry.reading?_withValue settings path entry name className found wholePath
          (wholeName name className found)]

end Resolved

/-- Neither the path of a class map nor any of its class names holds a lone
surrogate. -/
def Expr.IsWhole (settings : Settings) (call : Expr) : Prop :=
  ∀ path elements, call.classMap? settings.tagger = some (path, elements) →
    Text.hasSurrogate path = false ∧
    ∀ entry ∈ elements, ∀ name className, Entry.className? entry = some (name, className) →
      Text.hasSurrogate className = false

theorem Expr.reading?_resolved (settings : Settings) (call : Expr)
    (whole : call.IsWhole settings) :
    (call.resolved settings none).reading? settings = call.reading? settings := by
  unfold Expr.reading?
  rw [call.classMap?_resolved]
  match declared : call.classMap? settings.tagger with
  | none => rfl
  | some (path, elements) =>
      obtain ⟨wholePath, wholeNames⟩ := whole path elements declared
      have each : ∀ entry ∈ elements,
          Entry.reading? path settings.loader (Element.resolved settings (some path) entry) =
            Entry.reading? path settings.loader entry := by
        intro entry member
        exact Entry.reading?_resolved settings path entry wholePath (wholeNames entry member)
      simp only [Option.map_some, List.filterMap_map, Option.some.injEq, Reading.mk.injEq, true_and]
      exact List.filterMap_congr each

theorem Expr.reading?_of_notDeclared (settings : Settings) (call : Expr)
    (notDeclared : call.declares settings.tagger = false) : call.reading? settings = none := by
  rw [Expr.reading?, call.classMap?_of_notDeclared settings.tagger notDeclared]
  rfl

theorem Module.readings_eq_declared (settings : Settings) (m : Module) :
    m.readings settings =
      (m.calls.filter (Expr.declares settings.tagger)).filterMap (Expr.reading? settings) := by
  rw [Module.readings, List.filterMap_filter]
  apply List.filterMap_congr
  intro call _
  cases declared : call.declares settings.tagger with
  | true => rfl
  | false => exact call.reading?_of_notDeclared settings declared

/-- A run keeps what the class maps of its tree say. -/
theorem Run.readings_tree (settings : Settings) (threshold : Int) (m : Module) (outcome : Outcome)
    (ran : Run.tree settings threshold m = .ok outcome)
    (whole : ∀ call ∈ m.calls, call.IsWhole settings) :
    outcome.module.readings settings = m.readings settings := by
  have each : ∀ call ∈ m.calls.filter (Expr.declares settings.tagger),
      (call.resolved settings none).reading? settings = call.reading? settings := by
    intro call member
    exact call.reading?_resolved settings (whole call (List.mem_filter.mp member).1)
  rw [Run.module_tree settings threshold m outcome ran, Module.readings_eq_declared,
    Module.readings_eq_declared, m.declared_resolved, List.filterMap_map]
  exact List.filterMap_congr each

namespace Sample

/-- Class names in several spellings, a lookup, and a path beyond the basic
plane in a class map inside. -/
def spelled : Text :=
  text ("A2(t, r'p\\q', \x7bx: 'a\\x22' \"\\\\b\", y: require('p\\\\q')['c'], " ++
    "z: A2(t, '\\U0001F600', \x7bv: '''d'\\te''', w: R\"\\f\"\x7d), 3: 'g'\x7d)\n")

def spelledReadings : List Reading :=
  [⟨text "p\\q",
    [(text "x", .ok (.text (text "a\"\\b"))), (text "y", .ok (.text (text "c")))]⟩,
   ⟨text "😀",
    [(text "v", .ok (.text (text "d'\te"))), (text "w", .ok (.text (text "\\f")))]⟩]

end Sample

theorem Run.readings_tree_sample :
    ∃ m outcome, Module.parse Sample.spelled = .ok m ∧
      Run.tree Sample.settings 0 m = .ok outcome ∧
      (∀ call ∈ m.calls, call.IsWhole Sample.settings) ∧ outcome.resolved = 2 ∧
      m.readings Sample.settings = Sample.spelledReadings ∧
      outcome.module.readings Sample.settings = Sample.spelledReadings := by
  obtain ⟨m, parsed, seen⟩ := Sample.returns_of_seen (Module.parse Sample.spelled)
    (fun m => (m.readings Sample.settings,
      (Run.tree Sample.settings 0 m).toOption.map (·.resolved),
      m.calls.all fun call => (call.classMap? (text "t")).all fun found =>
        !Text.hasSurrogate found.1 && found.2.all fun entry =>
          (Entry.className? entry).all fun given => !Text.hasSurrogate given.2))
    (Sample.spelledReadings, some 2, true) (by decide +kernel)
  simp only [Prod.mk.injEq] at seen
  obtain ⟨readings, returns, whole⟩ := seen
  obtain ⟨outcome, ran, resolved⟩ := Sample.returns_of_seen _ _ _ returns
  have wholeCalls : ∀ call ∈ m.calls, call.IsWhole Sample.settings := by
    intro call member path elements declared
    have declared' : call.classMap? (text "t") = some (path, elements) := declared
    have each := List.all_eq_true.mp whole call member
    simp only [declared', Option.all_some, Bool.and_eq_true, Bool.not_eq_true',
      List.all_eq_true] at each
    refine ⟨each.1, ?_⟩
    intro entry present name className found
    simpa [found] using each.2 entry present
  refine ⟨m, outcome, parsed, ran, wholeCalls, resolved, readings, ?_⟩
  rw [Run.readings_tree Sample.settings 0 m outcome ran wholeCalls, readings]

end ClassMaps
