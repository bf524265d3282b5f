import ClassMaps.Proofs.Account

/-!
# What the threshold decides

A run is watched through its log, and what the log keeps depends on the
threshold.  Nothing else should.  The first moment of the tour that has a fault
decides how a run ends, and a moment's fault depends on the threshold in one
case: the record of a class map, whose path is shown as markup.  The account at
the end of a run is escaped, and its totals have no brackets, so it can always
be shown.

So two thresholds give the same result unless one of them lets debug records
pass and the path of some class map holds a bracket.
-/

set_option autoImplicit false

namespace ClassMaps

/-- What a run gives, the log aside. -/
def Outcome.result (outcome : Outcome) : Module × List Diagnostic × Nat :=
  (outcome.module, outcome.diagnostics, outcome.resolved)

/-! ## The first fault -/

namespace Run

variable (settings : Settings) (threshold : Int) (m : Module)

theorem tree_error (fault : Fault)
    (first : m.tour.findSome? (Moment.fault? ⟨settings, threshold, m.newline⟩ (some .origin)) =
      some fault) :
    tree settings threshold m = .error fault := by
  have toured := Moment.result_performAll ⟨settings, threshold, m.newline⟩ (some .origin) m.tour
    Session.fresh
  rw [first] at toured
  have visited : ∃ s, Session.visit settings threshold true m Session.fresh = (.error fault, s) := by
    rw [Session.visit_eq, Walk.bind_apply]
    match run : Moment.performAll ⟨settings, threshold, m.newline⟩ (Session.startOf true) m.tour
        Session.fresh with
    | (found, s) =>
        have same : found = .error fault := (congrArg Prod.fst run).symm.trans toured
        exact ⟨s, by rw [same]⟩
  obtain ⟨s, ended⟩ := visited
  have walked : walk settings threshold m Session.fresh = (.error fault, s) := by
    rw [walk, Walk.bind_apply, ended]
  rw [tree, walked]

theorem tree_passes
    (sound : m.tour.findSome? (Moment.fault? ⟨settings, threshold, m.newline⟩ (some .origin)) =
      none) :
    (tree settings threshold m).map Outcome.result =
      .ok (m.resolved settings,
        m.occurrences.flatMap (Occurrence.diagnostics settings m.newline),
        m.calls.countP fun call => (call.classMap? settings.tagger).isSome) := by
  have each := List.findSome?_eq_none_iff.mp sound
  have ran := (tree_ok_iff settings threshold m _).mpr
    ⟨each, closing_shown threshold _, rfl⟩
  rw [ran]
  simp only [Except.map, Outcome.result, Session.diagnostics_toured settings threshold m each,
    Session.resolved_toured]

/-- A run ends as its first fault says, and is otherwise without one. -/
theorem result_tree :
    (tree settings threshold m).map Outcome.result =
      match m.tour.findSome? (Moment.fault? ⟨settings, threshold, m.newline⟩ (some .origin)) with
      | some fault => .error fault
      | none => .ok (m.resolved settings,
          m.occurrences.flatMap (Occurrence.diagnostics settings m.newline),
          m.calls.countP fun call => (call.classMap? settings.tagger).isSome) := by
  match first : m.tour.findSome?
      (Moment.fault? ⟨settings, threshold, m.newline⟩ (some .origin)) with
  | some fault => rw [tree_error settings threshold m fault first]; rfl
  | none => exact tree_passes settings threshold m first

end Run

/-! ## Records of class maps -/

/-- The fault of a record's message as markup. -/
def Record.unshown? (record : Record) : Option MarkupFault :=
  match Markup.render record.message with
  | .error fault => some fault
  | .ok _ => none

theorem Log.fault?_eq (threshold : Int) (record : Record) :
    Log.fault? threshold record =
      if threshold ≤ record.level.number then record.unshown? else none := rfl

theorem Record.bracket_of_unshown? (path : Text) (entries : Nat) (fault : MarkupFault)
    (unshown : (Record.ofClassMap path entries).unshown? = some fault) :
    ∃ c ∈ path, Markup.isBracket c = true := by
  by_contra free
  have opening : ∀ c ∈ text "Rewrote class map for '", Markup.isBracket c = false := by decide
  have middle : ∀ c ∈ text "' (", Markup.isBracket c = false := by decide
  have ending : ∀ c ∈ text " entries)", Markup.isBracket c = false := by decide
  have plain : Markup.Plain (Record.ofClassMap path entries).message := by
    apply Markup.plain_of_noBracket
    intro c member
    simp only [Record.ofClassMap, List.mem_append] at member
    rcases member with (((inText | inPath) | inText) | inNumber) | inText
    · exact opening c inText
    · exact Bool.eq_false_iff.mpr fun bracket => free ⟨c, inPath, bracket⟩
    · exact middle c inText
    · exact Run.isBracket_ofNat entries c inNumber
    · exact ending c inText
  obtain ⟨seen, rendered⟩ := Markup.render_of_plain _ plain
  simp [Record.unshown?, rendered] at unshown

namespace Moment

/-- The fault of a moment at any threshold, if it is not one that the standard
threshold has, too, is that of the record of a class map. -/
theorem fault?_threshold (settings : Settings) (threshold : Int) (newline : Text) (start : Site)
    (moment : Moment) :
    fault? ⟨settings, threshold, newline⟩ start moment =
        fault? ⟨settings, Log.standard, newline⟩ start moment ∨
      threshold ≤ Level.debug.number ∧ ∃ o path elements fault,
        moment.left? = some o ∧ o.classMap? settings.tagger = some (path, elements) ∧
        (Record.ofClassMap path elements.length).unshown? = some fault ∧
        fault? ⟨settings, threshold, newline⟩ start moment = some (.markup fault) := by
  cases moment with
  | enter call => exact .inl rfl
  | leave call =>
      have silent : ∀ path entries,
          Log.fault? Log.standard (.ofClassMap path entries) = none := fun _ _ => rfl
      have level : ∀ path entries,
          (Record.ofClassMap path entries).level.number = Level.debug.number := fun _ _ => rfl
      match declared : call.classMap? settings.tagger with
      | none => simp [fault?, declared]
      | some (path, elements) =>
          by_cases shows : threshold ≤ Level.debug.number
          · cases unshown : (Record.ofClassMap path elements.length).unshown? with
            | none =>
                left
                simp [fault?, declared, silent, Log.fault?_eq, unshown]
            | some fault =>
                refine .inr ⟨shows, call, path, elements, fault, rfl, declared, unshown, ?_⟩
                simp [fault?, declared, Log.fault?_eq, level, shows, unshown]
          · left
            simp [fault?, declared, silent, Log.fault?_eq, level, shows]

theorem findSome?_threshold (settings : Settings) (threshold : Int) (newline : Text) (start : Site)
    (moments : List Moment) :
    moments.findSome? (fault? ⟨settings, threshold, newline⟩ start) =
        moments.findSome? (fault? ⟨settings, Log.standard, newline⟩ start) ∨
      threshold ≤ Level.debug.number ∧ ∃ moment ∈ moments, ∃ o path elements fault,
        moment.left? = some o ∧ o.classMap? settings.tagger = some (path, elements) ∧
        (Record.ofClassMap path elements.length).unshown? = some fault ∧
        moments.findSome? (fault? ⟨settings, threshold, newline⟩ start) =
          some (.markup fault) := by
  induction moments with
  | nil => exact .inl rfl
  | cons moment rest ih =>
      simp only [List.findSome?_cons]
      rcases fault?_threshold settings threshold newline start moment with
        same | ⟨shows, o, path, elements, fault, left, declared, unshown, found⟩
      · rw [same]
        cases fault? ⟨settings, Log.standard, newline⟩ start moment with
        | some fault => exact .inl rfl
        | none =>
            rcases ih with same | ⟨shows, moment', member, rest'⟩
            · exact .inl same
            · exact .inr ⟨shows, moment', List.mem_cons_of_mem moment member, rest'⟩
      · rw [found]
        exact .inr ⟨shows, moment, by simp, o, path, elements, fault, left, declared, unshown, rfl⟩

end Moment

/-! ## Two thresholds -/

namespace Run

/-- A run is ended by its log: debug records pass, and the record of a class map
that the source declares is no sound markup, because its path holds a bracket. -/
def EndedByLog (settings : Settings) (threshold : Int) (code : Text) : Prop :=
  threshold ≤ Level.debug.number ∧ ∃ m call path elements fault,
    Module.parse code = .ok m ∧ call ∈ m.calls ∧
    call.classMap? settings.tagger = some (path, elements) ∧
    (∃ c ∈ path, Markup.isBracket c = true) ∧
    Markup.render (Record.ofClassMap path elements.length).message = .error fault ∧
    source settings threshold code = .error (.walk (.markup fault))

theorem result_tree_standard (settings : Settings) (threshold : Int) (m : Module) :
    (tree settings threshold m).map Outcome.result =
        (tree settings Log.standard m).map Outcome.result ∨
      threshold ≤ Level.debug.number ∧ ∃ call ∈ m.calls, ∃ path elements fault,
        call.classMap? settings.tagger = some (path, elements) ∧
        (Record.ofClassMap path elements.length).unshown? = some fault ∧
        tree settings threshold m = .error (.markup fault) := by
  rcases Moment.findSome?_threshold settings threshold m.newline (some .origin) m.tour with
    same | ⟨shows, moment, inTour, o, path, elements, fault, left, declared, unshown, first⟩
  · left
    rw [result_tree, result_tree, same]
  · exact .inr ⟨shows, o.call, Moment.call_mem_calls m moment o inTour (.inr left), path, elements,
      fault, declared, unshown, tree_error settings threshold m _ first⟩

theorem result_source_standard (settings : Settings) (threshold : Int) (code : Text) :
    (source settings threshold code).map Outcome.result =
        (source settings Log.standard code).map Outcome.result ∨
      EndedByLog settings threshold code := by
  match parsed : Module.parse code with
  | .error fault => simp [source, parsed]
  | .ok m =>
      have whole : ∀ threshold', (source settings threshold' code).map Outcome.result =
          ((tree settings threshold' m).map Outcome.result).mapError RunFault.walk := by
        intro threshold'
        simp only [source, parsed]
        cases tree settings threshold' m <;> rfl
      rcases result_tree_standard settings threshold m with
        same | ⟨shows, call, member, path, elements, fault, declared, unshown, ended⟩
      · left
        rw [whole, whole, same]
      · have rendered : Markup.render (Record.ofClassMap path elements.length).message =
            .error fault := by
          unfold Record.unshown? at unshown
          split at unshown
          · rename_i fault' failed
            rw [failed, Option.some.inj unshown]
          · cases unshown
        exact .inr ⟨shows, m, call, path, elements, fault, parsed, member, declared,
          Record.bracket_of_unshown? path _ fault unshown, rendered, by
            simp only [source, parsed, ended]⟩

end Run

/-- Runs of a source at two thresholds give the same tree, diagnostics and count,
or fail alike, unless the log ends one of them. -/
theorem Run.source_threshold (settings : Settings) (threshold threshold' : Int) (code : Text) :
    (Run.source settings threshold code).map Outcome.result =
        (Run.source settings threshold' code).map Outcome.result ∨
      Run.EndedByLog settings threshold code ∨ Run.EndedByLog settings threshold' code := by
  rcases Run.result_source_standard settings threshold code with same | ended
  · rcases Run.result_source_standard settings threshold' code with same' | ended
    · exact .inl (same.trans same'.symm)
    · exact .inr (.inr ended)
  · exact .inr (.inl ended)

namespace Sample

/-- A class map whose path reads as a closing tag. -/
def tagged : Text := text "A2(t, '[/x]', \x7bk: 'a'\x7d)\n"

def taggedOutput : Text := text "A2(t, '[/x]', \x7bk: require(\"[/x]\")[\"a\"]\x7d)\n"

end Sample

/-- One source that is run at the standard threshold and fails at the debug one. -/
theorem Run.source_threshold_matters :
    (∃ outcome, Run.source Sample.settings Log.standard Sample.tagged = .ok outcome ∧
      outcome.diagnostics = [] ∧ outcome.resolved = 1 ∧ outcome.code = Sample.taggedOutput) ∧
    Run.source Sample.settings Level.debug.number Sample.tagged =
      .error (.walk (.markup (.unmatched (text "/x") 23))) := by
  constructor
  · obtain ⟨outcome, given, seen⟩ := Sample.returns_of_seen
      (Run.source Sample.settings Log.standard Sample.tagged)
      (fun outcome => (outcome.diagnostics, outcome.resolved, outcome.code))
      ([], 1, Sample.taggedOutput) (by decide +kernel)
    simp only [Prod.mk.injEq] at seen
    exact ⟨outcome, given, seen⟩
  · have seen : (Run.source Sample.settings Level.debug.number Sample.tagged).map Outcome.resolved =
        .error (.walk (.markup (.unmatched (text "/x") 23))) := by decide +kernel
    cases run : Run.source Sample.settings Level.debug.number Sample.tagged with
    | ok outcome => simp [run, Except.map] at seen
    | error fault => simpa [run, Except.map] using seen

end ClassMaps
