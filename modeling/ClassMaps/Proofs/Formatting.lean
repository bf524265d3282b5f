import ClassMaps.Proofs.Erasure
import ClassMaps.Proofs.Verbosity

/-!
# Runs of differently formatted trees

A run is put together from what its moments come to: the fault of each, what its
diagnostics say, and whether a class map is counted.  None of this depends on
where a moment stands in the source, and none on the format of its call.  So a
tree and what is left of it once its format is erased come to the same, moment by
moment, and two trees of which the same is left are run alike.

The format shows in two places only: in the positions of diagnostics, and in the
key of a malformed entry, which is a piece of the source.
-/

set_option autoImplicit false

namespace ClassMaps

/-- What a diagnostic says, with the key if that is a name. -/
structure Gist where
  brief : Brief
  key : Option Text
deriving DecidableEq

def Diagnostic.gist (d : Diagnostic) : Gist :=
  ⟨d.brief, if d.defect = .malformedEntry then none else some d.key⟩

def Call.gists (settings : Settings) (function : Expr) (arguments : List Argument) : List Gist :=
  (Call.diagnostics settings function arguments .origin).map Diagnostic.gist

/-- What a run gives, its format and the log aside. -/
def Outcome.gist (erasure : Erasure) (outcome : Outcome) : List (Part Expr) × List Gist × Nat :=
  (outcome.module.erased erasure, outcome.diagnostics.map Diagnostic.gist, outcome.resolved)

/-! ## What moments come to -/

/-- What a moment of a tour comes to, wherever it stands. -/
structure Sight where
  fault : Option Fault
  gists : List Gist
  counted : Bool

section Sights
variable (settings : Settings) (threshold : Int)

def Call.entering (function : Expr) (arguments : List Argument) : Sight :=
  ⟨fault? settings function arguments, gists settings function arguments,
    (classMap? settings.tagger function arguments).isSome⟩

def Call.leaving (function : Expr) (arguments : List Argument) : Sight :=
  ⟨(classMap? settings.tagger function arguments).bind fun (path, elements) =>
      (Log.fault? threshold (.ofClassMap path elements.length)).map Fault.markup,
    [], false⟩

mutual

/-- What the moments of an expression come to, in the order of its tour. -/
def Expr.sights : Expr → List Sight
  | .name _ => []
  | .string _ => []
  | .formatted parts => Part.sightsAll parts
  | .concat left _ right => left.sights ++ right.sights
  | .call function _ _ arguments _ =>
      Call.entering settings function arguments :: (function.sights ++ Slot.sightsAll arguments) ++
        [Call.leaving settings threshold function arguments]
  | .subscript value _ _ indices _ => value.sights ++ Slot.sightsAll indices
  | .dict _ elements _ => Element.sightsAll elements
  | .other _ parts => Part.sightsAll parts
  | .paren _ inner _ => inner.sights

def Slot.sightsAll : List (Slot Expr) → List Sight
  | [] => []
  | ⟨_, value, _⟩ :: rest => value.sights ++ Slot.sightsAll rest

def Element.sightsAll : List (Element Expr) → List Sight
  | [] => []
  | .pair key _ _ value _ :: rest => key.sights ++ value.sights ++ Element.sightsAll rest
  | .spread _ value _ :: rest => value.sights ++ Element.sightsAll rest

def Part.sightsAll : List (Part Expr) → List Sight
  | [] => []
  | .gap _ :: rest => Part.sightsAll rest
  | .token _ :: rest => Part.sightsAll rest
  | .expr value :: rest => value.sights ++ Part.sightsAll rest

end

namespace Moment

def sight : Moment → Sight
  | .enter o => Call.entering settings o.function o.arguments
  | .leave o => Call.leaving settings threshold o.function o.arguments

theorem map_sight_tour (newline : Text) :
    (∀ (e : Expr) (before : Text),
      (e.tour newline before).map (sight settings threshold) = e.sights settings threshold) ∧
    (∀ (slots : List Argument) (before : Text),
      (Slot.tourAll newline before slots).map (sight settings threshold) =
        Slot.sightsAll settings threshold slots) ∧
    (∀ (elements : List Entry) (before : Text),
      (Element.tourAll newline before elements).map (sight settings threshold) =
        Element.sightsAll settings threshold elements) ∧
    (∀ (parts : List (Part Expr)) (before : Text),
      (Part.tourAll newline before parts).map (sight settings threshold) =
        Part.sightsAll settings threshold parts) := by
  apply Expr.tree_induction
  all_goals
    intros
    simp_all [Expr.tour, Slot.tourAll, Element.tourAll, Part.tourAll, Expr.sights, Slot.sightsAll,
      Element.sightsAll, Part.sightsAll, sight]

theorem fault_sight (newline : Text) (moment : Moment) :
    (moment.sight settings threshold).fault =
      moment.fault? ⟨settings, threshold, newline⟩ (some .origin) := by
  cases moment with
  | enter o => exact (o.fault?_checks ⟨settings, threshold, newline⟩ .origin).symm
  | leave o => rfl

theorem flatMap_gists (newline : Text) (moments : List Moment) :
    (moments.map (sight settings threshold)).flatMap Sight.gists =
      ((moments.filterMap entered?).flatMap (Occurrence.diagnostics settings newline)).map
        Diagnostic.gist := by
  induction moments with
  | nil => rfl
  | cons moment rest ih =>
      simp only [List.map_cons, List.flatMap_cons, ih, List.filterMap_cons]
      cases moment with
      | enter o =>
          have own := o.map_diagnostics Diagnostic.gist .origin (fun _ => rfl) settings newline
          simp only [sight, Call.entering, entered?, List.flatMap_cons, List.map_append, own,
            Call.gists]
      | leave o => rfl

theorem countP_counted (moments : List Moment) :
    (moments.map (sight settings threshold)).countP Sight.counted =
      (moments.filterMap entered?).countP fun o => (o.classMap? settings.tagger).isSome := by
  induction moments with
  | nil => rfl
  | cons moment rest ih =>
      simp only [List.map_cons, List.countP_cons, ih, List.filterMap_cons]
      cases moment with
      | enter o =>
          simp only [sight, Call.entering, entered?, List.countP_cons]
          rfl
      | leave o => rfl

end Moment

/-- A run, its format aside, is put together from what its moments come to. -/
theorem Run.gist_tree (erasure : Erasure) (m : Module) :
    (Run.tree settings threshold m).map (Outcome.gist erasure) =
      match (Part.sightsAll settings threshold m.parts).findSome? Sight.fault with
      | some fault => .error fault
      | none => .ok (Part.resolvedAll settings (m.erased erasure),
          (Part.sightsAll settings threshold m.parts).flatMap Sight.gists,
          (Part.sightsAll settings threshold m.parts).countP Sight.counted) := by
  have toured : m.tour.map (Moment.sight settings threshold) =
      Part.sightsAll settings threshold m.parts :=
    (Moment.map_sight_tour settings threshold m.newline).2.2.2 m.parts []
  have faults : Sight.fault ∘ Moment.sight settings threshold =
      Moment.fault? ⟨settings, threshold, m.newline⟩ (some .origin) :=
    funext (Moment.fault_sight settings threshold m.newline)
  have counted : (m.tour.filterMap Moment.entered?).countP
      (fun o => (o.classMap? settings.tagger).isSome) =
        m.calls.countP fun call => (call.classMap? settings.tagger).isSome := by
    rw [← m.map_call_occurrences, List.countP_map]
    rfl
  have result := congrArg (Except.map fun (found : Module × List Diagnostic × Nat) =>
    (found.1.erased erasure, found.2.1.map Diagnostic.gist, found.2.2))
      (Run.result_tree settings threshold m)
  have left : (Run.tree settings threshold m).map (Outcome.gist erasure) =
      ((Run.tree settings threshold m).map Outcome.result).map
        fun found => (found.1.erased erasure, found.2.1.map Diagnostic.gist, found.2.2) := by
    cases Run.tree settings threshold m <;> rfl
  rw [left, result, ← toured, List.findSome?_map, faults,
    Moment.flatMap_gists settings threshold m.newline, Moment.countP_counted, counted]
  cases m.tour.findSome? (Moment.fault? ⟨settings, threshold, m.newline⟩ (some .origin)) with
  | some fault => rfl
  | none => simp only [Except.map, m.erased_resolved, Module.occurrences]

end Sights

/-! ## Erasing -/

section Erasing
variable (erasure : Erasure) (settings : Settings) (threshold : Int)

theorem Entry.gist_diagnostic?_erased (path loader : Text) (p : Position) (entry : Entry) :
    (Entry.diagnostic? path loader p (Element.erased erasure entry)).map Diagnostic.gist =
      (Entry.diagnostic? path loader p entry).map Diagnostic.gist := by
  simp only [Entry.diagnostic?, Entry.defect?, Entry.className?_erased, Entry.isLookup_erased]
  cases Entry.className? entry with
  | some found => rfl
  | none =>
      -- The keys differ here, and a malformed entry's key is left out.
      cases Entry.isLookup path loader entry <;> rfl

theorem Call.gists_erased (function : Expr) (arguments : List Argument) :
    gists settings (function.erased erasure) (Slot.erasedAll erasure arguments) =
      gists settings function arguments := by
  simp only [gists, diagnostics, declares_erased, malformation?_erased, classMap?_erased]
  split
  · cases malformation? arguments with
    | some reason => rfl
    | none =>
        cases classMap? settings.tagger function arguments with
        | none => rfl
        | some found =>
            simp only [Option.map_some, List.map_filterMap, List.filterMap_map, Function.comp_def,
              Entry.gist_diagnostic?_erased]
  · rfl

theorem Call.entering_erased (function : Expr) (arguments : List Argument) :
    entering settings (function.erased erasure) (Slot.erasedAll erasure arguments) =
      entering settings function arguments := by
  simp only [entering, fault?_erased, gists_erased, classMap?_erased, Option.isSome_map]

theorem Call.leaving_erased (function : Expr) (arguments : List Argument) :
    leaving settings threshold (function.erased erasure) (Slot.erasedAll erasure arguments) =
      leaving settings threshold function arguments := by
  simp only [leaving, classMap?_erased]
  cases classMap? settings.tagger function arguments with
  | none => rfl
  | some found => simp only [Option.map_some, Option.bind_some, List.length_map]

theorem Part.sightsAll_row (kind : Row) (parts : List (Part Expr)) :
    Part.sightsAll settings threshold (erasure.row kind parts) =
      Part.sightsAll settings threshold parts := by
  have ofExprs : ∀ row : List (Part Expr), Part.sightsAll settings threshold row =
      (Part.exprs row).flatMap (Expr.sights settings threshold) := by
    intro row
    induction row with
    | nil => rfl
    | cons part rest ih => cases part <;> simp [Part.sightsAll, Part.exprs, ih]
  rw [ofExprs, ofExprs, erasure.exprs_row]

theorem sights_erased :
    (∀ e : Expr, (e.erased erasure).sights settings threshold = e.sights settings threshold) ∧
    (∀ slots : List Argument, Slot.sightsAll settings threshold (Slot.erasedAll erasure slots) =
      Slot.sightsAll settings threshold slots) ∧
    (∀ elements : List Entry,
      Element.sightsAll settings threshold (Element.erasedAll erasure elements) =
        Element.sightsAll settings threshold elements) ∧
    (∀ parts : List (Part Expr),
      Part.sightsAll settings threshold (Part.erasedAll erasure parts) =
        Part.sightsAll settings threshold parts) := by
  apply Expr.tree_induction
  all_goals
    intros
    simp_all only [Expr.erased, Slot.erasedAll, Element.erasedAll, Part.erasedAll, Expr.sights,
      Slot.sightsAll, Element.sightsAll, Part.sightsAll, Part.sightsAll_row,
      Call.entering_erased, Call.leaving_erased]

theorem Module.sights_erased (m : Module) :
    Part.sightsAll settings threshold (m.erased erasure) =
      Part.sightsAll settings threshold m.parts := by
  rw [Module.erased, Part.sightsAll_row, (ClassMaps.sights_erased erasure settings threshold).2.2.2]

end Erasing

/-- Two trees of which the same is left without their format are run alike: both
runs end with the same fault, or both return, and then the same is left of the
resolved trees, the same number of class maps is counted, and the diagnostics say
the same one by one.  Which tokens of a row count as format, such as trailing commas
or the parentheses around imported names, is for the erasure to say. -/
theorem Run.tree_erased (erasure : Erasure) (settings : Settings) (threshold : Int)
    (m m' : Module) (same : m.erased erasure = m'.erased erasure) :
    (Run.tree settings threshold m).map (Outcome.gist erasure) =
      (Run.tree settings threshold m').map (Outcome.gist erasure) := by
  rw [Run.gist_tree, Run.gist_tree, ← m.sights_erased erasure, ← m'.sights_erased erasure, same]

namespace Sample

def spaced : Text := text "z = [1, A2(t, 'p', \x7bx: '', **w\x7d)]\n"

/-- The same with other gaps and line breaks, more parentheses and commas, and no
line break at the end. -/
def broken : Text :=
  text ("z=[\r\n  1,\r\n  (A2)((t), ('p'), \x7b(x): (''), ** w,\x7d,),  # c\r\n]")

/-- What is left of both. -/
def unformatted : List (Part Expr) :=
  [.expr (.name (text "z")), .token (sign '='), .expr (.other .list [.token (sign '['),
    .expr (.other .atom [.token (sign '1')]), .token (sign ','),
    .expr (declaration (text "'p'")
      [.pair (.name (text "x")) [] [] (.string (text "''")) none,
       .spread [] (.name (text "w")) none]),
    .token (sign ']')]), .token [], .token []]

end Sample

theorem Run.tree_erased_sample :
    ∃ m m' outcome outcome', Module.parse Sample.spaced = .ok m ∧
      Module.parse Sample.broken = .ok m' ∧
      Run.tree Sample.settings Log.standard m = .ok outcome ∧
      Run.tree Sample.settings Log.standard m' = .ok outcome' ∧
      outcome.diagnostics.map Diagnostic.gist =
        [⟨⟨.emptyClassName, some (text "p"), none⟩, some (text "x")⟩,
          ⟨⟨.malformedEntry, some (text "p"), none⟩, none⟩] ∧
      outcome'.gist .layout = outcome.gist .layout := by
  obtain ⟨m, parsed, seen⟩ := Sample.returns_of_seen (Module.parse Sample.spaced)
    (fun m => (Part.sameAll (m.erased .layout) Sample.unformatted,
      (Run.tree Sample.settings Log.standard m).toOption.map fun outcome =>
        outcome.diagnostics.map Diagnostic.gist))
    (true, some [⟨⟨.emptyClassName, some (text "p"), none⟩, some (text "x")⟩,
      ⟨⟨.malformedEntry, some (text "p"), none⟩, none⟩]) (by decide +kernel)
  obtain ⟨m', parsed', left'⟩ := Sample.returns_of_seen (Module.parse Sample.broken)
    (fun m => Part.sameAll (m.erased .layout) Sample.unformatted) true (by decide +kernel)
  obtain ⟨left, ran⟩ := Prod.mk.inj seen
  have same : m.erased .layout = m'.erased .layout :=
    ((Expr.same_iff.2.2.2 _ _).mp left).trans ((Expr.same_iff.2.2.2 _ _).mp left').symm
  have alike := Run.tree_erased .layout Sample.settings Log.standard m m' same
  obtain ⟨outcome, given, gists⟩ := Sample.returns_of_seen _ _ _ ran
  rw [given] at alike
  match ran' : Run.tree Sample.settings Log.standard m' with
  | .error fault =>
      rw [ran'] at alike
      cases alike
  | .ok outcome' =>
      rw [ran'] at alike
      exact ⟨m, m', outcome, outcome', parsed, parsed', given, ran', gists,
        (Except.ok.inj alike).symm⟩

end ClassMaps
