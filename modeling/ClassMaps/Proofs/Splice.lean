import ClassMaps.Proofs.Outcome
import ClassMaps.Module.Lossless

/-!
# The output is the input with spans replaced

A span is a piece of a text with what takes its place.  The spans of a tree are
the values of the entries with a class name, in the class maps of its calls;
each is replaced by the lookup of its own path and class name.  They do not
overlap, and outside of them the output of a run is its input, code point for
code point.
-/

set_option autoImplicit false

namespace ClassMaps

structure Span where
  start : Nat
  old : Text
  new : Text
deriving DecidableEq

def Span.stop (span : Span) : Nat := span.start + span.old.length

/-- The text from `offset` on with spans replaced, which are given in order. -/
def Text.splice : Nat → List Span → Text → Text
  | _, [], t => t
  | offset, span :: rest, t =>
      t.take (span.start - offset) ++ span.new ++
        Text.splice span.stop rest (t.drop (span.stop - offset))

/-! ## Decomposing a text -/

/-- The text `old` from `start` on becomes `new` by replacing the spans. -/
inductive Spliced : Nat → Text → List Span → Text → Prop
  | keep (start : Nat) (t : Text) : Spliced start t [] t
  | replace (start : Nat) (old new : Text) : Spliced start old [⟨start, old, new⟩] new
  | append {start : Nat} {old old' new new' : Text} {spans spans' : List Span}
      (first : Spliced start old spans new)
      (second : Spliced (start + old.length) old' spans' new') :
      Spliced start (old ++ old') (spans ++ spans') (new ++ new')

namespace Spliced

variable {start : Nat} {old new : Text} {spans : List Span}

theorem bounds (given : Spliced start old spans new) :
    ∀ span ∈ spans, start ≤ span.start ∧ span.stop ≤ start + old.length := by
  induction given with
  | keep start t => intro span member; cases member
  | replace start old new =>
      intro span member
      rw [List.mem_singleton] at member
      subst member
      exact ⟨Nat.le_refl _, Nat.le_refl _⟩
  | append first second firstBounds secondBounds =>
      intro span member
      rw [List.length_append]
      rcases List.mem_append.mp member with inFirst | inSecond
      · have := firstBounds span inFirst
        omega
      · have := secondBounds span inSecond
        omega

theorem pairwise (given : Spliced start old spans new) :
    spans.Pairwise fun a b => a.stop ≤ b.start := by
  induction given with
  | keep start t => exact List.Pairwise.nil
  | replace start old new => exact List.pairwise_singleton _ _
  | append first second firstApart secondApart =>
      apply List.pairwise_append.mpr
      refine ⟨firstApart, secondApart, ?_⟩
      intro a inFirst b inSecond
      have before := (bounds first a inFirst).2
      have after := (bounds second b inSecond).1
      omega

theorem stands (given : Spliced start old spans new) :
    ∀ span ∈ spans, span.old <+: old.drop (span.start - start) := by
  induction given with
  | keep start t => intro span member; cases member
  | replace start old new =>
      intro span member
      rw [List.mem_singleton] at member
      subst member
      simp
  | @append start old old' new new' spans spans' first second firstStands secondStands =>
      intro span member
      rcases List.mem_append.mp member with inFirst | inSecond
      · have within := bounds first span inFirst
        have reach : span.start - start ≤ old.length := by
          simp only [Span.stop] at within
          omega
        rw [List.drop_append_of_le_length reach]
        exact (firstStands span inFirst).trans (List.prefix_append _ _)
      · have after := (bounds second span inSecond).1
        have shift : span.start - start = old.length + (span.start - (start + old.length)) := by
          omega
        rw [shift, List.drop_length_add_append]
        exact secondStands span inSecond

/-- Spans that lie before a rest of the text leave it alone. -/
theorem splice_append (given : Spliced start old spans new) (rest : List Span) (t : Text)
    (after : ∀ span ∈ rest, start + old.length ≤ span.start) :
    Text.splice start (spans ++ rest) (old ++ t) =
      new ++ Text.splice (start + old.length) rest t := by
  induction given generalizing rest t with
  | keep start kept =>
      cases rest with
      | nil => rfl
      | cons span rest =>
          have reach := after span (by simp)
          have longer : start + kept.length ≤ span.stop := by
            simp only [Span.stop]
            omega
          simp only [List.nil_append, Text.splice, List.take_append, List.drop_append,
            Nat.sub_sub, List.append_assoc]
          rw [List.take_of_length_le (by omega), List.drop_of_length_le (by omega),
            List.nil_append]
  | replace start old new => simp [Text.splice, Span.stop]
  | @append start old old' new new' spans spans' first second firstSpliced secondSpliced =>
      have behind : ∀ span ∈ spans' ++ rest, start + old.length ≤ span.start := by
        intro span member
        rcases List.mem_append.mp member with inSecond | inRest
        · exact (bounds second span inSecond).1
        · have := after span inRest
          rw [List.length_append] at this
          omega
      have far : ∀ span ∈ rest, start + old.length + old'.length ≤ span.start := by
        intro span member
        have := after span member
        rw [List.length_append] at this
        omega
      rw [List.append_assoc, List.append_assoc, firstSpliced _ _ behind, secondSpliced _ _ far,
        List.length_append, List.append_assoc, Nat.add_assoc]

theorem splice_eq (given : Spliced start old spans new) : Text.splice start spans old = new := by
  have whole := splice_append given [] [] (by simp)
  simpa [Text.splice] using whole

end Spliced

/-- The text `old` after `before` becomes `new` by replacing the wanted spans, in
the order in which they stand. -/
def Splices (before old new : Text) (wanted : List Span) : Prop :=
  ∃ spans, Spliced before.length old spans new ∧ spans.Perm wanted

namespace Splices

variable {before old old' new new' : Text} {wanted wanted' : List Span}

theorem keep (before t : Text) : Splices before t t [] :=
  ⟨[], .keep _ _, List.Perm.refl _⟩

theorem replace (before old new : Text) : Splices before old new [⟨before.length, old, new⟩] :=
  ⟨_, .replace _ _ _, List.Perm.refl _⟩

theorem append (first : Splices before old new wanted)
    (second : Splices (before ++ old) old' new' wanted') :
    Splices before (old ++ old') (new ++ new') (wanted ++ wanted') := by
  obtain ⟨spans, spliced, perm⟩ := first
  obtain ⟨spans', spliced', perm'⟩ := second
  rw [List.length_append] at spliced'
  exact ⟨spans ++ spans', .append spliced spliced', perm.append perm'⟩

theorem andKeep (t : Text) (first : Splices before old new wanted) :
    Splices before (old ++ t) (new ++ t) wanted := by
  have both := first.append (keep (before ++ old) t)
  rwa [List.append_nil] at both

theorem keepAnd {t : Text} (second : Splices (before ++ t) old new wanted) :
    Splices before (t ++ old) (t ++ new) wanted :=
  (keep before t).append second

theorem perm_interleave (a b c d : List Span) :
    ((a ++ b) ++ (c ++ d)).Perm ((a ++ c) ++ (b ++ d)) := by
  rw [List.append_assoc, List.append_assoc]
  exact (List.perm_append_comm_assoc b c d).append_left a

theorem reorder (first : Splices before old new wanted) (same : wanted.Perm wanted') :
    Splices before old new wanted' := by
  obtain ⟨spans, spliced, perm⟩ := first
  exact ⟨spans, spliced, perm.trans same⟩

end Splices

/-! ## The spans of a tree -/

def Lookup.spelling (loader path className : Text) : Text :=
  loader ++ sign '(' ++ Literal.quote path ++ text ")[" ++ Literal.quote className ++ sign ']'

theorem Lookup.print_expr (newline loader path className : Text) :
    (Lookup.expr (.name loader) path className).print newline =
      Lookup.spelling loader path className := by
  have brackets : text ")[" = sign ')' ++ sign '[' := by decide
  simp [Lookup.expr, Lookup.spelling, Expr.print, Slot.printAll, Slot.bare, Mark.print,
    Comma.print, Gap.print, brackets]

section Spans
variable (settings : Settings) (newline : Text)

/-- The span of an element of the class map for `path`, after the text before its
value: the value with its own parentheses, if the element has a class name. -/
def Entry.span? (path : Text) (found : Text × Entry) : Option Span :=
  (Entry.className? found.2).map fun named =>
    ⟨found.1.length, found.2.value.print newline,
      Lookup.spelling settings.loader path named.2⟩

/-- The spans of a call: those of its own class map. -/
def Occurrence.spans (o : Occurrence) : List Span :=
  match o.classMap? settings.tagger with
  | none => []
  | some (path, _) => (o.entries newline).filterMap (Entry.span? settings newline path)

def Element.ownSpans (path : Option Text) (before : Text) (elements : List Entry) : List Span :=
  match path with
  | none => []
  | some path =>
      (Element.located newline before elements).filterMap (Entry.span? settings newline path)

def Expr.ownSpans (path : Option Text) : Text → Expr → List Span
  | before, .paren opening inner _ =>
      inner.ownSpans path (before ++ (sign '(' ++ Gap.print newline opening))
  | before, .dict opening elements _ =>
      Element.ownSpans settings newline path
        (before ++ (sign '\x7b' ++ Gap.print newline opening)) elements
  | _, _ => []

def Slot.ownSpans : List (Option Text) → Text → List Argument → List Span
  | _, _, [] => []
  | paths, before, slot :: rest =>
      slot.value.ownSpans settings newline paths.head?.join (before ++ slot.mark.print newline) ++
        Slot.ownSpans paths.tail (before ++ slot.print newline) rest

def Moment.spans (moments : List Moment) : List Span :=
  (moments.filterMap Moment.entered?).flatMap (Occurrence.spans settings newline)

theorem Moment.spans_append (first second : List Moment) :
    Moment.spans settings newline (first ++ second) =
      Moment.spans settings newline first ++ Moment.spans settings newline second := by
  simp [Moment.spans]

theorem Expr.ownSpans_of_noPath (before : Text) (e : Expr) :
    e.ownSpans settings newline none before = [] := by
  fun_induction Expr.ownSpans settings newline none before e with
  | case1 before opening inner closing ih => exact ih
  | case2 => rfl
  | case3 => rfl

theorem Slot.ownSpans_of_noPath (paths : List (Option Text)) (before : Text)
    (slots : List Argument) (noPath : ∀ path ∈ paths, path = none) :
    Slot.ownSpans settings newline paths before slots = [] := by
  induction slots generalizing paths before with
  | nil => rfl
  | cons slot rest ih =>
      have head : paths.head?.join = none := by
        cases paths with
        | nil => rfl
        | cons path others => simp [noPath path]
      have tail := ih paths.tail (before ++ slot.print newline)
        fun path member => noPath path (List.mem_of_mem_tail member)
      simp [Slot.ownSpans, head, Expr.ownSpans_of_noPath, tail]

theorem Expr.ownSpans_of_display (path : Option Text) (before : Text) (e : Expr) (opening : Gap)
    (elements : List Entry) (closing : Gap)
    (display : e.stripped = .dict opening elements closing) :
    e.ownSpans settings newline path before =
      Element.ownSpans settings newline path
        (before ++ (e.opened newline ++ (sign '\x7b' ++ Gap.print newline opening))) elements := by
  fun_induction Expr.ownSpans settings newline path before e with
  | case1 before outer inner outer' ih =>
      rw [ih display]
      simp [Expr.opened]
  | case2 before opening' elements' closing' =>
      cases display
      rfl
  | case3 e before notParen notDict =>
      cases e with
      | paren outer inner outer' => exact absurd rfl (notParen outer inner outer')
      | dict opening' elements' closing' => exact absurd rfl (notDict _ _ _)
      | _ => cases display

theorem Occurrence.spans_eq (o : Occurrence) :
    o.spans settings newline =
      Slot.ownSpans settings newline
        [none, none, Call.path? settings.tagger o.function o.arguments] (o.inside newline)
        o.arguments := by
  unfold Occurrence.spans Occurrence.classMap? Call.path?
  match declared : Call.classMap? settings.tagger o.function o.arguments with
  | none => rw [Option.map_none, Slot.ownSpans_of_noPath _ _ [none, none, none] _ _ (by simp)]
  | some (path, elements) =>
      obtain ⟨first, second, third, opening, closing, three, _, display⟩ :=
        Call.classMap?_cases _ _ _ _ _ declared
      have isThird : o.arguments[2]? = some third := by rw [three]; rfl
      have own := Expr.ownSpans_of_display settings newline (some path)
        (o.inside newline ++ first.print newline ++ second.print newline ++
          third.mark.print newline) third.value opening elements closing display
      have located : o.entries newline = Element.located newline
          (o.inside newline ++ first.print newline ++ second.print newline ++
            third.mark.print newline ++
            (third.value.opened newline ++ (sign '\x7b' ++ Gap.print newline opening)))
          elements := by
        simp only [Occurrence.entries, Occurrence.beforeArgument, isThird, display]
        rw [three]
        simp [Slot.print, Slot.printAll]
      rw [located, three]
      simp only [Slot.ownSpans, Option.map_some, List.head?_cons, List.tail_cons,
        Option.join_some, Expr.ownSpans_of_noPath, List.nil_append, List.append_nil, own,
        Element.ownSpans]

theorem Element.ownSpans_cons (path : Option Text) (before : Text) (element : Entry)
    (rest : List Entry) :
    Element.ownSpans settings newline path before (element :: rest) =
      (path.bind fun path =>
        Entry.span? settings newline path (before ++ element.lead newline, element)).toList ++
        Element.ownSpans settings newline path (before ++ element.print newline) rest := by
  cases path with
  | none => rfl
  | some path =>
      simp only [Element.ownSpans, Element.located, List.filterMap_cons, Option.bind_some]
      cases Entry.span? settings newline path (before ++ element.lead newline, element) <;> rfl

theorem Moment.spans_call (o : Occurrence) :
    Moment.spans settings newline (o.call.tour newline o.before) =
      o.spans settings newline ++
        (Moment.spans settings newline (o.function.tour newline o.before) ++
          Moment.spans settings newline (Slot.tourAll newline (o.inside newline) o.arguments)) := by
  simp [Occurrence.call, Expr.tour, Moment.spans, Moment.entered?]

theorem Moment.spans_of_noCalls (before : Text) (e : Expr) (noCalls : e.calls = []) :
    Moment.spans settings newline (e.tour newline before) = [] := by
  have entered := (map_call_entered newline).1 e before
  rw [noCalls, List.map_eq_nil_iff] at entered
  simp [Moment.spans, entered]

theorem Element.splices_value (path : Option Text) (key value : Expr) (gap after : Gap)
    (comma : Option Comma) (before : Text)
    (inside : Splices before (value.print newline) ((value.resolved settings none).print newline)
      (Moment.spans settings newline (value.tour newline before))) :
    Splices before (value.print newline)
      (((path.bind fun path => Entry.replacement? path settings.loader
        (.pair key gap after value comma)).getD (value.resolved settings none)).print newline)
      ((path.bind fun path => Entry.span? settings newline path
        (before, .pair key gap after value comma)).toList ++
          Moment.spans settings newline (value.tour newline before)) := by
  cases path with
  | none => exact inside
  | some path =>
      cases found : Entry.className? (.pair key gap after value comma) with
      | none =>
          simp only [Option.bind_some, Entry.replacement?, Entry.span?, found]
          exact inside
      | some named =>
          -- What is replaced holds no call, so no span lies inside another.
          have noCalls := (Entry.calls_of_className? key value gap after comma named found).2
          rw [Moment.spans_of_noCalls settings newline before value noCalls]
          simp only [Option.bind_some, Entry.replacement?, Entry.span?, found, Option.map_some,
            Option.getD_some, Lookup.print_expr, Option.toList_some, List.append_nil]
          exact Splices.replace before _ _

/-- Resolving a tree replaces the spans of its calls, and of the tree itself if it
is a class map. -/
theorem splices_resolved :
    (∀ (e : Expr) (path : Option Text) (before : Text),
      Splices before (e.print newline) ((e.resolved settings path).print newline)
        (e.ownSpans settings newline path before ++
          Moment.spans settings newline (e.tour newline before))) ∧
    (∀ (slots : List Argument) (paths : List (Option Text)) (before : Text),
      Splices before (Slot.printAll newline slots)
        (Slot.printAll newline (Slot.resolvedAll settings paths slots))
        (Slot.ownSpans settings newline paths before slots ++
          Moment.spans settings newline (Slot.tourAll newline before slots))) ∧
    (∀ (elements : List Entry) (path : Option Text) (before : Text),
      Splices before (Element.printAll newline elements)
        (Element.printAll newline (Element.resolvedAll settings path elements))
        (Element.ownSpans settings newline path before elements ++
          Moment.spans settings newline (Element.tourAll newline before elements))) ∧
    (∀ (parts : List (Part Expr)) (before : Text),
      Splices before (Part.printAll newline parts)
        (Part.printAll newline (Part.resolvedAll settings parts))
        (Moment.spans settings newline (Part.tourAll newline before parts))) := by
  apply Expr.tree_induction
  case name =>
    intro text path before
    exact Splices.keep before _
  case string =>
    intro text path before
    exact Splices.keep before _
  case formatted =>
    intro parts partsSplice path before
    exact partsSplice before
  case concat =>
    intro left gap right leftSplice rightSplice path before
    have first := leftSplice none before
    have second := rightSplice none (before ++ (left.print newline ++ Gap.print newline gap))
    rw [Expr.ownSpans_of_noPath] at first second
    have both := (first.andKeep (Gap.print newline gap)).append second
    rw [Expr.tour, Moment.spans_append]
    exact both
  case call =>
    intro function gap opening arguments closing functionSplice argumentsSplice path before
    let o : Occurrence := ⟨before, function, gap, opening, arguments, closing⟩
    have first := functionSplice none before
    have second := argumentsSplice [none, none, Call.path? settings.tagger function arguments]
      (o.inside newline)
    rw [Expr.ownSpans_of_noPath] at first
    have both := ((((first.andKeep (Gap.print newline gap)).andKeep (sign '(')).andKeep
      (Gap.print newline opening)).append second).andKeep (Gap.print newline closing)
    apply (both.andKeep (sign ')')).reorder
    -- The tour gives the call's own spans first, the text has those of the function before them.
    have toured := Moment.spans_call settings newline o
    rw [o.spans_eq] at toured
    rw [List.nil_append]
    change List.Perm _ ([] ++ Moment.spans settings newline (o.call.tour newline o.before))
    rw [List.nil_append, toured]
    exact List.perm_append_comm_assoc _ _ _
  case subscript =>
    intro value gap opening indices closing valueSplice indicesSplice path before
    have first := valueSplice none before
    have second := indicesSplice [] (before ++ (value.print newline ++ Gap.print newline gap ++
      sign '[' ++ Gap.print newline opening))
    rw [Expr.ownSpans_of_noPath] at first
    rw [Slot.ownSpans_of_noPath _ _ [] _ _ (by simp)] at second
    have both := ((((first.andKeep (Gap.print newline gap)).andKeep (sign '[')).andKeep
      (Gap.print newline opening)).append second).andKeep (Gap.print newline closing)
    rw [Expr.tour, Moment.spans_append]
    exact both.andKeep (sign ']')
  case dict =>
    intro opening elements closing elementsSplice path before
    have inside := elementsSplice path (before ++ (sign '\x7b' ++ Gap.print newline opening))
    exact ((inside.keepAnd).andKeep (Gap.print newline closing)).andKeep (sign '\x7d')
  case other =>
    intro form parts partsSplice path before
    exact partsSplice before
  case paren =>
    intro opening inner closing innerSplice path before
    have inside := innerSplice path (before ++ (sign '(' ++ Gap.print newline opening))
    exact ((inside.keepAnd).andKeep (Gap.print newline closing)).andKeep (sign ')')
  case noSlots =>
    intro paths before
    exact Splices.keep before []
  case slot =>
    intro mark value comma rest valueSplice restSplice paths before
    have first := valueSplice paths.head?.join (before ++ mark.print newline)
    have second := restSplice paths.tail (before ++ (mark.print newline ++ value.print newline ++
      Comma.print newline comma))
    have both := ((first.keepAnd).andKeep (Comma.print newline comma)).append second
    have printed : Slot.print newline ⟨mark, value, comma⟩ =
        mark.print newline ++ value.print newline ++ Comma.print newline comma := by
      simp [Slot.print, Slot.printAll]
    apply both.reorder
    rw [Slot.ownSpans, Slot.tourAll, Moment.spans_append, printed]
    exact Splices.perm_interleave _ _ _ _
  case noElements =>
    intro path before
    cases path <;> exact Splices.keep before []
  case pair =>
    intro key gap after value comma rest keySplice valueSplice restSplice path before
    let element : Entry := .pair key gap after value comma
    have printed : element.print newline =
        element.lead newline ++ value.print newline ++ Comma.print newline comma := by
      simp [element, Element.print, Element.printAll, Element.lead]
    have first := keySplice none before
    have second := valueSplice none (before ++ element.lead newline)
    have third := restSplice path (before ++ element.print newline)
    rw [Expr.ownSpans_of_noPath] at first second
    rw [printed] at third
    have changed := Element.splices_value settings newline path key value gap after comma
      (before ++ element.lead newline) second
    have head := (((first.andKeep (Gap.print newline gap)).andKeep (sign ':')).andKeep
      (Gap.print newline after)).append changed
    apply ((head.andKeep (Comma.print newline comma)).append third).reorder
    rw [Element.ownSpans_cons, Element.tourAll, Moment.spans_append, Moment.spans_append, printed]
    apply List.perm_iff_count.mpr
    intro span
    simp only [List.count_append, List.nil_append, element, Element.lead]
    omega
  case spread =>
    intro gap value comma rest valueSplice restSplice path before
    let element : Entry := .spread gap value comma
    have printed : element.print newline =
        element.lead newline ++ value.print newline ++ Comma.print newline comma := by
      simp [element, Element.print, Element.printAll, Element.lead]
    have first := valueSplice none (before ++ element.lead newline)
    have second := restSplice path (before ++ element.print newline)
    rw [Expr.ownSpans_of_noPath] at first
    rw [printed] at second
    apply (((first.keepAnd).andKeep (Comma.print newline comma)).append second).reorder
    have noSpan : (path.bind fun path => Entry.span? settings newline path
        (before ++ element.lead newline, element)) = none := by
      cases path <;> rfl
    rw [Element.ownSpans_cons, noSpan, Element.tourAll, Moment.spans_append, printed]
    exact List.perm_append_comm_assoc _ _ _
  case noParts =>
    intro before
    exact Splices.keep before []
  case gap =>
    intro trivia rest restSplice before
    exact (restSplice (before ++ Gap.print newline trivia)).keepAnd
  case token =>
    intro text rest restSplice before
    exact (restSplice (before ++ text)).keepAnd
  case expr =>
    intro value rest valueSplice restSplice before
    have first := valueSplice none before
    rw [Expr.ownSpans_of_noPath] at first
    rw [Part.tourAll, Moment.spans_append]
    exact first.append (restSplice (before ++ value.print newline))

end Spans

/-! ## The output of a run -/

/-- A run replaces the spans of the calls of its input and keeps all else. -/
theorem Run.code_source_splices (settings : Settings) (threshold : Int) (code : Text)
    (outcome : Outcome) (given : Run.source settings threshold code = .ok outcome) :
    ∃ m spans, Module.parse code = .ok m ∧
      spans.Perm (m.occurrences.flatMap (Occurrence.spans settings m.newline)) ∧
      spans.Pairwise (fun a b => a.stop ≤ b.start) ∧
      (∀ span ∈ spans, span.old <+: (Source.withoutMark code).drop span.start) ∧
      outcome.code = Text.splice 0 spans (Source.withoutMark code) ∧
      (m.occurrences.flatMap (Occurrence.spans settings m.newline) = [] →
        outcome.code = Source.withoutMark code) := by
  obtain ⟨m, parsed, ran⟩ := Run.source_ok settings threshold code outcome given
  obtain ⟨_, _, rfl⟩ := (Run.tree_ok_iff _ _ _ _).mp ran
  obtain ⟨spans, spliced, perm⟩ := (splices_resolved settings m.newline).2.2.2 m.parts []
  have printed : Part.printAll m.newline m.parts = Source.withoutMark code :=
    Module.code_parse code m parsed
  rw [printed] at spliced
  have output : (m.resolved settings).code = Text.splice 0 spans (Source.withoutMark code) :=
    spliced.splice_eq.symm
  refine ⟨m, spans, parsed, perm, spliced.pairwise, ?_, output, ?_⟩
  · intro span member
    exact spliced.stands span member
  · intro noSpans
    have wanted : Moment.spans settings m.newline (Part.tourAll m.newline [] m.parts) = [] := noSpans
    rw [wanted, List.perm_nil] at perm
    rw [perm] at output
    exact output

theorem Run.code_source_splices_sample :
    ∃ outcome m spans, Run.source Sample.settings 0 Sample.code = .ok outcome ∧
      outcome.code = Sample.output ∧ Module.parse Sample.code = .ok m ∧
      spans.Perm (m.occurrences.flatMap (Occurrence.spans Sample.settings m.newline)) ∧
      outcome.code = Text.splice 0 spans (Source.withoutMark Sample.code) := by
  obtain ⟨outcome, given, seen⟩ := Sample.source_returns
  obtain ⟨m, spans, parsed, same, _, _, output, _⟩ := Run.code_source_splices _ _ _ _ given
  exact ⟨outcome, m, spans, given, (Prod.mk.inj seen).2, parsed, same, output⟩

end ClassMaps
