import ClassMaps.Proofs.Fuel
import ClassMaps.Proofs.Naming
import ClassMaps.Proofs.Place

/-!
# Where expressions begin

A position cannot tell the two sides of the line feed after a carriage return apart.
No expression of a source is on the wrong side: every expression begins with a code
point that ends no line, and so does what is inside its parentheses.

The scanner begins no lexeme of the kinds that expressions begin with at a line
break.  Whatever the grammar assembles begins with such a token, or with an inner
expression, which `leads` checks on the rules once.  The one expression without
text is the empty tuple, and it is followed by its closing parenthesis.
-/

set_option autoImplicit false

namespace ClassMaps

/-! ## Lexemes -/

/-- Whether the text has a first code point, and no line ends there. -/
def Text.begins : Text → Bool
  | [] => false
  | c :: _ => !c.isBreak

theorem Text.begins_append (t u : Text) (begins : t.begins = true) : (t ++ u).begins = true := by
  cases t with
  | nil => cases begins
  | cons c rest => exact begins

theorem Text.begins_take (c : CodePoint) (rest : Text) (n : Nat) (pos : 0 < n)
    (firm : c.isBreak = false) : Text.begins ((c :: rest).take n) = true := by
  cases n with
  | zero => cases pos
  | succ n => simp [Text.begins, firm]

/-- Whether expressions begin with tokens of this kind. -/
def Kind.leads : Kind → Bool
  | .name | .keyword | .operator | .number | .string | .opening => true
  | .run | .closing | .newline | .indent | .dedent | .finish => false

def Kind.Begins (kind : Kind) (t : Text) : Prop := kind.leads = true → t.begins = true

namespace Scan

theorem begins_of_operator (o : Text) (member : o ∈ operators) : o.begins = true := by
  revert o
  decide

theorem begins_operatorLexeme (state : State) (s : Text) :
    Fits Kind.Begins s (operatorLexeme state s) := by
  intro kind n after given _
  obtain ⟨_, pos⟩ := takes_operatorLexeme state s kind n after given
  simp only [operatorLexeme, Option.bind_eq_bind, Option.bind_eq_some_iff] at given
  obtain ⟨o, found, _⟩ := given
  have begins := begins_of_operator o (List.mem_of_find?_eq_some found)
  have starts : o.isPrefixOf s = true := by
    unfold operator? at found
    exact List.find?_some (p := fun o : Text => o.isPrefixOf s) found
  obtain ⟨rest, rfl⟩ := List.isPrefixOf_iff_prefix.mp starts
  cases o with
  | nil => cases begins
  | cons c more => exact Text.begins_take c _ n pos (by simpa [Text.begins] using begins)

theorem isBreak_of_breakLength (c : CodePoint) (rest : Text)
    (none : Text.breakLength (c :: rest) = 0) : c.isBreak = false := by
  cases firm : c.isBreak with
  | false => rfl
  | true =>
      cases rest with
      | nil => simp [Text.breakLength, firm] at none
      | cons d rest =>
          simp only [Text.breakLength, firm, if_true] at none
          split at none <;> cases none

theorem begins_lexeme (state : State) (s : Text) : Fits Kind.Begins s (lexeme state s) := by
  intro kind n after given leading
  obtain ⟨nonempty, pos⟩ := takes_lexeme state s kind n after given
  cases s with
  | nil => exact absurd rfl nonempty
  | cons c rest =>
      by_cases breaks : Text.breakLength (c :: rest) = 0
      · exact Text.begins_take c rest n pos (isBreak_of_breakLength c rest breaks)
      · simp only [lexeme, bne_iff_ne, ne_eq, breaks, not_false_eq_true, if_true,
          Option.some.injEq, Prod.mk.injEq] at given
        rw [← given.1] at leading
        cases leading

theorem begins_literalLexeme (state : State) (frame : Frame) (s : Text) :
    Fits Kind.Begins s (literalLexeme state frame s) := by
  intro kind n after given leading
  simp only [literalLexeme, Option.bind_eq_bind, Option.bind_eq_some_iff] at given
  obtain ⟨length, _, given⟩ := given
  split at given
  · cases given
    cases leading
  · split at given
    · cases given
      cases leading
    · exact begins_operatorLexeme _ _ kind n after given leading

theorem fitting_begins : Fitting Kind.Begins :=
  ⟨begins_lexeme, begins_literalLexeme, nofun, nofun, nofun, nofun⟩

end Scan

/-! ## Trees -/

namespace Part

/-- Whether an expression may begin with the part. -/
def Leads : Part Expr → Prop
  | .gap _ => False
  | .token t => t.begins = true
  | .expr _ => True

@[simp] theorem exprs_comma (comma : Option Comma) : exprs (Comma.parts comma) = [] := by
  cases comma <;> rfl

end Part

/-- The expression begins with a token that begins no line, or with an inner
expression, and all expressions inside it are so.  The empty tuple is the one
without text. -/
inductive Expr.Begins : Expr → Prop
  | made (e : Expr) (leads : ∃ part rest, e.parts = part :: rest ∧ part.Leads)
      (inside : ∀ value ∈ Part.exprs e.parts, value.Begins) : e.Begins
  | unit (opening : Gap) : Expr.Begins (.paren opening (.other .tuple []) [])

namespace Expr.Begins

theorem print {e : Expr} (begins : e.Begins) (newline : Text) :
    (e.print newline).begins = true := by
  induction begins with
  | made e leads inside ih =>
      obtain ⟨part, rest, parts, partLeads⟩ := leads
      rw [← e.printAll_parts, parts]
      cases part with
      | gap trivia => cases partLeads
      | token t => exact Text.begins_append _ _ partLeads
      | expr value =>
          exact Text.begins_append _ _ (ih value (by simp [parts]))
  | unit opening => rfl

/-- What is inside an expression begins, or is the empty tuple. -/
theorem inside {e : Expr} (begins : e.Begins) (value : Expr) (member : .expr value ∈ e.parts) :
    value.Begins ∨ value = .other .tuple [] := by
  cases begins with
  | made _ _ inside => exact .inl (inside value ((Part.mem_exprs _ _).mpr member))
  | unit opening =>
      simp only [Expr.parts, List.mem_cons, reduceCtorEq, List.not_mem_nil, Part.expr.injEq,
        or_false, false_or] at member
      exact .inr member

/-- What is inside an expression without parentheses begins. -/
theorem inside_of_stripped {e : Expr} (begins : e.Begins) (own : e.stripped = e) (value : Expr)
    (member : .expr value ∈ e.parts) : value.Begins := by
  cases begins with
  | made _ _ inside => exact inside value ((Part.mem_exprs _ _).mpr member)
  | unit opening => cases own

theorem stripped {e : Expr} (begins : e.Begins) :
    e.stripped.Begins ∨ e.stripped = .other .tuple [] := by
  fun_induction Expr.stripped e with
  | case1 opening inner closing ih =>
      rcases begins.inside inner (by simp [Expr.parts]) with within | rfl
      · exact ih within
      · exact .inr rfl
  | case2 e notParen => exact .inl begins

/-- After its opening parentheses, an expression goes on in the same way. -/
theorem opened {e : Expr} (begins : e.Begins) (newline : Text) :
    ∃ after : Text, e.print newline = e.opened newline ++ after ∧ after.begins = true := by
  fun_induction Expr.stripped e with
  | case1 opening inner closing ih =>
      rcases begins.inside inner (by simp [Expr.parts]) with within | rfl
      · obtain ⟨after, printed, afterBegins⟩ := ih within
        refine ⟨after ++ (Gap.print newline closing ++ sign ')'), ?_,
          Text.begins_append _ _ afterBegins⟩
        simp [Expr.print, Expr.opened, printed]
      · cases begins with
        | unit => exact ⟨sign ')', by simp [Expr.print, Expr.opened, Gap.print, Part.printAll], rfl⟩
        | made _ _ inside =>
            have empty := inside (.other .tuple []) (by simp [Expr.parts])
            cases empty.print newline
  | case2 e notParen =>
      refine ⟨e.print newline, ?_, begins.print newline⟩
      cases e with
      | paren opening inner closing => exact absurd rfl (notParen opening inner closing)
      | _ => simp [Expr.opened]

end Expr.Begins

/-! ## Assembling -/

namespace Fragment

/-- Whether an expression may begin with the fragment. -/
def Leads : Fragment → Prop
  | .gap _ => False
  | .token t => t.begins = true
  | .expr _ | .slot _ | .element _ => True

/-- The expressions that a fragment is made of. -/
def exprs (f : Fragment) : List Expr := Part.exprs f.parts

def exprsAll (row : List Fragment) : List Expr := row.flatMap exprs

theorem exprs_allParts (row : List Fragment) : Part.exprs (allParts row) = exprsAll row :=
  Part.exprs_flatMap parts row

theorem exprsAll_cons (f : Fragment) (rest : List Fragment) :
    exprsAll (f :: rest) = exprs f ++ exprsAll rest := List.flatMap_cons

/-- A fragment that leads is made of parts the first of which does. -/
theorem Leads.parts {f : Fragment} (leads : f.Leads) :
    ∃ part rest, f.parts = part :: rest ∧ part.Leads := by
  cases f with
  | gap trivia => cases leads
  | token t => exact ⟨_, _, rfl, leads⟩
  | expr value => exact ⟨_, _, rfl, trivial⟩
  | slot s =>
      obtain ⟨mark, value, comma⟩ := s
      cases mark with
      | plain => exact ⟨_, _, rfl, trivial⟩
      | star gap => exact ⟨_, _, rfl, rfl⟩
      | doubleStar gap => exact ⟨_, _, rfl, rfl⟩
      | keyword name before after => exact ⟨_, _, rfl, trivial⟩
  | element e =>
      cases e with
      | pair key before after value comma => exact ⟨_, _, rfl, trivial⟩
      | spread gap value comma => exact ⟨_, _, rfl, rfl⟩

/-- The row begins with a fragment that leads, and the expressions in it begin. -/
structure Begun (row : List Fragment) : Prop where
  leads : ∃ f rest, row = f :: rest ∧ f.Leads
  inside : ∀ value ∈ exprsAll row, value.Begins

theorem Begun.made {row : List Fragment} (begun : Begun row) (e : Expr)
    (same : e.parts = allParts row) : e.Begins := by
  obtain ⟨f, rest, rfl, leads⟩ := begun.leads
  obtain ⟨part, more, parts, partLeads⟩ := leads.parts
  refine .made _ ⟨part, more ++ allParts rest, ?_, partLeads⟩ ?_
  · simp [same, allParts, parts]
  · rw [same, exprs_allParts]
    exact begun.inside

theorem Begun.otherOf {row : List Fragment} (begun : Begun row) (form : Form) :
    (otherOf form row).Begins :=
  begun.made _ rfl

theorem begun_expr {e : Expr} (begins : e.Begins) : Begun [.expr e] := by
  refine ⟨⟨_, _, rfl, trivial⟩, ?_⟩
  simpa [exprsAll, exprs, parts] using begins

theorem exprsAll_slots (closer : Text) (row : List Fragment) (opening closing : Gap)
    (found : List (Slot Expr)) (read : slots closer row = some (opening, found, closing)) :
    Part.exprs (found.flatMap Slot.parts) = exprsAll row := by
  rw [Part.exprs_flatMap]
  refine flatMap_bracketed slot? _ closer exprs _ (fun _ => rfl) (fun _ => rfl) ?_ ?_ row opening
    closing found read
  · intro f s isSlot
    fun_cases slot? f <;> simp_all [slot?, exprs, parts]
  · intro f s comma isSlot
    fun_cases slot? f
    · simp only [slot?, Option.some.injEq] at isSlot
      subst isSlot
      simp [exprs, parts, Slot.parts]
    · simp_all [slot?]

theorem exprsAll_elements (closer : Text) (row : List Fragment) (opening closing : Gap)
    (found : List (Element Expr)) (read : elements closer row = some (opening, found, closing)) :
    Part.exprs (found.flatMap Element.parts) = exprsAll row := by
  rw [Part.exprs_flatMap]
  refine flatMap_bracketed element? _ closer exprs _ (fun _ => rfl) (fun _ => rfl) ?_ ?_ row opening
    closing found read
  · intro f e isElement
    fun_cases element? f <;> simp_all [element?, exprs, parts]
  · intro f e comma isElement
    fun_cases element? f
    case case3 => simp_all [element?]
    all_goals
      simp only [element?, Option.some.injEq] at isElement
      subst isElement
      simp [exprs, parts, Element.withComma, Element.parts]

theorem begins_strings? (row : List Fragment) (e : Expr) (found : strings? row = some e)
    (inside : ∀ value ∈ exprsAll row, value.Begins) : e.Begins := by
  fun_induction strings? row generalizing e with
  | case1 f =>
      cases found
      exact inside f (by simp [exprsAll, exprs, parts])
  | case2 f g rest ih =>
      obtain ⟨right, rightFound, rfl⟩ := Option.map_eq_some_iff.1 found
      have left : f.Begins := inside f (by simp [exprsAll, exprs, parts])
      have rightBegins := ih right rightFound fun value member => inside value (by
        simp only [exprsAll, List.flatMap_cons, List.mem_append] at member ⊢
        exact .inr (.inr member))
      refine .made _ ⟨_, _, rfl, trivial⟩ ?_
      simp [Expr.parts, left, rightBegins]
  | case3 => cases found

theorem begun_argumentOf (row : List Fragment) (begun : Begun row) :
    Begun [.slot (argumentOf row)] := by
  refine ⟨⟨_, _, rfl, trivial⟩, ?_⟩
  have inside := begun.inside
  have whole := begun.otherOf .operation
  fun_cases argumentOf row <;>
    simp_all [exprsAll, exprs, parts, Slot.parts, Slot.bare]

theorem begun_assemble (label : Label) (row : List Fragment) (begun : Begun row) :
    Begun (assemble label row) := by
  have inside := begun.inside
  fun_cases assemble label row
  case case1 | case8 | case10 => exact begun
  case case2 | case3 | case5 => exact begun_expr (begun.made _ rfl)
  case case4 =>
      cases found : strings? row with
      | none => exact begun_expr (begun.otherOf .operation)
      | some e => exact begun_expr (begins_strings? row e found inside)
  case case6 => exact begun_argumentOf row begun
  case case7 | case9 =>
      refine ⟨⟨_, _, rfl, trivial⟩, ?_⟩
      simpa [exprsAll, exprs, parts, Element.parts] using inside
  case case11 head g t rest opening found closing given
      | case13 head g t rest opening found closing given =>
      obtain ⟨rfl, read⟩ := Option.ite_none_right_eq_some.1 given
      have kept := exprsAll_slots _ rest opening closing found read
      refine begun_expr (.made _ ⟨_, _, rfl, trivial⟩ ?_)
      intro value member
      refine inside value ?_
      simpa [Expr.parts, kept, exprsAll_cons, exprs, parts] using member
  case case15 t rest opening found closing given =>
      obtain ⟨rfl, read⟩ := Option.ite_none_right_eq_some.1 given
      have kept := exprsAll_elements _ rest opening closing found read
      refine begun_expr (.made _ ⟨_, _, rfl, rfl⟩ ?_)
      intro value member
      refine inside value ?_
      simpa [Expr.parts, kept, exprsAll_cons, exprs, parts] using member
  case case17 t opening u brackets => exact begun_expr (.unit opening)
  case case19 t opening inner closing u brackets =>
      refine begun_expr (.made _ ⟨_, _, rfl, rfl⟩ ?_)
      simpa [Expr.parts, exprsAll, exprs, parts] using inside
  all_goals exact begun_expr (begun.otherOf _)

/-- A row with the gap before it. -/
def Led (row : List Fragment) : Prop := ∃ trivia rest, row = .gap trivia :: rest ∧ Begun rest

theorem Led.append {row : List Fragment} (led : Led row) (more : List Fragment)
    (inside : ∀ value ∈ exprsAll more, value.Begins) : Led (row ++ more) := by
  obtain ⟨trivia, rest, rfl, begun⟩ := led
  obtain ⟨f, after, rfl, leads⟩ := begun.leads
  refine ⟨trivia, f :: after ++ more, rfl, ⟨f, after ++ more, rfl, leads⟩, ?_⟩
  intro value member
  rw [exprsAll, List.flatMap_append, List.mem_append] at member
  exact member.elim (begun.inside value) (inside value)

theorem Led.wrap {row : List Fragment} (led : Led row) (label : Label) :
    Led (wrap label row) := by
  obtain ⟨trivia, rest, rfl, begun⟩ := led
  exact ⟨trivia, _, rfl, begun_assemble label rest begun⟩

theorem Led.inside {row : List Fragment} (led : Led row) :
    ∀ value ∈ exprsAll row, value.Begins := by
  obtain ⟨trivia, rest, rfl, begun⟩ := led
  exact begun.inside

end Fragment

/-! ## Reading -/

namespace Grammar

variable {Rule : Type}

section Leading
variable (leading : Rule → Bool)

/-- Whether all that the grammar reads begins with a token that expressions begin
with, where `leading` tells this of the rules. -/
def leads : Grammar Rule → Bool
  | .done => false
  | .word _ => true
  | .kind wanted => wanted.leads
  | .seq first _ => first.leads
  | .either first second => first.leads && second.leads
  | .many _ => false
  | .ahead _ => false
  | .unless _ => false
  | .node _ body => body.leads
  | .only _ body => body.leads
  | .grow _ first _ => first.leads
  | .rule r => leading r

mutual

/-- Whether whatever the grammar assembles is such a row. -/
def assemblesLed : Grammar Rule → Bool
  | .done => true
  | .word _ => true
  | .kind _ => true
  | .seq first second => first.assemblesLed && second.assemblesLed
  | .either first second => first.assemblesLed && second.assemblesLed
  | .many item => item.assemblesLed
  | .ahead _ => true
  | .unless _ => true
  | .node _ body => body.leads leading && body.assemblesLed
  | .only _ body => body.assemblesLed
  | .grow _ first tails =>
      first.leads leading && first.assemblesLed && tailsAssembleLed tails
  | .rule _ => true

def tailsAssembleLed : List (Tail (Grammar Rule)) → Bool
  | [] => true
  | ⟨_, _, body⟩ :: rest => body.assemblesLed && tailsAssembleLed rest

end

/-- The rules are as `leading` says. -/
structure Leading (rules : Rule → Grammar Rule) : Prop where
  leads : ∀ r, leading r = true → (rules r).leads leading = true
  assembles : ∀ r, (rules r).assemblesLed leading = true

def Goal.leads : Goal Rule → Bool
  | .whole grammar => grammar.leads leading
  | .after _ _ => true

def Goal.assemblesLed : Goal Rule → Bool
  | .whole grammar => grammar.assemblesLed leading
  | .after tails _ => tailsAssembleLed leading tails

/-- What the goal starts with is led, if it starts with anything. -/
def Goal.StartsLed : Goal Rule → Prop
  | .whole _ => True
  | .after _ row => Fragment.Led row

theorem assemblesLed_of_mem {tails : List (Tail (Grammar Rule))} {tail : Tail (Grammar Rule)}
    (assembles : tailsAssembleLed leading tails = true) (among : tail ∈ tails) :
    tail.body.assemblesLed leading = true := by
  induction tails with
  | nil => cases among
  | cons head tails ih =>
      simp only [tailsAssembleLed, Bool.and_eq_true] at assembles
      rcases List.mem_cons.1 among with rfl | among
      · exact assembles.1
      · exact ih assembles.2 among

/-- What has been read is led where it must be, and the expressions in it begin. -/
structure Leaves (goal : Goal Rule) (row : List Fragment) (rest : List Token) : Prop where
  tokens : Token.All Kind.Begins rest
  inside : ∀ value ∈ Fragment.exprsAll row, value.Begins
  led : goal.leads leading = true → Fragment.Led row

variable {leading} {rules : Rule → Grammar Rule} {tokens rest : List Token} {row : List Fragment}

theorem leads_of_isWord {text : Text} {token : Token} (same : isWord token text = true) :
    token.kind.leads = true := by
  simp only [isWord, Bool.and_eq_true, Bool.or_eq_true, decide_eq_true_eq] at same
  rcases same.1 with (operator | keyword) | name
  · rw [operator]; rfl
  · rw [keyword]; rfl
  · rw [name]; rfl

/-- One token moved into a row. -/
theorem Leaves.token {goal : Goal Rule} {token : Token}
    (tokens : Token.All Kind.Begins (token :: rest))
    (kindLeads : goal.leads leading = true → token.kind.leads = true) :
    Leaves leading goal [.gap token.gap, .token token.text] rest := by
  obtain ⟨own, others⟩ := (Scan.all_cons _ _).1 tokens
  have noExpr : ∀ value ∈ Fragment.exprsAll [.token token.text], value.Begins := by
    simp [Fragment.exprsAll, Fragment.exprs, Fragment.parts]
  exact ⟨others, noExpr, fun leads =>
    ⟨token.gap, _, rfl, ⟨_, _, rfl, own (kindLeads leads)⟩, noExpr⟩⟩

theorem Leaves.nil {goal : Goal Rule} (tokens : Token.All Kind.Begins rest)
    (noLead : goal.leads leading = false) : Leaves leading goal [] rest :=
  ⟨tokens, by simp [Fragment.exprsAll], fun leads => absurd (noLead.symm.trans leads) nofun⟩

theorem Leaves.append {first second whole : Goal Rule} {more : List Fragment}
    {left : List Token} (one : Leaves leading first row rest)
    (two : Leaves leading second more left)
    (leads : whole.leads leading = true → first.leads leading = true) :
    Leaves leading whole (row ++ more) left := by
  refine ⟨two.tokens, ?_, fun wholeLeads => (one.led (leads wholeLeads)).append more two.inside⟩
  intro value member
  rw [Fragment.exprsAll, List.flatMap_append, List.mem_append] at member
  exact member.elim (one.inside value) (two.inside value)

theorem Leaves.wrap {goal whole : Goal Rule} (one : Leaves leading goal row rest)
    (leads : goal.leads leading = true) (label : Fragment.Label) :
    Leaves leading whole (Fragment.wrap label row) rest := by
  have led := (one.led leads).wrap label
  exact ⟨one.tokens, led.inside, fun _ => led⟩

/-- Every derivation leaves rows that are led where they must be. -/
theorem Derives.leaves (hold : Leading leading rules) {goal : Goal Rule}
    (given : Derives rules goal tokens row rest) (assembles : goal.assemblesLed leading = true)
    (start : goal.StartsLed) (begin : Token.All Kind.Begins tokens) :
    Leaves leading goal row rest := by
  induction given with
  | done | none | ahead | «unless» => exact .nil begin rfl
  | word rest same => exact .token begin fun _ => leads_of_isWord same
  | kind rest same => exact .token begin fun leads => same ▸ leads
  | seq one two oneLeaves twoLeaves =>
      simp only [Goal.assemblesLed, Grammar.assemblesLed, Bool.and_eq_true] at assembles
      have left := oneLeaves assembles.1 trivial begin
      exact left.append (twoLeaves assembles.2 trivial left.tokens) id
  | first second one oneLeaves =>
      simp only [Goal.assemblesLed, Grammar.assemblesLed, Bool.and_eq_true] at assembles
      have left := oneLeaves assembles.1 trivial begin
      exact ⟨left.tokens, left.inside, fun leads => left.led (Bool.and_eq_true _ _ |>.mp leads).1⟩
  | second first two twoLeaves =>
      simp only [Goal.assemblesLed, Grammar.assemblesLed, Bool.and_eq_true] at assembles
      have left := twoLeaves assembles.2 trivial begin
      exact ⟨left.tokens, left.inside, fun leads => left.led (Bool.and_eq_true _ _ |>.mp leads).2⟩
  | more one others oneLeaves othersLeave =>
      have left := oneLeaves assembles trivial begin
      exact left.append (othersLeave assembles trivial left.tokens) (absurd · Bool.false_ne_true)
  | node label inner innerLeaves =>
      simp only [Goal.assemblesLed, Grammar.assemblesLed, Bool.and_eq_true] at assembles
      exact (innerLeaves assembles.2 trivial begin).wrap assembles.1 label
  | only inner admitted innerLeaves =>
      have left := innerLeaves assembles trivial begin
      exact ⟨left.tokens, left.inside, left.led⟩
  | grow again one others oneLeaves othersLeave =>
      simp only [Goal.assemblesLed, Grammar.assemblesLed, Bool.and_eq_true] at assembles
      have left := oneLeaves assembles.1.2 trivial begin
      have grown := othersLeave assembles.2 (left.led assembles.1.1) left.tokens
      exact ⟨grown.tokens, grown.inside, fun _ => grown.led rfl⟩
  | rule inner innerLeaves =>
      have left := innerLeaves (hold.assembles _) trivial begin
      exact ⟨left.tokens, left.inside, fun leads => left.led (hold.leads _ leads)⟩
  | stop tails row tokens => exact ⟨begin, start.inside, fun _ => start⟩
  | follow among one others oneLeaves othersLeave =>
      have left := oneLeaves (assemblesLed_of_mem leading assembles among) trivial begin
      have grown := othersLeave assembles (Fragment.Led.wrap (start.append _ left.inside) _)
        left.tokens
      exact ⟨grown.tokens, grown.inside, fun _ => grown.led rfl⟩

end Leading

end Grammar

/-! ## The rules of Python -/

namespace Python

/-- Expressions of all kinds begin with tokens that expressions begin with. -/
def leading : Rule → Bool
  | .expression | .disjunction | .conjunction | .inversion | .comparison | .bitOr | .bitXor
  | .bitAnd | .shift | .sum | .term | .factor | .power | .awaited | .primary | .atom
  | .namedExpression | .starNamed | .starExpression | .starExpressions | .yieldExpression
  | .formatted => true
  | _ => false

theorem leading_holds : Grammar.Leading leading rules := by
  refine ⟨fun r => ?_, fun r => ?_⟩
  all_goals
    cases r with
    | parameters annotated | starParameters annotated | afterStar annotated =>
        cases annotated <;> decide +kernel
    | afterPlain annotated slash | afterDefault annotated slash =>
        cases annotated <;> cases slash <;> decide +kernel
    | _ => decide +kernel

end Python

/-! ## Modules -/

theorem Source.begins_of_read (start : Python.Syn)
    (assembles : start.assemblesLed Python.leading = true) (source : Text) (row : List Fragment)
    (given : Source.read start source = .ok row) :
    ∀ value ∈ Fragment.exprsAll row, value.Begins := by
  unfold Source.read at given
  split at given
  · cases given
  · split at given
    · cases given
    · rename_i tokens scanned
      split at given
      · rename_i found parsed
        split at given
        · cases given
        · cases given
          have begin := Scan.all_tokensFrom Scan.fitting_begins _ _ _ _ tokens scanned
          have derived := Grammar.derives_of_read parsed
          exact (derived.leaves Python.leading_holds assembles trivial begin).inside
      · cases given

namespace Place

variable (newline : Text)

/-- All calls inside an expression that begins do so. -/
theorem begins_occurrences (p : Place) (begins : p.node.Begins) :
    ∀ o ∈ p.occurrences newline, o.call.Begins := by
  induction p using Place.induction newline with
  | step p ih =>
      intro o member
      rcases (p.mem_occurrences newline o).mp member with own | ⟨q, isInner, inside⟩
      · have same := congrArg Place.node (p.place_of_call? o own)
        rw [Occurrence.place] at same
        rwa [← same] at begins
      · have isPart := Part.expr_mem_of_place newline _ _ q isInner
        rcases begins.inside q.node isPart with within | empty
        · exact ih q isInner within o inside
        · obtain ⟨before, node⟩ := q
          cases empty
          cases inside

/-- In a text, what comes after the opening parentheses of an expression that begins
is no line break. -/
theorem begins_core (p : Place) (begins : p.node.Begins) (before whole : Text)
    (inside : p.In newline before whole) :
    ∃ skipped after, (p.core newline).before = before ++ skipped ∧ whole = skipped ++ after ∧
      after.begins = true := by
  obtain ⟨skipped, rest, starts, rfl⟩ := inside
  obtain ⟨after, printed, afterBegins⟩ := begins.opened newline
  refine ⟨skipped ++ p.node.opened newline, after ++ rest, ?_, ?_,
    Text.begins_append _ _ afterBegins⟩
  · simp only [core, starts, List.append_assoc]
  · simp only [printed, List.append_assoc]

end Place

/-- Every call of a parsed module begins. -/
theorem Module.begins_of_parse (source : Text) (m : Module)
    (given : Module.parse source = .ok m) : ∀ o ∈ m.occurrences, o.call.Begins := by
  unfold Module.parse at given
  match read : Source.read Python.file (Source.withoutMark source) with
  | .error fault => simp [read, Except.map] at given
  | .ok row =>
      simp only [read, Except.map, Except.ok.injEq] at given
      subst given
      intro o member
      rw [Module.occurrences_eq] at member
      obtain ⟨p, isPart, inside⟩ := List.mem_flatMap.mp member
      have among := Part.expr_mem_of_place _ _ _ p isPart
      rw [← Part.mem_exprs, Fragment.exprs_allParts] at among
      have begins := Source.begins_of_read Python.file (by decide) _ row read p.node among
      exact p.begins_occurrences _ begins o inside

end ClassMaps
