import ClassMaps.Module.Lossless

/-!
# There is always enough fuel

The reader and the scanner recurse on fuel, and without any they find nothing.
What they are given is enough: more of it never finds anything else, so that no
source is refused, or read in another way, for want of it.

Between one token and the next the reader only goes down from rule to rule, by a
path whose length the grammar bounds.  Between one code point and the next the
scanner takes two rounds at most.
-/

set_option autoImplicit false

namespace ClassMaps

/-! ## Depth -/

namespace Grammar

variable {Rule : Type}

/-- What is assumed of the rules: which may read no token, and how deep a reading
can go before it has taken one. -/
structure Bounds (Rule : Type) where
  idle : Rule → Bool
  depth : Rule → Nat

section Bounds
variable (bounds : Bounds Rule)

/-- Whether the grammar may read no token. -/
def idle : Grammar Rule → Bool
  | .done => true
  | .word _ => false
  | .kind _ => false
  | .seq first second => first.idle && second.idle
  | .either first second => first.idle || second.idle
  | .many _ => true
  | .ahead _ => true
  | .unless _ => true
  | .node _ body => body.idle
  | .only _ body => body.idle
  | .grow _ first _ => first.idle
  | .rule r => bounds.idle r

mutual

/-- How deep a reading can go before it has taken a token. -/
def depth : Grammar Rule → Nat
  | .done => 1
  | .word _ => 1
  | .kind _ => 1
  | .seq first second => max first.depth (if first.idle bounds then second.depth else 0) + 1
  | .either first second => max first.depth second.depth + 1
  | .many item => item.depth + 1
  | .ahead item => item.depth + 1
  | .unless item => item.depth + 1
  | .node _ body => body.depth + 1
  | .only _ body => body.depth + 1
  | .grow _ first tails => max first.depth (tailsDepth tails + 1) + 1
  | .rule r => bounds.depth r + 1

def tailsDepth : List (Tail (Grammar Rule)) → Nat
  | [] => 1
  | ⟨_, _, body⟩ :: rest => max body.depth (tailsDepth rest) + 1

end

mutual

/-- Whether every repetition takes tokens, and whatever is read after a token is
no deeper than `reach`. -/
def grounded (reach : Nat) : Grammar Rule → Bool
  | .done => true
  | .word _ => true
  | .kind _ => true
  | .seq first second =>
      first.grounded reach && second.grounded reach && second.depth bounds ≤ reach
  | .either first second => first.grounded reach && second.grounded reach
  | .many item => item.grounded reach && !item.idle bounds && item.depth bounds < reach
  | .ahead item => item.grounded reach
  | .unless item => item.grounded reach
  | .node _ body => body.grounded reach
  | .only _ body => body.grounded reach
  | .grow _ first tails =>
      first.grounded reach && tailsGrounded reach tails && tailsDepth bounds tails < reach
  | .rule _ => true

def tailsGrounded (reach : Nat) : List (Tail (Grammar Rule)) → Bool
  | [] => true
  | ⟨_, _, body⟩ :: rest =>
      body.grounded reach && !body.idle bounds && tailsGrounded reach rest

end

/-- The rules are as the bounds say. -/
structure Bounds.Hold (reach : Nat) (rules : Rule → Grammar Rule) : Prop where
  idle : ∀ r, (rules r).idle bounds = true → bounds.idle r = true
  depth : ∀ r, (rules r).depth bounds ≤ bounds.depth r
  grounded : ∀ r, (rules r).grounded bounds reach = true

variable {bounds}

theorem depth_pos (grammar : Grammar Rule) : 0 < grammar.depth bounds := by
  cases grammar <;> simp [depth]

theorem tailsDepth_pos (tails : List (Tail (Grammar Rule))) : 0 < tailsDepth bounds tails := by
  cases tails <;> simp [tailsDepth]

variable {reach : Nat} {rules : Rule → Grammar Rule}

theorem idle_of_mem {tails : List (Tail (Grammar Rule))} {tail : Tail (Grammar Rule)}
    (ground : tailsGrounded bounds reach tails = true) (among : tail ∈ tails) :
    tail.body.idle bounds = false := by
  induction tails with
  | nil => cases among
  | cons head tails ih =>
      simp only [tailsGrounded, Bool.and_eq_true, Bool.not_eq_true'] at ground
      rcases List.mem_cons.1 among with rfl | among
      · exact ground.1.2
      · exact ih ground.2 among

/-! ## Taking tokens -/

/-- Whether the goal may read no token. -/
def Goal.idle (bounds : Bounds Rule) : Goal Rule → Bool
  | .whole grammar => grammar.idle bounds
  | .after _ _ => true

/-- A derivation leaves no more tokens than there were, and fewer unless it is idle. -/
theorem Derives.takes (hold : bounds.Hold reach rules) {goal : Goal Rule}
    {tokens rest : List Token} {row : List Fragment}
    (given : Derives rules goal tokens row rest) :
    rest.length ≤ tokens.length ∧
      (goal.idle bounds = false → rest.length < tokens.length) := by
  induction given with
  | done | none | ahead | «unless» | stop => exact ⟨Nat.le_refl _, nofun⟩
  | word | kind => simp
  | seq one two oneTakes twoTakes =>
      refine ⟨Nat.le_trans twoTakes.1 oneTakes.1, fun busy => ?_⟩
      rcases Bool.and_eq_false_iff.1 busy with firstBusy | secondBusy
      · exact Nat.lt_of_le_of_lt twoTakes.1 (oneTakes.2 firstBusy)
      · exact Nat.lt_of_lt_of_le (twoTakes.2 secondBusy) oneTakes.1
  | first second one oneTakes =>
      exact ⟨oneTakes.1, fun busy => oneTakes.2 (Bool.or_eq_false_iff.1 busy).1⟩
  | second first two twoTakes =>
      exact ⟨twoTakes.1, fun busy => twoTakes.2 (Bool.or_eq_false_iff.1 busy).2⟩
  | more one others oneTakes othersTake => exact ⟨Nat.le_trans othersTake.1 oneTakes.1, nofun⟩
  | node label inner takes => exact takes
  | only inner admitted takes => exact takes
  | grow again one others oneTakes othersTake =>
      exact ⟨Nat.le_trans othersTake.1 oneTakes.1,
        fun busy => Nat.lt_of_le_of_lt othersTake.1 (oneTakes.2 busy)⟩
  | @rule r tokens rest row inner takes =>
      refine ⟨takes.1, fun busy => takes.2 ?_⟩
      rw [← Bool.not_eq_true]
      intro idle
      have ruleIdle : bounds.idle r = false := busy
      rw [hold.idle r idle] at ruleIdle
      cases ruleIdle
  | follow among one others oneTakes othersTake =>
      exact ⟨Nat.le_trans othersTake.1 oneTakes.1, nofun⟩

theorem length_of_read (hold : bounds.Hold reach rules) {fuel : Nat} {grammar : Grammar Rule}
    {tokens rest : List Token} {row : List Fragment}
    (given : read rules fuel grammar tokens = some (row, rest)) :
    rest.length ≤ tokens.length ∧
      (grammar.idle bounds = false → rest.length < tokens.length) :=
  (derives_of_read given).takes hold

theorem length_of_firstTail (hold : bounds.Hold reach rules) {fuel : Nat}
    {tails : List (Tail (Grammar Rule))} (ground : tailsGrounded bounds reach tails = true)
    {tokens rest : List Token} {row grown : List Fragment}
    (given : firstTail rules fuel tails row tokens = some (grown, rest)) :
    rest.length < tokens.length := by
  obtain ⟨tail, among, more, one, _⟩ := (derives_of_fuel fuel).2.2 _ _ _ _ _ given
  exact (one.takes hold).2 (idle_of_mem ground among)

/-! ## Reading -/

/-- With fuel for the depth, and `reach` more for every token, another unit of it
changes nothing. -/
theorem settled_of_fuel (hold : bounds.Hold reach rules) (fuel : Nat) :
    (∀ grammar tokens, grammar.grounded bounds reach = true →
      reach * tokens.length + grammar.depth bounds ≤ fuel →
      read rules (fuel + 1) grammar tokens = read rules fuel grammar tokens) ∧
    (∀ again tails row tokens, tailsGrounded bounds reach tails = true →
      tailsDepth bounds tails < reach →
      reach * tokens.length + tailsDepth bounds tails < fuel →
      growFrom rules (fuel + 1) again tails row tokens =
        growFrom rules fuel again tails row tokens) ∧
    (∀ tails row tokens, tailsGrounded bounds reach tails = true →
      reach * tokens.length + tailsDepth bounds tails ≤ fuel →
      firstTail rules (fuel + 1) tails row tokens = firstTail rules fuel tails row tokens) := by
  have fewer : ∀ {less many : Nat}, less < many → reach * less + reach ≤ reach * many :=
    fun {less many} short => Nat.mul_succ reach less ▸ Nat.mul_le_mul_left reach short
  have noMore : ∀ {less many : Nat}, less ≤ many → reach * less ≤ reach * many :=
    fun short => Nat.mul_le_mul_left reach short
  induction fuel with
  | zero =>
      refine ⟨fun grammar tokens _ enough => ?_, fun again tails row tokens _ _ enough => ?_,
        fun tails row tokens _ enough => ?_⟩
      · have : 0 < grammar.depth bounds := depth_pos grammar
        omega
      · omega
      · have : 0 < tailsDepth bounds tails := tailsDepth_pos tails
        omega
  | succ fuel ih =>
      obtain ⟨readSettled, growSettled, tailSettled⟩ := ih
      refine ⟨fun grammar tokens ground enough => ?_,
        fun again tails row tokens ground shallow enough => ?_,
        fun tails row tokens ground enough => ?_⟩
      · cases grammar with
        | done | word text | kind wanted => rfl
        | seq first second =>
            simp only [grounded, Bool.and_eq_true, decide_eq_true_eq] at ground
            obtain ⟨⟨firstGround, secondGround⟩, shallow⟩ := ground
            simp only [depth] at enough
            change read rules _ (first ++ second) tokens = read rules _ (first ++ second) tokens
            rw [read_seq, read_seq, readSettled first tokens firstGround (by omega)]
            split
            · rfl
            · rename_i row rest given
              obtain ⟨most, busy⟩ := length_of_read hold given
              have := noMore most
              rw [readSettled second rest secondGround ?_]
              cases idle : first.idle bounds with
              | true => simp only [idle, if_true] at enough; omega
              | false => have := fewer (busy idle); omega
        | either first second =>
            simp only [grounded, Bool.and_eq_true] at ground
            simp only [depth] at enough
            rw [read_either, read_either, readSettled first tokens ground.1 (by omega),
              readSettled second tokens ground.2 (by omega)]
        | many item =>
            have itself := ground
            simp only [grounded, Bool.and_eq_true, Bool.not_eq_true', decide_eq_true_eq] at ground
            obtain ⟨⟨itemGround, busy⟩, shallow⟩ := ground
            simp only [depth] at enough
            rw [read_many, read_many, readSettled item tokens itemGround (by omega)]
            split
            · rfl
            · rename_i row rest given
              have := fewer ((length_of_read hold given).2 busy)
              rw [readSettled (.many item) rest itself (by simp only [depth]; omega)]
        | ahead item =>
            simp only [depth] at enough
            rw [read_ahead, read_ahead, readSettled item tokens ground (by omega)]
        | «unless» item =>
            simp only [depth] at enough
            rw [read_unless, read_unless, readSettled item tokens ground (by omega)]
        | node label body =>
            simp only [depth] at enough
            rw [read_node, read_node, readSettled body tokens ground (by omega)]
        | only guard body =>
            simp only [depth] at enough
            rw [read_only, read_only, readSettled body tokens ground (by omega)]
        | grow again first tails =>
            simp only [grounded, Bool.and_eq_true, decide_eq_true_eq] at ground
            obtain ⟨⟨firstGround, tailsGround⟩, shallow⟩ := ground
            simp only [depth] at enough
            rw [read_grow, read_grow, readSettled first tokens firstGround (by omega)]
            split
            · rfl
            · rename_i row rest given
              have := noMore (length_of_read hold given).1
              exact growSettled again tails row rest tailsGround shallow (by omega)
        | rule r =>
            simp only [depth] at enough
            have := hold.depth r
            rw [read_rule, read_rule, readSettled (rules r) tokens (hold.grounded r) (by omega)]
      · rw [growFrom_succ, growFrom_succ, tailSettled tails row tokens ground (by omega)]
        split
        · rfl
        · rename_i grown rest given
          have := fewer (length_of_firstTail hold ground given)
          rw [growSettled again tails grown rest ground shallow (by omega)]
      · cases tails with
        | nil => rfl
        | cons head tails =>
            obtain ⟨guard, label, body⟩ := head
            simp only [tailsGrounded, Bool.and_eq_true] at ground
            obtain ⟨⟨bodyGround, _⟩, tailsGround⟩ := ground
            simp only [tailsDepth] at enough
            rw [firstTail_cons, firstTail_cons, readSettled body tokens bodyGround (by omega),
              tailSettled tails row tokens tailsGround (by omega)]

theorem read_eq_of_le (hold : bounds.Hold reach rules) {grammar : Grammar Rule}
    (ground : grammar.grounded bounds reach = true) {tokens : List Token} {fuel more : Nat}
    (enough : reach * tokens.length + grammar.depth bounds ≤ fuel) (le : fuel ≤ more) :
    read rules more grammar tokens = read rules fuel grammar tokens := by
  induction le with
  | refl => rfl
  | @step more le ih =>
      rw [(settled_of_fuel hold more).1 grammar tokens ground (Nat.le_trans enough le), ih]

end Bounds

end Grammar

/-! ## The rules of Python -/

namespace Python

open Grammar

/-- Formats and what may follow a parameter may be empty.  An expression goes down
from one kind of operator to the next. -/
def bounds : Bounds Rule where
  idle
    | .format | .afterPlain _ _ | .afterDefault _ _ | .afterStar _ => true
    | _ => false
  depth
    | .formatted | .starParameters _ => 4
    | .field => 6
    | .atom => 11
    | .primary | .closedPattern => 13
    | .awaited => 15
    | .power | .pattern => 17
    | .factor | .targets => 19
    | .term | .patternItems | .mappingItems | .classItems => 21
    | .sum => 23
    | .shift => 25
    | .bitAnd => 27
    | .bitXor => 29
    | .bitOr => 31
    | .comparison => 33
    | .inversion => 35
    | .conjunction => 37
    | .disjunction => 39
    | .expression => 42
    | .namedExpression | .starExpression => 45
    | .starNamed | .starExpressions => 47
    | .assignmentValue => 50
    | .firstArguments | .arguments => 53
    | .simpleStatements => 54
    | .statement | .block => 56
    | _ => 9

theorem bounds_hold : bounds.Hold 128 rules := by
  refine ⟨fun r => ?_, fun r => ?_, fun r => ?_⟩
  all_goals
    cases r with
    | parameters annotated | starParameters annotated | afterStar annotated =>
        cases annotated <;> decide +kernel
    | afterPlain annotated slash | afterDefault annotated slash =>
        cases annotated <;> cases slash <;> decide +kernel
    | _ => decide +kernel

end Python

/-- More fuel than `read?` has reads nothing else. -/
theorem Python.read_eq_read? (start : Python.Syn)
    (ground : start.grounded Python.bounds 128 = true)
    (shallow : start.depth Python.bounds ≤ 256) (tokens : List Token) (fuel : Nat)
    (enough : 128 * (tokens.length + 2) ≤ fuel) :
    Grammar.read Python.rules fuel start tokens = Grammar.read? Python.rules start tokens :=
  Grammar.read_eq_of_le Python.bounds_hold ground (by omega) enough

/-- A source of any of the three kinds is read with fuel enough. -/
theorem Python.starts_grounded :
    ∀ start ∈ [Python.file, Python.oneStatement, Python.oneExpression],
      start.grounded Python.bounds 128 = true ∧ start.depth Python.bounds ≤ 256 := by
  decide +kernel

/-! ## Lexemes -/

namespace Scan

/-- A lexeme at the start of the text takes some of it. -/
def Takes (s : Text) (lex : Option (Kind × Nat × State)) : Prop :=
  ∀ kind n state, lex = some (kind, n, state) → s ≠ [] ∧ 0 < n

theorem digitsLength_pos (c : CodePoint) (rest : Text) (digit : c.isDigit = true) :
    0 < digitsLength 10 (c :: rest) := by
  have value : (c.digit? 10).isSome = true := by
    simp only [CodePoint.isDigit, Bool.and_eq_true, decide_eq_true_eq] at digit
    simp only [CodePoint.digit?, CodePoint.isDigit, digit.1, digit.2, decide_true, Bool.and_self,
      if_true, Option.filter_some]
    rw [if_pos (by simp; omega)]
    rfl
  unfold digitsLength
  rw [if_pos value]
  split
  · split <;> omega
  · omega

/-- A length with a whole or a fractional part, in the three ways it can end. -/
theorem parts_pos (whole fraction exponent n : Nat) (imaginary refused : Bool)
    (found : (if imaginary then some (whole + fraction + exponent + 1)
      else if refused then none else some (whole + fraction + exponent)) = some n)
    (starts : 0 < whole + fraction) : 0 < n := by
  cases imaginary <;> cases refused <;> cases found <;> omega

theorem decimalLength_pos (s : Text) (n : Nat) (found : decimalLength s = some n)
    (starts : 0 < digitsLength 10 s ∨
      ∃ c rest, s.drop (digitsLength 10 s) = c :: rest ∧ c.is '.' = true) : 0 < n := by
  refine parts_pos _ _ _ n _ _ found ?_
  rcases starts with whole | ⟨c, rest, dot, isDot⟩
  · exact Nat.lt_add_right _ whole
  · rw [dot]
    simp only [isDot, if_true]
    omega

theorem numberLength_pos (c : CodePoint) (rest : Text) (n : Nat)
    (starts : c.isDigit = true ∨ c.is '.' = true)
    (found : numberLength (c :: rest) = some n) : 0 < n := by
  have decimal : ∀ n, decimalLength (c :: rest) = some n → 0 < n := by
    intro n found
    refine decimalLength_pos _ n found ?_
    by_cases digit : c.isDigit = true
    · exact .inl (digitsLength_pos c rest digit)
    · by_cases whole : digitsLength 10 (c :: rest) = 0
      · exact .inr ⟨c, rest, by rw [whole]; rfl, starts.resolve_left digit⟩
      · exact .inl (Nat.pos_of_ne_zero whole)
  unfold numberLength at found
  split at found
  · split at found
    · dsimp only at found
      split at found
      · exact decimal n found
      · cases found
        omega
    · exact decimal n found
  · exact decimal n found

theorem takes_nameLexeme (state : State) (s : Text) : Takes s (nameLexeme state s) := by
  intro kind n after given
  simp only [nameLexeme] at given
  split at given
  · rename_i named
    cases given
    cases s with
    | nil => cases named
    | cons c rest =>
        refine ⟨nofun, List.length_pos_iff.2 ?_⟩
        intro empty
        rw [empty] at named
        cases named
  · cases given

theorem takes_operatorLexeme (state : State) (s : Text) : Takes s (operatorLexeme state s) := by
  intro kind n after given
  simp only [operatorLexeme, Option.bind_eq_bind, Option.bind_eq_some_iff] at given
  obtain ⟨o, found, c, first, given⟩ := given
  obtain ⟨more, rfl⟩ : ∃ more, o = c :: more := List.head?_eq_some_iff.1 first
  have nonempty : s ≠ [] := by
    rintro rfl
    have starts := List.find?_some found
    simp at starts
  refine ⟨nonempty, ?_⟩
  split at given
  · cases given
    simp
  · split at given
    · obtain ⟨closed, _, same⟩ := Option.bind_eq_some_iff.1 given
      cases same
      simp
    · split at given <;> cases given <;> simp

theorem takes_stringLexeme (state : State) (letters : Text) (quote c : CodePoint) (rest : Text) :
    Takes (c :: rest) (stringLexeme state letters quote (c :: rest)) := by
  intro kind n after given
  refine ⟨nofun, ?_⟩
  simp only [stringLexeme] at given
  split at given
  · cases given
    split <;> omega
  · obtain ⟨length, _, same⟩ := Option.map_eq_some_iff.1 given
    cases same
    split <;> omega

theorem takes_lexeme (state : State) (s : Text) : Takes s (lexeme state s) := by
  intro kind n after given
  unfold lexeme at given
  split at given
  · cases given
  · rename_i c rest
    split at given
    · rename_i breaks
      cases given
      exact ⟨nofun, Nat.pos_of_ne_zero (by simpa using breaks)⟩
    · split at given
      · rename_i starts
        obtain ⟨length, found, same⟩ := Option.map_eq_some_iff.1 given
        cases same
        simp only [Bool.or_eq_true, Bool.and_eq_true] at starts
        exact ⟨nofun, numberLength_pos c rest _ (starts.imp id And.left) found⟩
      · split at given
        · dsimp only at given
          split at given
          · split at given
            · exact takes_stringLexeme _ _ _ c rest kind n after given
            · exact takes_nameLexeme _ _ kind n after given
          · exact takes_nameLexeme _ _ kind n after given
        · exact takes_operatorLexeme _ _ kind n after given

theorem takes_literalLexeme (state : State) (frame : Frame) (s : Text) :
    Takes s (literalLexeme state frame s) := by
  intro kind n after given
  simp only [literalLexeme, Option.bind_eq_bind, Option.bind_eq_some_iff] at given
  obtain ⟨length, run, given⟩ := given
  split at given
  · rename_i long
    cases given
    cases s with
    | nil => cases run
    | cons c rest => exact ⟨nofun, Nat.pos_of_ne_zero (by simpa using long)⟩
  · split at given
    · cases given
      cases s with
      | nil => cases run
      | cons c rest =>
          refine ⟨nofun, ?_⟩
          split <;> omega
    · exact takes_operatorLexeme _ _ kind n after given

/-! ## Rounds -/

/-- How many rounds the rest of a source can take. -/
def rounds (state : State) (s : Text) : Nat :=
  if state.lineStart then if s = [] then 1 else 2 * s.length + 3 else 2 * s.length + 2

theorem rounds_le (state : State) (s : Text) : rounds state s ≤ 2 * s.length + 3 := by
  unfold rounds
  split
  · split <;> omega
  · omega

theorem rounds_pos (state : State) (s : Text) : 0 < rounds state s := by
  unfold rounds
  split
  · split <;> omega
  · omega

/-- Two ways to find tokens agree on what takes less than so many rounds. -/
def Agree (bound : Nat) (next next' : Next) : Prop :=
  ∀ state s, rounds state s < bound → next state s = next' state s

section Agree
variable {bound : Nat} {next next' : Next} (agree : Agree bound next next')
include agree

theorem lexed_agree (found : Gap) (rest : Text) (lex : Option (Kind × Nat × State))
    (takes : Takes rest lex) (enough : 2 * rest.length + 2 ≤ bound) :
    lexed next found rest lex = lexed next' found rest lex := by
  match lex with
  | none => rfl
  | some (kind, n, state) =>
      obtain ⟨nonempty, long⟩ := takes kind n state rfl
      have := List.length_pos_iff.2 nonempty
      have := rounds_le state (rest.drop n)
      simp only [lexed]
      rw [agree state (rest.drop n) (by rw [List.length_drop] at *; omega)]

theorem inLine_agree (newline : Text) (state : State) (before : Gap) (s : Text)
    (enough : 2 * s.length + 2 ≤ bound) :
    inLine newline next state before s = inLine newline next' state before s := by
  have whole := congrArg List.length (print_gapIn newline state s)
  rw [List.length_append] at whole
  simp only [inLine]
  split
  · rw [agree _ [] (by simp [rounds]; omega)]
  · rename_i c after goesOn
    rw [goesOn] at whole
    exact lexed_agree agree _ _ _ (takes_lexeme _ _) (by omega)

theorem atLine_agree (newline : Text) (state : State) (found : Gap) (rest : Text)
    (enough : 2 * rest.length + 3 ≤ bound) :
    atLine newline next state found rest = atLine newline next' state found rest := by
  have level : ∀ levels, next { state with levels := levels, lineStart := false } rest =
      next' { state with levels := levels, lineStart := false } rest := by
    intro levels
    exact agree _ _ (by simp only [rounds, Bool.false_eq_true, if_false]; omega)
  simp only [atLine, inLine_agree agree newline state found rest (by omega), level]

theorem round_agree (newline : Text) (state : State) (s : Text)
    (enough : rounds state s ≤ bound) :
    round newline next state s = round newline next' state s := by
  have least : s ≠ [] → 2 * s.length + 2 ≤ bound := by
    intro nonempty
    simp only [rounds, nonempty, if_false] at enough
    split at enough <;> omega
  unfold round
  split
  · rename_i frame _
    cases s with
    | nil => rfl
    | cons c rest =>
        exact lexed_agree agree _ _ _ (takes_literalLexeme _ _ _) (least nofun)
  · split
    · rename_i within
      have notStart : state.lineStart = false := by simpa using within
      simp only [rounds, notStart, Bool.false_eq_true, if_false] at enough
      exact inLine_agree agree newline state [] s enough
    · rename_i within
      have start : state.lineStart = true := by simpa using within
      have whole := congrArg List.length (print_blankLines newline false s)
      rw [List.length_append] at whole
      dsimp only
      split
      · rfl
      · rename_i c after goesOn
        rw [goesOn, List.length_cons] at whole
        have nonempty : s ≠ [] := by
          rintro rfl
          simp at whole
        simp only [rounds, start, nonempty, if_true, if_false] at enough
        exact atLine_agree agree newline state _ _ (by rw [List.length_cons]; omega)

end Agree

theorem tokensFrom_settled (newline : Text) (fuel : Nat) (state : State) (s : Text)
    (enough : rounds state s ≤ fuel) :
    tokensFrom newline (fuel + 1) state s = tokensFrom newline fuel state s := by
  induction fuel generalizing state s with
  | zero =>
      have := rounds_pos state s
      omega
  | succ fuel ih =>
      refine round_agree ?_ newline state s enough
      intro state' s' fewer
      exact ih state' s' (by omega)

end Scan

/-- More rounds than `scan?` has find nothing else. -/
theorem Token.tokensFrom_eq_scan? (newline source : Text) (fuel : Nat)
    (enough : 2 * source.length + 8 ≤ fuel) :
    Scan.tokensFrom newline fuel Scan.State.initial source = Token.scan? newline source := by
  induction enough with
  | refl => rfl
  | @step more le ih =>
      have fewer : 2 * source.length + 8 ≤ more := le
      have := Scan.rounds_le Scan.State.initial source
      rw [Scan.tokensFrom_settled newline more _ source (by omega), ih]

/-! ## Sources -/

/-- A source is read as it would be with any more rounds and fuel. -/
theorem Source.read_eq_of_fuel (start : Python.Syn)
    (among : start ∈ [Python.file, Python.oneStatement, Python.oneExpression]) (source : Text)
    (rounds fuel : Nat) (enoughRounds : 2 * source.length + 8 ≤ rounds)
    (enough : ∀ tokens, Token.scan? (newlineOf source) source = some tokens →
      128 * (tokens.length + 2) ≤ fuel) :
    Source.read start source =
      if Text.hasSurrogate source then .error .surrogate
      else
        match Scan.tokensFrom (newlineOf source) rounds Scan.State.initial source with
        | none => .error .grammar
        | some tokens =>
            match Grammar.read Python.rules fuel start tokens with
            | some (row, []) =>
                if Token.mixesBytes tokens then .error .mixedStrings else .ok row
            | _ => .error .grammar := by
  obtain ⟨ground, shallow⟩ := Python.starts_grounded start among
  rw [Token.tokensFrom_eq_scan? _ _ _ enoughRounds]
  unfold Source.read
  cases scanned : Token.scan? (newlineOf source) source with
  | none => rfl
  | some tokens =>
      have same := Python.read_eq_read? start ground shallow tokens fuel (enough tokens scanned)
      dsimp only
      generalize Grammar.read Python.rules fuel start tokens = reading at same ⊢
      subst same
      rfl

end ClassMaps
