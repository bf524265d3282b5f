import ClassMaps.Grammar

/-!
# What a grammar can read

A derivation tells how a grammar has read a row, step by step, without the fuel
and without the choices that came to nothing.  Whatever the reader gives has
one, so that what every step of a derivation keeps, every reading keeps.
-/

set_option autoImplicit false

namespace ClassMaps

namespace Grammar

variable {Rule : Type}

/-! ## One step of reading -/

section Step
variable (rules : Rule → Grammar Rule) (fuel : Nat) (first second item body : Grammar Rule) (token : Token)
  (tokens rest : List Token) (row : List Fragment) (again : Bool)
  (tails : List (Tail (Grammar Rule)))

theorem read_zero : read rules 0 item tokens = none := rfl

theorem read_done : read rules (fuel + 1) .done tokens = some ([], tokens) := rfl

theorem read_word (text : Text) : read rules (fuel + 1) (.word text) (token :: rest) =
    if isWord token text then some ([.gap token.gap, .token token.text], rest) else none := rfl

theorem read_kind (wanted : Kind) : read rules (fuel + 1) (.kind wanted) (token :: rest) =
    if token.kind = wanted then some ([.gap token.gap, .token token.text], rest) else none := rfl

theorem read_seq : read rules (fuel + 1) (first ++ second) tokens =
    match read rules fuel first tokens with
    | none => none
    | some (row, rest) =>
        match read rules fuel second rest with
        | none => none
        | some (more, left) => some (row ++ more, left) := rfl

theorem read_either : read rules (fuel + 1) (.either first second) tokens =
    match read rules fuel first tokens with
    | none => read rules fuel second tokens
    | found => found := rfl

theorem read_many : read rules (fuel + 1) (.many item) tokens =
    match read rules fuel item tokens with
    | none => some ([], tokens)
    | some (row, rest) =>
        match read rules fuel (.many item) rest with
        | none => none
        | some (more, left) => some (row ++ more, left) := rfl

theorem read_ahead : read rules (fuel + 1) (.ahead item) tokens =
    if (read rules fuel item tokens).isSome then some ([], tokens) else none := rfl

theorem read_unless : read rules (fuel + 1) (.unless item) tokens =
    if (read rules fuel item tokens).isSome then none else some ([], tokens) := rfl

theorem read_node (label : Fragment.Label) : read rules (fuel + 1) (.node label body) tokens =
    (read rules fuel body tokens).map fun (row, rest) => (Fragment.wrap label row, rest) := rfl

theorem read_only (guard : Expr → Bool) : read rules (fuel + 1) (.only guard body) tokens =
    (read rules fuel body tokens).filter fun found => admits guard found.1 := rfl

theorem read_rule (r : Rule) : read rules (fuel + 1) (.rule r) tokens =
    read rules fuel (rules r) tokens := rfl

theorem read_grow : read rules (fuel + 1) (.grow again first tails) tokens =
    match read rules fuel first tokens with
    | none => none
    | some (row, rest) => growFrom rules fuel again tails row rest := rfl

theorem growFrom_succ : growFrom rules (fuel + 1) again tails row tokens =
    match firstTail rules fuel tails row tokens with
    | none => some (row, tokens)
    | some (grown, rest) =>
        if again then growFrom rules fuel again tails grown rest else some (grown, rest) := rfl

theorem firstTail_cons (guard : Expr → Bool) (label : Fragment.Label) :
    firstTail rules (fuel + 1) (⟨guard, label, body⟩ :: tails) row tokens =
    match (if admits guard row then read rules fuel body tokens else none) with
    | none => firstTail rules fuel tails row tokens
    | some (more, rest) => some (Fragment.wrap label (row ++ more), rest) := rfl

end Step

/-! ## Derivations -/

/-- What is to be read: a grammar, or tails after a row. -/
inductive Goal (Rule : Type)
  | whole (grammar : Grammar Rule)
  | after (tails : List (Tail (Grammar Rule))) (row : List Fragment)

/-- The row that a goal starts with. -/
def Goal.row : Goal Rule → List Fragment
  | .whole _ => []
  | .after _ row => row

/-- The goal reads the row, with the one it starts with, and leaves the rest. -/
inductive Derives (rules : Rule → Grammar Rule) :
    Goal Rule → List Token → List Fragment → List Token → Prop
  | done (tokens : List Token) : Derives rules (.whole .done) tokens [] tokens
  | word {text : Text} {token : Token} (rest : List Token) (same : isWord token text = true) :
      Derives rules (.whole (.word text)) (token :: rest) [.gap token.gap, .token token.text] rest
  | kind {wanted : Kind} {token : Token} (rest : List Token) (same : token.kind = wanted) :
      Derives rules (.whole (.kind wanted)) (token :: rest) [.gap token.gap, .token token.text] rest
  | seq {first second : Grammar Rule} {tokens rest left : List Token} {row more : List Fragment}
      (one : Derives rules (.whole first) tokens row rest)
      (two : Derives rules (.whole second) rest more left) :
      Derives rules (.whole (.seq first second)) tokens (row ++ more) left
  | first {first : Grammar Rule} (second : Grammar Rule) {tokens rest : List Token}
      {row : List Fragment} (one : Derives rules (.whole first) tokens row rest) :
      Derives rules (.whole (.either first second)) tokens row rest
  | second (first : Grammar Rule) {second : Grammar Rule} {tokens rest : List Token}
      {row : List Fragment} (two : Derives rules (.whole second) tokens row rest) :
      Derives rules (.whole (.either first second)) tokens row rest
  | none (item : Grammar Rule) (tokens : List Token) :
      Derives rules (.whole (.many item)) tokens [] tokens
  | more {item : Grammar Rule} {tokens rest left : List Token} {row more : List Fragment}
      (one : Derives rules (.whole item) tokens row rest)
      (others : Derives rules (.whole (.many item)) rest more left) :
      Derives rules (.whole (.many item)) tokens (row ++ more) left
  | ahead (item : Grammar Rule) (tokens : List Token) :
      Derives rules (.whole (.ahead item)) tokens [] tokens
  | unless (item : Grammar Rule) (tokens : List Token) :
      Derives rules (.whole (.unless item)) tokens [] tokens
  | node (label : Fragment.Label) {body : Grammar Rule} {tokens rest : List Token}
      {row : List Fragment} (inner : Derives rules (.whole body) tokens row rest) :
      Derives rules (.whole (.node label body)) tokens (Fragment.wrap label row) rest
  | only {guard : Expr → Bool} {body : Grammar Rule} {tokens rest : List Token}
      {row : List Fragment} (inner : Derives rules (.whole body) tokens row rest)
      (admitted : admits guard row = true) :
      Derives rules (.whole (.only guard body)) tokens row rest
  | grow (again : Bool) {first : Grammar Rule} {tails : List (Tail (Grammar Rule))}
      {tokens rest left : List Token} {row grown : List Fragment}
      (one : Derives rules (.whole first) tokens row rest)
      (others : Derives rules (.after tails row) rest grown left) :
      Derives rules (.whole (.grow again first tails)) tokens grown left
  | rule {r : Rule} {tokens rest : List Token} {row : List Fragment}
      (inner : Derives rules (.whole (rules r)) tokens row rest) :
      Derives rules (.whole (.rule r)) tokens row rest
  | stop (tails : List (Tail (Grammar Rule))) (row : List Fragment) (tokens : List Token) :
      Derives rules (.after tails row) tokens row tokens
  | follow {tails : List (Tail (Grammar Rule))} {tail : Tail (Grammar Rule)}
      {tokens rest left : List Token} {row more grown : List Fragment} (among : tail ∈ tails)
      (one : Derives rules (.whole tail.body) tokens more rest)
      (others : Derives rules (.after tails (Fragment.wrap tail.label (row ++ more))) rest
        grown left) :
      Derives rules (.after tails row) tokens grown left

variable {rules : Rule → Grammar Rule}

/-- Growing by one of the tails, whatever is made of it then. -/
def Follows (rules : Rule → Grammar Rule) (tails : List (Tail (Grammar Rule)))
    (row : List Fragment) (tokens : List Token) (grown : List Fragment) (rest : List Token) : Prop :=
  ∃ tail ∈ tails, ∃ more, Derives rules (.whole tail.body) tokens more rest ∧
    grown = Fragment.wrap tail.label (row ++ more)

theorem derives_of_fuel (fuel : Nat) :
    (∀ grammar tokens row rest, read rules fuel grammar tokens = some (row, rest) →
      Derives rules (.whole grammar) tokens row rest) ∧
    (∀ again tails row tokens grown rest,
      growFrom rules fuel again tails row tokens = some (grown, rest) →
      Derives rules (.after tails row) tokens grown rest) ∧
    (∀ tails row tokens grown rest,
      firstTail rules fuel tails row tokens = some (grown, rest) →
      Follows rules tails row tokens grown rest) := by
  induction fuel with
  | zero => exact ⟨nofun, nofun, nofun⟩
  | succ fuel ih =>
      obtain ⟨readDerives, growDerives, tailFollows⟩ := ih
      refine ⟨fun grammar tokens row rest given => ?_,
        fun again tails row tokens grown rest given => ?_,
        fun tails row tokens grown rest given => ?_⟩
      · cases grammar with
        | done => cases given; exact .done tokens
        | word text =>
            cases tokens with
            | nil => cases given
            | cons token after =>
                obtain ⟨same, taken⟩ := Option.ite_none_right_eq_some.1 given
                cases taken
                exact .word rest same
        | kind wanted =>
            cases tokens with
            | nil => cases given
            | cons token after =>
                obtain ⟨same, taken⟩ := Option.ite_none_right_eq_some.1 given
                cases taken
                exact .kind rest same
        | seq first second =>
            simp only [read] at given
            split at given
            · cases given
            · rename_i one left oneRead
              split at given
              · cases given
              · rename_i two last twoRead
                cases given
                exact .seq (readDerives _ _ _ _ oneRead) (readDerives _ _ _ _ twoRead)
        | either first second =>
            simp only [read] at given
            split at given
            · exact .second first (readDerives _ _ _ _ given)
            · exact .first second (readDerives _ _ _ _ given)
        | many item =>
            simp only [read] at given
            split at given
            · cases given
              exact .none item tokens
            · rename_i one left oneRead
              split at given
              · cases given
              · rename_i others last othersRead
                cases given
                exact .more (readDerives _ _ _ _ oneRead) (readDerives _ _ _ _ othersRead)
        | ahead item =>
            obtain ⟨_, taken⟩ := Option.ite_none_right_eq_some.1 given
            cases taken
            exact .ahead item tokens
        | «unless» item =>
            obtain ⟨_, taken⟩ := Option.ite_none_left_eq_some.1 given
            cases taken
            exact .unless item tokens
        | node label body =>
            obtain ⟨⟨inner, left⟩, innerRead, same⟩ := Option.map_eq_some_iff.1 given
            cases same
            exact .node label (readDerives _ _ _ _ innerRead)
        | only guard body =>
            obtain ⟨innerRead, admitted⟩ := Option.filter_eq_some_iff.1 given
            exact .only (readDerives _ _ _ _ innerRead) admitted
        | grow again first tails =>
            simp only [read] at given
            split at given
            · cases given
            · rename_i one left oneRead
              exact .grow again (readDerives _ _ _ _ oneRead) (growDerives _ _ _ _ _ _ given)
        | rule r => exact .rule (readDerives _ _ _ _ given)
      · simp only [growFrom] at given
        split at given
        · cases given
          exact .stop tails row tokens
        · rename_i followed left tailRead
          obtain ⟨tail, among, more, one, rfl⟩ := tailFollows _ _ _ _ _ tailRead
          split at given
          · exact .follow among one (growDerives _ _ _ _ _ _ given)
          · cases given
            exact .follow among one (.stop _ _ _)
      · cases tails with
        | nil => cases given
        | cons head tails =>
            obtain ⟨guard, label, body⟩ := head
            simp only [firstTail] at given
            split at given
            · obtain ⟨tail, among, follows⟩ := tailFollows _ _ _ _ _ given
              exact ⟨tail, List.mem_cons_of_mem _ among, follows⟩
            · rename_i more left bodyRead
              cases given
              have bodyRead : read rules fuel body tokens = some (more, rest) := by
                split at bodyRead
                · exact bodyRead
                · cases bodyRead
              exact ⟨_, List.mem_cons_self .., more, readDerives _ _ _ _ bodyRead, rfl⟩

/-- Whatever a grammar reads, it derives. -/
theorem derives_of_read {fuel : Nat} {grammar : Grammar Rule} {tokens rest : List Token}
    {row : List Fragment} (given : read rules fuel grammar tokens = some (row, rest)) :
    Derives rules (.whole grammar) tokens row rest :=
  (derives_of_fuel fuel).1 grammar tokens row rest given

end Grammar

end ClassMaps
