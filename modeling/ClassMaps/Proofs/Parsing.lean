import ClassMaps.Proofs.Lexing
import ClassMaps.Grammar.Derivation
import ClassMaps.Grammar.Python

/-!
# Reading what is written

A reading says what a grammar gives on a row of tokens with any fuel that is
enough, and a failure that it gives nothing with any fuel at all.  Both are put
together as the grammar is.  By them an operand that no operator follows is a
whole expression, and the tokens of a lookup are read as the lookup, up to any
token that ends an expression.
-/

set_option autoImplicit false

namespace ClassMaps

namespace Grammar

variable {Rule : Type} (rules : Rule → Grammar Rule)

/-! ## Whole readings -/

/-- With fuel enough, the grammar reads this row and leaves these tokens. -/
def Reads (fuel : Nat) (g : Grammar Rule) (tokens : List Token) (row : List Fragment)
    (rest : List Token) : Prop :=
  ∀ more, fuel ≤ more → read rules more g tokens = some (row, rest)

/-- The grammar reads nothing here, whatever the fuel. -/
def Fails (g : Grammar Rule) (tokens : List Token) : Prop := ∀ fuel, read rules fuel g tokens = none

def Grows (fuel : Nat) (again : Bool) (tails : List (Tail (Grammar Rule))) (row : List Fragment)
    (tokens : List Token) (grown : List Fragment) (rest : List Token) : Prop :=
  ∀ more, fuel ≤ more → growFrom rules more again tails row tokens = some (grown, rest)

def Picks (fuel : Nat) (tails : List (Tail (Grammar Rule))) (row : List Fragment)
    (tokens : List Token) (grown : List Fragment) (rest : List Token) : Prop :=
  ∀ more, fuel ≤ more → firstTail rules more tails row tokens = some (grown, rest)

variable {rules} {first second item body : Grammar Rule} {tokens rest left : List Token}
  {row more grown : List Fragment} {m n : Nat} {token : Token}
  {tails : List (Tail (Grammar Rule))}

theorem exists_fuel {needed fuel : Nat} (enough : needed + 1 ≤ fuel) :
    ∃ less, fuel = less + 1 ∧ needed ≤ less :=
  ⟨fuel - 1, by omega, by omega⟩

namespace Fails

theorem word (text : Text) (differs : isWord token text = false) :
    Fails rules (.word text) (token :: rest) := by
  intro fuel
  cases fuel with
  | zero => rfl
  | succ fuel => rw [read_word, differs, if_neg Bool.false_ne_true]

theorem kind (wanted : Kind) (differs : token.kind ≠ wanted) :
    Fails rules (.kind wanted) (token :: rest) := by
  intro fuel
  cases fuel with
  | zero => rfl
  | succ fuel => rw [read_kind, if_neg differs]

theorem seq (fails : Fails rules first tokens) : Fails rules (first ++ second) tokens := by
  intro fuel
  cases fuel with
  | zero => rfl
  | succ fuel => simp only [read_seq, fails fuel]

theorem either (fails : Fails rules first tokens) (also : Fails rules second tokens) :
    Fails rules (.either first second) tokens := by
  intro fuel
  cases fuel with
  | zero => rfl
  | succ fuel => simp only [read_either, fails fuel, also fuel]

/-- What may come first does not, and what must come next does not, either. -/
theorem optional_seq (fails : Fails rules first tokens) (also : Fails rules second tokens) :
    Fails rules (optional first ++ second) tokens := by
  intro fuel
  match fuel with
  | 0 | 1 => rfl
  | 2 => simp only [read_seq, optional, read_either, read_zero]
  | fuel + 3 =>
      simp only [read_seq, optional, read_either, fails (fuel + 1), read_done, also (fuel + 2)]

theorem node (label : Fragment.Label) (fails : Fails rules body tokens) :
    Fails rules (.node label body) tokens := by
  intro fuel
  cases fuel with
  | zero => rfl
  | succ fuel => rw [read_node, fails fuel, Option.map_none]

theorem rule (r : Rule) (fails : Fails rules (rules r) tokens) : Fails rules (.rule r) tokens := by
  intro fuel
  cases fuel with
  | zero => rfl
  | succ fuel => rw [read_rule, fails fuel]

end Fails

namespace Reads

theorem mono (given : Reads rules m item tokens row rest) (le : m ≤ n) :
    Reads rules n item tokens row rest :=
  fun fuel enough => given fuel (Nat.le_trans le enough)

theorem word (text : Text) (same : isWord token text = true) :
    Reads rules 1 (.word text) (token :: rest) [.gap token.gap, .token token.text] rest := by
  intro fuel enough
  obtain ⟨fuel, rfl, _⟩ := exists_fuel enough
  rw [read_word, if_pos same]

theorem kind (wanted : Kind) (same : token.kind = wanted) :
    Reads rules 1 (.kind wanted) (token :: rest) [.gap token.gap, .token token.text] rest := by
  intro fuel enough
  obtain ⟨fuel, rfl, _⟩ := exists_fuel enough
  rw [read_kind, if_pos same]

theorem seq (one : Reads rules m first tokens row rest)
    (two : Reads rules n second rest more left) :
    Reads rules (max m n + 1) (first ++ second) tokens (row ++ more) left := by
  intro fuel enough
  obtain ⟨fuel, rfl, least⟩ := exists_fuel enough
  simp only [read_seq, one fuel (by omega), two fuel (by omega)]

theorem either_first (given : Reads rules m first tokens row rest) :
    Reads rules (m + 1) (.either first second) tokens row rest := by
  intro fuel enough
  obtain ⟨fuel, rfl, least⟩ := exists_fuel enough
  simp only [read_either, given fuel least]

theorem either_second (fails : Fails rules first tokens)
    (given : Reads rules m second tokens row rest) :
    Reads rules (m + 1) (.either first second) tokens row rest := by
  intro fuel enough
  obtain ⟨fuel, rfl, least⟩ := exists_fuel enough
  simp only [read_either, fails fuel, given fuel least]

theorem done : Reads rules 1 .done tokens [] tokens := by
  intro fuel enough
  obtain ⟨fuel, rfl, _⟩ := exists_fuel enough
  rfl

theorem optional_none (fails : Fails rules item tokens) :
    Reads rules 2 (optional item) tokens [] tokens :=
  either_second fails done

theorem many_none (fails : Fails rules item tokens) :
    Reads rules 1 (.many item) tokens [] tokens := by
  intro fuel enough
  obtain ⟨fuel, rfl, _⟩ := exists_fuel enough
  simp only [read_many, fails fuel]

theorem unless_fails (fails : Fails rules item tokens) :
    Reads rules 1 (.unless item) tokens [] tokens := by
  intro fuel enough
  obtain ⟨fuel, rfl, _⟩ := exists_fuel enough
  rw [read_unless, fails fuel]
  rfl

theorem node (label : Fragment.Label) (given : Reads rules m body tokens row rest) :
    Reads rules (m + 1) (.node label body) tokens (Fragment.wrap label row) rest := by
  intro fuel enough
  obtain ⟨fuel, rfl, least⟩ := exists_fuel enough
  rw [read_node, given fuel least, Option.map_some]

theorem rule (r : Rule) (given : Reads rules m (rules r) tokens row rest) :
    Reads rules (m + 1) (.rule r) tokens row rest := by
  intro fuel enough
  obtain ⟨fuel, rfl, least⟩ := exists_fuel enough
  rw [read_rule, given fuel least]

theorem grow {again : Bool} (given : Reads rules m first tokens row rest)
    (grows : Grows rules n again tails row rest grown left) :
    Reads rules (max m n + 1) (.grow again first tails) tokens grown left := by
  intro fuel enough
  obtain ⟨fuel, rfl, least⟩ := exists_fuel enough
  simp only [read_grow, given fuel (by omega), grows fuel (by omega)]

end Reads

theorem firstTail_fails (fails : ∀ tail ∈ tails, Fails rules tail.body tokens) (fuel : Nat) :
    firstTail rules fuel tails row tokens = none := by
  induction tails generalizing fuel with
  | nil => cases fuel <;> rfl
  | cons tail tails ih =>
      obtain ⟨guard, label, body⟩ := tail
      cases fuel with
      | zero => rfl
      | succ fuel =>
          have own : Fails rules body tokens := fails ⟨guard, label, body⟩ (List.mem_cons_self ..)
          have others := ih (fun tail member => fails tail (List.mem_cons_of_mem _ member)) fuel
          simp only [firstTail_cons, own fuel, ite_self, others]

theorem Grows.stop (again : Bool) (fails : ∀ tail ∈ tails, Fails rules tail.body tokens) :
    Grows rules 1 again tails row tokens row tokens := by
  intro fuel enough
  obtain ⟨fuel, rfl, _⟩ := exists_fuel enough
  simp only [growFrom_succ, firstTail_fails fails fuel]

theorem Grows.stop_one (again : Bool) (label : Fragment.Label)
    (fails : Fails rules body tokens) :
    Grows rules 1 again [tail label body] row tokens row tokens := by
  refine .stop again ?_
  intro only member
  rw [List.mem_singleton] at member
  subst member
  exact fails

theorem Grows.again {found : List Fragment} (picks : Picks rules m tails row tokens found rest)
    (grows : Grows rules n true tails found rest grown left) :
    Grows rules (max m n + 1) true tails row tokens grown left := by
  intro fuel enough
  obtain ⟨fuel, rfl, least⟩ := exists_fuel enough
  simp only [growFrom_succ, picks fuel (by omega), if_true, grows fuel (by omega)]

theorem Picks.here (label : Fragment.Label) (given : Reads rules m body tokens more rest) :
    Picks rules (m + 1) (tail label body :: tails) row tokens (Fragment.wrap label (row ++ more))
      rest := by
  intro fuel enough
  obtain ⟨fuel, rfl, least⟩ := exists_fuel enough
  have admitted : admits (fun _ => true) row = true := by
    simp only [admits, List.all_eq_true]
    intro fragment _
    cases fragment <;> rfl
  simp only [tail, firstTail_cons, admitted, if_true, given fuel least]

theorem Picks.there (label : Fragment.Label) (fails : Fails rules body tokens)
    (picks : Picks rules m tails row tokens grown rest) :
    Picks rules (m + 1) (tail label body :: tails) row tokens grown rest := by
  intro fuel enough
  obtain ⟨fuel, rfl, least⟩ := exists_fuel enough
  simp only [tail, firstTail_cons, fails fuel, ite_self, picks fuel least]

end Grammar

/-! ## Expressions up to a token -/

namespace Python

open Grammar

/-- The words that an expression can start with before its first operand. -/
def leadingWords : List Text :=
  [text "*", text "lambda", text "not", text "+", text "-", text "~", text "await"]

/-- The words that an expression can go on with after an operand. -/
def continuingWords : List Text :=
  [text "if", text "or", text "and", text "==", text "!=", text "<=", text "<", text ">=",
   text ">", text "not", text "in", text "is", text "|", text "^", text "&", text "<<", text ">>",
   text "+", text "-", text "*", text "/", text "//", text "%", text "@", text "**", text ".",
   text "(", text "["]

/-- The token starts an operand. -/
def StartsOperand (token : Token) : Prop := ∀ w ∈ leadingWords, isWord token w = false

/-- The token ends an expression. -/
def EndsExpression (token : Token) : Prop := ∀ w ∈ continuingWords, isWord token w = false

instance : DecidablePred EndsExpression := fun token =>
  inferInstanceAs (Decidable (∀ w ∈ continuingWords, isWord token w = false))

section Operand
variable {token stop : Token} {rest post : List Token} {row : List Fragment} {n : Nat}

theorem reads_chain {operand operator : Syn} {tokens : List Token}
    (given : Reads rules n operand tokens row post) (fails : Fails rules operator post) :
    Reads rules (n + 2) (chain operand operator) tokens row post := by
  exact (given.grow (.stop_one false _ fails.seq.seq)).mono (by omega)

/-- An operand that no operator follows is a whole expression. -/
theorem reads_expression (starts : StartsOperand token) (ends : EndsExpression stop)
    (operand : Reads rules n (call .primary) (token :: rest) row (stop :: post)) :
    Reads rules (n + 42) (call .expression) (token :: rest) row (stop :: post) := by
  have stops : ∀ s, text s ∈ continuingWords → Fails rules (word s) (stop :: post) :=
    fun s member => .word _ (ends _ member)
  have unled : ∀ s, text s ∈ leadingWords → Fails rules (word s) (token :: rest) :=
    fun s member => .word _ (starts _ member)
  have awaited := Reads.rule Rule.awaited
    (.either_second (.node _ (unled "await" (by decide)).seq) operand)
  have power := Reads.rule Rule.power
    (awaited.grow (.stop_one false _ (stops "**" (by decide)).seq))
  have factor := Reads.rule Rule.factor (.either_second
    (.node _ (.seq (.either (unled "+" (by decide))
      (.either (unled "-" (by decide)) (unled "~" (by decide)))))) power)
  have term := Reads.rule Rule.term (reads_chain factor
    (.either (stops "*" (by decide)) (.either (stops "/" (by decide))
      (.either (stops "//" (by decide)) (.either (stops "%" (by decide)) (stops "@" (by decide)))))))
  have sum := Reads.rule Rule.sum (reads_chain term
    (.either (stops "+" (by decide)) (stops "-" (by decide))))
  have shift := Reads.rule Rule.shift (reads_chain sum
    (.either (stops "<<" (by decide)) (stops ">>" (by decide))))
  have bitAnd := Reads.rule Rule.bitAnd (reads_chain shift (stops "&" (by decide)))
  have bitXor := Reads.rule Rule.bitXor (reads_chain bitAnd (stops "^" (by decide)))
  have bitOr := Reads.rule Rule.bitOr (reads_chain bitXor (stops "|" (by decide)))
  have comparison := Reads.rule Rule.comparison (reads_chain bitOr
    (.either (stops "==" (by decide)) (.either (stops "!=" (by decide))
      (.either (stops "<=" (by decide)) (.either (stops "<" (by decide))
        (.either (stops ">=" (by decide)) (.either (stops ">" (by decide))
          (.either (stops "not" (by decide)).seq (.either (stops "in" (by decide))
            (.either (stops "is" (by decide)).seq (stops "is" (by decide))))))))))))
  have inversion := Reads.rule Rule.inversion
    (.either_second (.node _ (unled "not" (by decide)).seq) comparison)
  have conjunction := Reads.rule Rule.conjunction (reads_chain inversion (stops "and" (by decide)))
  have disjunction := Reads.rule Rule.disjunction (reads_chain conjunction (stops "or" (by decide)))
  have whole := Reads.rule Rule.expression (.either_second
    (.node _ (unled "lambda" (by decide)).seq.seq.seq)
    (disjunction.grow (.stop_one false _ (stops "if" (by decide)).seq.seq.seq)))
  exact whole.mono (by omega)

end Operand

/-! ## Literals -/

theorem fails_operandTails {stop : Token} {post : List Token} (ends : EndsExpression stop) :
    ∀ tail ∈ [attributeTail, callTail, subscriptTail], Fails rules tail.body (stop :: post) := by
  intro tail member
  simp only [List.mem_cons, List.not_mem_nil, or_false] at member
  rcases member with rfl | rfl | rfl
  · exact (Fails.word _ (ends _ (by decide))).seq
  · exact (Fails.word _ (ends _ (by decide))).seq
  · exact (Fails.word _ (ends _ (by decide))).seq.seq

theorem reads_literal (literal : Text) (stop : Token) (post : List Token)
    (ends : EndsExpression stop) (noString : stop.startsString = false) :
    Reads rules 60 (call .expression) (.ofLiteral literal :: stop :: post)
      [.gap [], .expr (.string literal)] (stop :: post) := by
  simp only [Token.startsString, Bool.or_eq_false_iff, decide_eq_false_iff_not] at noString
  have item : Reads rules 3 (Grammar.either (.node .string (.kind .string)) (call .formatted))
      (.ofLiteral literal :: stop :: post) [.gap [], .expr (.string literal)] (stop :: post) :=
    .either_first (.node .string (.kind .string rfl))
  have noMore : Fails rules (Grammar.either (.node .string (.kind .string)) (call .formatted))
      (stop :: post) :=
    .either (.node _ (.kind _ noString.1)) (.rule _ (.node _ (Fails.kind _ noString.2).seq.seq))
  have strings := Reads.node .strings (item.seq (.many_none noMore))
  have noName : Fails rules identifier (.ofLiteral literal :: stop :: post) :=
    .node _ (.kind _ (by simp [Token.ofLiteral]))
  have noConstant : Fails rules constant (.ofLiteral literal :: stop :: post) :=
    .node _ (.either (.word _ rfl) (.either (.word _ rfl) (.word _ rfl)))
  have atom : Reads rules 9 (call .atom) (.ofLiteral literal :: stop :: post)
      [.gap [], .expr (.string literal)] (stop :: post) :=
    .rule _ (.either_second noName (.either_second noConstant (.either_first strings)))
  have primary := Reads.rule Rule.primary (atom.grow (.stop true (fails_operandTails ends)))
  exact (reads_expression (fun _ _ => rfl) ends primary).mono (by decide)

section Bracketed
variable (literal : Text) (post : List Token)

/-- A literal is neither a marked argument nor the start of an assignment. -/
theorem fails_marked (tokens : List Token) :
    Fails rules starArgument (.ofLiteral literal :: tokens) ∧
    Fails rules mappedArgument (.ofLiteral literal :: tokens) ∧
    Fails rules keywordArgument (.ofLiteral literal :: tokens) ∧
    Fails rules assignmentExpression (.ofLiteral literal :: tokens) := by
  have noName : Fails rules identifier (.ofLiteral literal :: tokens) :=
    .node _ (.kind _ (by simp [Token.ofLiteral]))
  exact ⟨.node _ (.seq (.word _ rfl)), .node _ (.seq (.word _ rfl)), .node _ noName.seq.seq,
    .node _ noName.seq.seq⟩

theorem reads_call :
    Reads rules 80 callTail.body
      (.ofOperator '(' :: .ofLiteral literal :: .ofOperator ')' :: post)
      [.gap [], .token (sign '('), .gap [], .slot (.bare (.string literal)), .gap [],
        .token (sign ')')] post := by
  obtain ⟨noStar, noMapped, noKeyword, noAssignment⟩ :=
    fails_marked literal (.ofOperator ')' :: post)
  have value := reads_literal literal (.ofOperator ')') post (by decide) (by decide)
  have named : Reads rules 63 (call .namedExpression)
      (.ofLiteral literal :: .ofOperator ')' :: post) [.gap [], .expr (.string literal)]
      (.ofOperator ')' :: post) :=
    .rule _ (.either_second noAssignment (value.seq (.unless_fails (.word _ (by decide)))))
  have noClauses : Fails rules (call .clauses) (.ofOperator ')' :: post) :=
    .rule _ (.seq (.seq (.seq (.seq (.seq (.optional_seq (.word _ (by decide))
      (.word _ (by decide))))))))
  have noEquals : Fails rules (word "=") (.ofOperator ')' :: post) := .word _ (by decide)
  have positional : Reads rules 64 (extend (call .namedExpression) [comprehensionTail ")"])
      (.ofLiteral literal :: .ofOperator ')' :: post) [.gap [], .expr (.string literal)]
      (.ofOperator ')' :: post) :=
    named.grow (.stop_one false _ noClauses.seq)
  have argument := Reads.node .argument (positional.seq (.unless_fails noEquals))
  have arguments : Reads rules 75 (call .firstArguments)
      (.ofLiteral literal :: .ofOperator ')' :: post) [.gap [], .slot (.bare (.string literal))]
      (.ofOperator ')' :: post) :=
    .mono (.rule _ (.either_second noStar.seq (.either_second noMapped.seq
      (.either_second noKeyword.seq
        (argument.seq (.optional_none (.seq (.word _ (by decide))))))))) (by decide)
  exact .mono ((Reads.word _ (by decide)).seq (.either_second (.word _ rfl)
    (arguments.seq (.word _ (by decide))))) (by decide)

theorem reads_subscript :
    Reads rules 80 subscriptTail.body
      (.ofOperator '[' :: .ofLiteral literal :: .ofOperator ']' :: post)
      [.gap [], .token (sign '['), .gap [], .slot (.bare (.string literal)), .gap [],
        .token (sign ']')] post := by
  obtain ⟨noStar, _, _, noAssignment⟩ :=
    fails_marked literal (.ofOperator ']' :: post)
  have value := reads_literal literal (.ofOperator ']') post (by decide) (by decide)
  have noSlice : Fails rules sliceRest (.ofOperator ']' :: post) :=
    (Fails.word _ (by decide)).seq.seq
  have noWalrus : Fails rules (word ":=") (.ofOperator ']' :: post) := .word _ (by decide)
  have noComma : Fails rules (word ",") (.ofOperator ']' :: post) := .word _ (by decide)
  have extended := (value.seq (.unless_fails noWalrus)).grow (.stop_one false (.other .slice) noSlice)
  have one : Reads rules 66 index (.ofLiteral literal :: .ofOperator ']' :: post)
      [.gap [], .slot (.bare (.string literal))] (.ofOperator ']' :: post) :=
    .mono (.either_second noStar (.node .argument
      (.either_second (.node _ (.seq (.seq (.word _ rfl))))
        (.either_second noAssignment extended)))) (by decide)
  have items : Reads rules 68 (listed index) (.ofLiteral literal :: .ofOperator ']' :: post)
      [.gap [], .slot (.bare (.string literal))] (.ofOperator ']' :: post) :=
    (one.seq (.many_none noComma.seq)).seq (.optional_none noComma)
  exact .mono (((Reads.word _ (by decide)).seq items).seq (.word _ (by decide))) (by decide)

end Bracketed

/-! ## Lookups -/

/-- The keywords that are read as names. -/
def constants : List Text := [text "None", text "True", text "False"]

/-- Whether a name is read as one: if it is no keyword, or a constant. -/
def isReadable (name : Text) : Bool := !Scan.keywords.contains name || constants.contains name

section Name
variable (gap : Gap) (name : Text) (readable : isReadable name = true)
include readable

theorem reads_name (rest : List Token) :
    Reads rules 8 (call .atom) (.ofName gap name :: rest) [.gap gap, .expr (.name name)] rest := by
  cases keyword : Scan.keywords.contains name with
  | false =>
      rw [Token.ofName, keyword]
      exact .mono (.rule _ (.either_first (.node .name (.kind .name rfl)))) (by decide)
  | true =>
      have isConstant : constants.contains name = true := by
        rwa [isReadable, keyword, Bool.not_true, Bool.false_or] at readable
      have isKeyword : (Token.ofName gap name).kind = .keyword := by
        rw [Token.ofName, keyword]
        rfl
      have same : ∀ w, isWord (.ofName gap name) w = decide (name = w) := by
        intro w
        rw [isWord, isKeyword]
        rfl
      have noName : Fails rules identifier (.ofName gap name :: rest) :=
        .node _ (.kind _ (by simp [isKeyword]))
      have oneOf : Reads rules 3 (word "None" <|> word "True" <|> word "False")
          (.ofName gap name :: rest) [.gap gap, .token name] rest := by
        simp only [constants, List.contains_iff_mem, List.mem_cons, List.not_mem_nil, or_false]
          at isConstant
        rcases isConstant with rfl | rfl | rfl
        · exact .mono (.either_first (.word _ (by rw [same]; decide))) (by decide)
        · exact .mono (.either_second (.word _ (by rw [same]; decide))
            (.either_first (.word _ (by rw [same]; decide)))) (by decide)
        · exact .either_second (.word _ (by rw [same]; decide))
            (.either_second (.word _ (by rw [same]; decide)) (.word _ (by rw [same]; decide)))
      exact .mono (.rule _ (.either_second noName (.either_first (.node .name oneOf)))) (by decide)

theorem startsOperand_name (named : Text.isIdentifier name = true) :
    StartsOperand (.ofName gap name) := by
  have neither : ∀ w ∈ leadingWords, isReadable w = false ∨ Text.isIdentifier w = false := by
    decide
  intro w member
  have differs : name ≠ w := by
    rintro rfl
    rcases neither name member with notReadable | notNamed
    · exact Bool.false_ne_true (notReadable.symm.trans readable)
    · exact Bool.false_ne_true (notNamed.symm.trans named)
  simp [isWord, Token.ofName, differs]

end Name

/-- The tokens of a lookup are read as the lookup. -/
theorem reads_lookup (gap : Gap) (loader path className : Text) (stop : Token) (post : List Token)
    (readable : isReadable loader = true) (named : Text.isIdentifier loader = true)
    (ends : EndsExpression stop) :
    Reads rules 140 (call .expression) (Lookup.tokens gap loader path className ++ stop :: post)
      [.gap gap, .expr (Lookup.expr (.name loader) path className)] (stop :: post) := by
  have indexed : Grows rules _ true [attributeTail, callTail, subscriptTail]
      [.gap gap, .expr (.call (.name loader) [] [] [.bare (.string (Literal.quote path))] [])]
      _ [.gap gap, .expr (Lookup.expr (.name loader) path className)] (stop :: post) :=
    .again (.there (.other .attribute) (.seq (.word _ (by decide)))
      (.there .call (.seq (.word _ (by decide)))
        (.here .subscript (reads_subscript (Literal.quote className) (stop :: post)))))
      (.stop true (fails_operandTails ends))
  have called : Grows rules _ true [attributeTail, callTail, subscriptTail]
      [.gap gap, .expr (.name loader)] _
      [.gap gap, .expr (Lookup.expr (.name loader) path className)] (stop :: post) :=
    .again (.there (.other .attribute) (.seq (.word _ (by decide)))
      (.here .call (reads_call (Literal.quote path) _))) indexed
  have primary := Reads.rule Rule.primary ((reads_name gap loader readable _).grow called)
  exact (reads_expression (startsOperand_name gap loader readable named) ends primary).mono
    (by decide)

end Python

end ClassMaps
