import ClassMaps.Expr.Calls
import ClassMaps.Expr.StringValue

/-!
# Induction over trees

Expressions nest through three kinds of row: arguments, elements and parts.  A
property of expressions is proved together with one property of each kind of
row, and `Expr.tree_induction` hands out the hypotheses for all children.  Two
trees can be compared.
-/

set_option autoImplicit false

namespace ClassMaps

theorem Expr.tree_induction {P : Expr → Prop} {S : List (Slot Expr) → Prop}
    {E : List (Element Expr) → Prop} {R : List (Part Expr) → Prop}
    (name : ∀ text, P (.name text))
    (string : ∀ text, P (.string text))
    (formatted : ∀ parts, R parts → P (.formatted parts))
    (concat : ∀ left gap right, P left → P right → P (.concat left gap right))
    (call : ∀ function gap opening arguments closing, P function → S arguments →
      P (.call function gap opening arguments closing))
    (subscript : ∀ value gap opening indices closing, P value → S indices →
      P (.subscript value gap opening indices closing))
    (dict : ∀ opening elements closing, E elements → P (.dict opening elements closing))
    (other : ∀ form parts, R parts → P (.other form parts))
    (paren : ∀ opening inner closing, P inner → P (.paren opening inner closing))
    (noSlots : S [])
    (slot : ∀ mark value comma rest, P value → S rest → S (⟨mark, value, comma⟩ :: rest))
    (noElements : E [])
    (pair : ∀ key before after value comma rest, P key → P value → E rest →
      E (.pair key before after value comma :: rest))
    (spread : ∀ gap value comma rest, P value → E rest → E (.spread gap value comma :: rest))
    (noParts : R [])
    (gap : ∀ trivia rest, R rest → R (.gap trivia :: rest))
    (token : ∀ text rest, R rest → R (.token text :: rest))
    (expr : ∀ value rest, P value → R rest → R (.expr value :: rest)) :
    (∀ e, P e) ∧ (∀ slots, S slots) ∧ (∀ elements, E elements) ∧ (∀ parts, R parts) := by
  -- For one item of a row, the recursor is given what the item adds to any row after it.
  have all : ∀ e, P e := by
    intro e
    exact @Expr.rec P R S E
      (fun part => ∀ rest, R rest → R (part :: rest))
      (fun slot => ∀ rest, S rest → S (slot :: rest))
      (fun element => ∀ rest, E rest → E (element :: rest))
      name string formatted concat call subscript dict other paren
      noParts (fun _ rest headHolds restHolds => headHolds rest restHolds)
      noSlots (fun _ rest headHolds restHolds => headHolds rest restHolds)
      noElements (fun _ rest headHolds restHolds => headHolds rest restHolds)
      gap token (fun value valueHolds rest => expr value rest valueHolds)
      (fun mark value comma valueHolds rest => slot mark value comma rest valueHolds)
      (fun key before after value comma keyHolds valueHolds rest =>
        pair key before after value comma rest keyHolds valueHolds)
      (fun gap value comma valueHolds rest => spread gap value comma rest valueHolds) e
  refine ⟨all, ?_, ?_, ?_⟩
  · intro slots
    induction slots with
    | nil => exact noSlots
    | cons head rest restHolds => exact slot _ _ _ rest (all head.value) restHolds
  · intro elements
    induction elements with
    | nil => exact noElements
    | cons head rest restHolds =>
        cases head with
        | pair key _ _ value _ => exact pair _ _ _ _ _ rest (all key) (all value) restHolds
        | spread _ value _ => exact spread _ _ _ rest (all value) restHolds
  · intro parts
    induction parts with
    | nil => exact noParts
    | cons head rest restHolds =>
        cases head with
        | gap trivia => exact gap trivia rest restHolds
        | token text => exact token text rest restHolds
        | expr value => exact expr value rest (all value) restHolds

/-! ## Equal trees -/

mutual

/-- Whether two expressions are the same, gaps included. -/
def Expr.same : Expr → Expr → Bool
  | .name a, .name b => a = b
  | .string a, .string b => a = b
  | .formatted a, .formatted b => Part.sameAll a b
  | .concat a gap a', .concat b gap' b' => a.same b && gap = gap' && a'.same b'
  | .call f gap opening as closing, .call f' gap' opening' bs closing' =>
      f.same f' && (gap, opening, closing) = (gap', opening', closing') && Slot.sameAll as bs
  | .subscript e gap opening as closing, .subscript e' gap' opening' bs closing' =>
      e.same e' && (gap, opening, closing) = (gap', opening', closing') && Slot.sameAll as bs
  | .dict opening as closing, .dict opening' bs closing' =>
      (opening, closing) = (opening', closing') && Element.sameAll as bs
  | .other form a, .other form' b => form = form' && Part.sameAll a b
  | .paren opening e closing, .paren opening' e' closing' =>
      (opening, closing) = (opening', closing') && e.same e'
  | _, _ => false

def Slot.sameAll : List (Slot Expr) → List (Slot Expr) → Bool
  | [], [] => true
  | ⟨mark, e, comma⟩ :: as, ⟨mark', e', comma'⟩ :: bs =>
      (mark, comma) = (mark', comma') && e.same e' && Slot.sameAll as bs
  | _, _ => false

def Element.sameAll : List (Element Expr) → List (Element Expr) → Bool
  | [], [] => true
  | .pair k before after e comma :: as, .pair k' before' after' e' comma' :: bs =>
      k.same k' && (before, after, comma) = (before', after', comma') && e.same e' &&
        Element.sameAll as bs
  | .spread gap e comma :: as, .spread gap' e' comma' :: bs =>
      (gap, comma) = (gap', comma') && e.same e' && Element.sameAll as bs
  | _, _ => false

def Part.sameAll : List (Part Expr) → List (Part Expr) → Bool
  | [], [] => true
  | .gap a :: as, .gap b :: bs => a = b && Part.sameAll as bs
  | .token a :: as, .token b :: bs => a = b && Part.sameAll as bs
  | .expr a :: as, .expr b :: bs => a.same b && Part.sameAll as bs
  | _, _ => false

end

theorem Expr.same_iff :
    (∀ a b : Expr, a.same b = true ↔ a = b) ∧
    (∀ as bs : List (Slot Expr), Slot.sameAll as bs = true ↔ as = bs) ∧
    (∀ as bs : List (Element Expr), Element.sameAll as bs = true ↔ as = bs) ∧
    (∀ as bs : List (Part Expr), Part.sameAll as bs = true ↔ as = bs) := by
  apply Expr.tree_induction
  case name => intro t b; cases b <;> simp [Expr.same]
  case string => intro t b; cases b <;> simp [Expr.same]
  case formatted => intro parts ih b; cases b <;> simp [Expr.same, ih]
  case concat => intro l g r ihl ihr b; cases b <;> simp [Expr.same, ihl, ihr, and_assoc]
  case call => intro f g o as c ihf ihs b; cases b <;> simp [Expr.same, ihf, ihs]; grind
  case subscript => intro f g o as c ihf ihs b; cases b <;> simp [Expr.same, ihf, ihs]; grind
  case dict => intro o es c ih b; cases b <;> simp [Expr.same, ih]; grind
  case other => intro form parts ih b; cases b <;> simp [Expr.same, ih]
  case paren => intro o e c ih b; cases b <;> simp [Expr.same, ih]; grind
  case noSlots => intro bs; cases bs <;> simp [Slot.sameAll]
  case slot =>
    intro mark e comma rest ih ihr bs
    match bs with
    | [] => simp [Slot.sameAll]
    | ⟨mark', e', comma'⟩ :: bs => simp [Slot.sameAll, ih, ihr]; grind
  case noElements => intro bs; cases bs <;> simp [Element.sameAll]
  case pair =>
    intro k before after e comma rest ihk ih ihr bs
    match bs with
    | [] => simp [Element.sameAll]
    | .pair _ _ _ _ _ :: bs => simp [Element.sameAll, ihk, ih, ihr]; grind
    | .spread _ _ _ :: bs => simp [Element.sameAll]
  case spread =>
    intro g e comma rest ih ihr bs
    match bs with
    | [] => simp [Element.sameAll]
    | .pair _ _ _ _ _ :: bs => simp [Element.sameAll]
    | .spread _ _ _ :: bs => simp [Element.sameAll, ih, ihr]; grind
  case noParts => intro bs; cases bs <;> simp [Part.sameAll]
  case gap =>
    intro g rest ihr bs
    match bs with
    | [] => simp [Part.sameAll]
    | .gap _ :: bs => simp [Part.sameAll, ihr]
    | .token _ :: bs => simp [Part.sameAll]
    | .expr _ :: bs => simp [Part.sameAll]
  case token =>
    intro g rest ihr bs
    match bs with
    | [] => simp [Part.sameAll]
    | .gap _ :: bs => simp [Part.sameAll]
    | .token _ :: bs => simp [Part.sameAll, ihr]
    | .expr _ :: bs => simp [Part.sameAll]
  case expr =>
    intro g rest ih ihr bs
    match bs with
    | [] => simp [Part.sameAll]
    | .gap _ :: bs => simp [Part.sameAll]
    | .token _ :: bs => simp [Part.sameAll]
    | .expr _ :: bs => simp [Part.sameAll, ih, ihr]

/-! ## The expressions of a row -/

namespace Part

/-- The expressions of a row in order. -/
def exprs {α : Type} : List (Part α) → List α
  | [] => []
  | .gap _ :: rest => exprs rest
  | .token _ :: rest => exprs rest
  | .expr value :: rest => value :: exprs rest

variable {α : Type}

@[simp] theorem exprs_nil : exprs ([] : List (Part α)) = [] := rfl

@[simp] theorem exprs_gap (trivia : Gap) (rest : List (Part α)) :
    exprs (.gap trivia :: rest) = exprs rest := rfl

@[simp] theorem exprs_token (t : Text) (rest : List (Part α)) :
    exprs (.token t :: rest) = exprs rest := rfl

@[simp] theorem exprs_expr (value : α) (rest : List (Part α)) :
    exprs (.expr value :: rest) = value :: exprs rest := rfl

@[simp] theorem exprs_append (parts more : List (Part α)) :
    exprs (parts ++ more) = exprs parts ++ exprs more := by
  induction parts with
  | nil => rfl
  | cons part rest ih => cases part <;> simp [ih]

theorem exprs_flatMap {ι : Type} (parts : ι → List (Part α)) (row : List ι) :
    exprs (row.flatMap parts) = row.flatMap fun item => exprs (parts item) := by
  induction row with
  | nil => rfl
  | cons item rest ih => simp [ih]

theorem mem_exprs (parts : List (Part α)) (e : α) : e ∈ exprs parts ↔ .expr e ∈ parts := by
  induction parts with
  | nil => simp
  | cons part rest ih => cases part <;> simp [ih]

end Part

/-! ## Trees without calls -/

namespace Expr

theorem calls_stripped (e : Expr) : e.stripped.calls = e.calls := by
  fun_induction stripped e with
  | case1 opening inner closing ih => simp only [calls, ih]
  | case2 => rfl

/-- The text that the expression denotes; nothing if it denotes none or cannot
be evaluated. -/
def text? (e : Expr) : Option Text :=
  match e.stringValue with
  | .ok found => found
  | .error _ => none

theorem denoted_of_text? (e : Expr) (content : Text) (given : e.text? = some content) :
    e.denoted = .ok (some (.text content)) := by
  unfold text? stringValue at given
  match found : e.denoted with
  | .error fault => simp [found, Except.map] at given
  | .ok none => simp [found, Except.map] at given
  | .ok (some .bytes) => simp [found, Except.map] at given
  | .ok (some (.text t)) =>
      simp only [found, Except.map, Option.some.injEq] at given
      rw [given]

/-- What is made of strings that can be evaluated holds no call. -/
theorem calls_of_denoted (e : Expr) (found : Denoted) (given : e.denoted = .ok (some found)) :
    e.calls = [] := by
  fun_induction denoted e generalizing found with
  | case1 literal => simp only [calls]
  | case2 left gap right formatted => cases given
  | case3 left gap right plain leftEmpty rightEmpty =>
      match leftFound : left.denoted, rightFound : right.denoted with
      | .error _, _ => simp [leftFound, bind, Except.bind] at given
      | .ok _, .error _ => simp [leftFound, rightFound, bind, Except.bind] at given
      | .ok none, .ok _ =>
          simp [leftFound, rightFound, bind, Except.bind, pure, Except.pure,
            Denoted.append?] at given
      | .ok (some l), .ok none =>
          cases l <;> simp [leftFound, rightFound, bind, Except.bind, pure, Except.pure,
            Denoted.append?] at given
      | .ok (some l), .ok (some r) =>
          simp only [calls, leftEmpty l leftFound, rightEmpty r rightFound, List.append_nil]
  | case4 opening inner closing ih =>
      simp only [calls]
      exact ih found given
  | case5 e => cases given

theorem calls_of_text? (e : Expr) (content : Text) (given : e.text? = some content) :
    e.calls = [] :=
  calls_of_denoted e (.text content) (denoted_of_text? e content given)

theorem calls_of_name? (e : Expr) (name : Text) (given : e.name? = some name) :
    e.calls = [] := by
  rw [← calls_stripped]
  unfold name? at given
  match shape : e.stripped with
  | .name text => simp only [calls]
  | .string _ | .formatted _ | .concat _ _ _ | .call _ _ _ _ _ | .subscript _ _ _ _ _
  | .dict _ _ _ | .other _ _ | .paren _ _ _ => simp [shape] at given

end Expr

end ClassMaps
