import ClassMaps.Proofs.Rerun

/-!
# Quoted texts end at their own quote

The literal for a text is one token of a source, whatever comes after it: all
that could end it early is escaped, and nothing before its last quote is left
open.  The one exception is the empty text before another quote, where the
three quotes open a literal of several lines.  A literal denotes the text that
it was made for, or nothing if the text has a surrogate, and no two texts have
the same literal.
-/

set_option autoImplicit false

namespace ClassMaps

namespace Literal

theorem stringRest_quote (t rest : Text) :
    Scan.stringRest Scan.quoteSign false ((quote t).tail ++ rest) =
      some ((quote t).length - 1) := by
  have tail : (quote t).tail ++ rest = t.flatMap spell ++ Scan.quoteSign :: rest := by
    simp [quote, sign, Scan.quoteSign]
  have length : (quote t).length - 1 = (t.flatMap spell).length + 1 := by
    simp [quote, sign]
  rw [tail, length, Scan.stringRest_enclosed _ rest (Scan.enclosed_body t)]

theorem quote_injective (t u : Text) (same : quote u = quote t) : u = t := by
  have bodies : u.flatMap spell = t.flatMap spell := by
    rw [← content_quote u, ← content_quote t, same]
  have denoted := unescape_body u
  rw [bodies, unescape_body t] at denoted
  exact (Option.some.inj denoted).symm

theorem evaluate_quote_eq (t : Text) :
    evaluate (quote t) =
      if Text.hasSurrogate t then .error .surrogate else .ok (.text t) := by
  cases broken : Text.hasSurrogate t with
  | false => simp [evaluate_quote t broken]
  | true => simp [evaluate, Text.hasSurrogate_quote, broken]

theorem stringValue_quote (t : Text) :
    (Expr.string (quote t)).stringValue =
      if Text.hasSurrogate t then .error .surrogate else .ok (some t) := by
  simp only [Expr.stringValue, Expr.denoted, evaluate_quote_eq]
  split <;> rfl

/-- The literal for a text has no control character and no open quote between
its own two, and a scan for the quote that closes it takes all of it, whatever
comes next.  As a token of a source it is taken so, too, unless it is empty and
a quote comes next.  It denotes the text, unless that has a surrogate, and it is
the literal for no other text. -/
theorem quote_delimits (t : Text) :
    (∃ body, quote t = sign '\x22' ++ body ++ sign '\x22' ∧ Scan.Enclosed body) ∧
    (∀ rest, Scan.stringRest Scan.quoteSign false ((quote t).tail ++ rest) =
      some ((quote t).length - 1)) ∧
    (∀ state rest,
      Scan.lexeme state (quote t ++ rest) = some (.string, (quote t).length, state) ↔
        (t = [] → rest.head? ≠ some Scan.quoteSign)) ∧
    (Expr.string (quote t)).stringValue =
      (if Text.hasSurrogate t then .error .surrogate else .ok (some t)) ∧
    ∀ u, quote u = quote t → u = t :=
  ⟨⟨t.flatMap spell, rfl, Scan.enclosed_body t⟩, stringRest_quote t,
    fun state rest => Scan.lexeme_quote_iff state t rest, stringValue_quote t,
    fun u => quote_injective t u⟩

/-- Two literals side by side are not two tokens if the first is empty. -/
theorem quote_nil_before_quote :
    Scan.lexeme Scan.State.initial (quote [] ++ quote (text "a")) ≠
      some (.string, (quote []).length, Scan.State.initial) ∧
    Expr.parse (quote [] ++ quote (text "a")) = .error .grammar := by
  have nothing : Scan.lexeme Scan.State.initial (quote [] ++ quote (text "a")) = none := by rfl
  exact ⟨by simp [nothing], by rfl⟩

end Literal

end ClassMaps
