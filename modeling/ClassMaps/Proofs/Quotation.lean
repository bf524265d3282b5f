import ClassMaps.Literal
import Mathlib.Algebra.Group.Nat.Defs

/-!
# Quoted texts read back

A text that is spelled as a literal and evaluated again is the text, whatever
it holds, unless it holds a lone surrogate: such a literal is never evaluated.
-/

set_option autoImplicit false

namespace ClassMaps

namespace CodePoint

theorem is_iff (p : CodePoint) (c : Char) : p.is c = true ↔ p.val = c.toNat := by
  simp [is]

theorem is_ofChar (c : Char) : (ofChar c).is c = true := by
  simp [is, ofChar]

theorem ofNat?_val (p : CodePoint) : ofNat? p.val = some p := by
  simp [ofNat?, p.inRange]

end CodePoint

namespace Literal

/-! ## Hexadecimal numbers -/

theorem digits_append (base count more value read : Nat) (s rest : Text)
    (given : digits base count value s = some (read, [])) :
    digits base (count + more) value (s ++ rest) = digits base more read rest := by
  induction count generalizing value s with
  | zero =>
      simp only [digits, Option.some.injEq, Prod.mk.injEq] at given
      obtain ⟨rfl, rfl⟩ := given
      rw [Nat.zero_add, List.nil_append]
  | succ count ih =>
      cases s with
      | nil => simp [digits] at given
      | cons c s =>
          rw [Nat.succ_add, List.cons_append]
          simp only [digits] at given ⊢
          cases digit : c.digit? base with
          | none => simp [digit] at given
          | some d =>
              simp only [digit] at given ⊢
              exact ih _ _ given

theorem digit?_digitChar (n : Nat) (small : n < 16) :
    (CodePoint.ofChar (Nat.digitChar n)).digit? 16 = some n := by
  have all : ∀ n : Fin 16,
      (CodePoint.ofChar (Nat.digitChar n.val)).digit? 16 = some n.val := by decide
  exact all ⟨n, small⟩

theorem digits_hex (width value n : Nat) :
    digits 16 width value (Text.hex width n) = some (value * 16 ^ width + n % 16 ^ width, []) := by
  induction width generalizing n with
  | zero => simp [digits, Text.hex, Nat.mod_one]
  | succ width ih =>
      have last := digit?_digitChar (n % 16) (Nat.mod_lt n (by omega))
      have split : n % 16 ^ (width + 1) = n % 16 + 16 * (n / 16 % 16 ^ width) := by
        rw [Nat.pow_succ', Nat.mod_mul]
      rw [Text.hex, digits_append 16 width 1 value _ _ _ (ih (n / 16))]
      simp only [digits, last, split, Option.some.injEq, Prod.mk.injEq, and_true]
      rw [Nat.pow_succ, ← Nat.mul_assoc]
      omega

theorem hex_bounds (width n : Nat) :
    ∀ d ∈ Text.hex width n, 0x20 ≤ d.val ∧ d.val < 0x80 := by
  have all : ∀ k : Fin 16, 0x20 ≤ (CodePoint.ofChar (Nat.digitChar k.val)).val ∧
      (CodePoint.ofChar (Nat.digitChar k.val)).val < 0x80 := by decide
  induction width generalizing n with
  | zero => simp [Text.hex]
  | succ width ih =>
      intro d member
      rw [Text.hex, List.mem_append, List.mem_singleton] at member
      rcases member with inside | rfl
      · exact ih (n / 16) d inside
      · exact all ⟨n % 16, Nat.mod_lt n (by omega)⟩

/-! ## Spelled code points -/

/-- The three ways to spell a code point: a backslash and a letter or sign, a
backslash and a number, or the code point itself. -/
inductive Spelled (c : CodePoint) : Text → Prop
  | letter (letter : Char) (plain : (CodePoint.ofChar letter).is '\n' = false)
      (bounds : 0x20 ≤ letter.toNat ∧ letter.toNat < 0x80)
      (stands : simpleEscape? (CodePoint.ofChar letter) = some c.val) :
      Spelled c (sign '\\' ++ sign letter)
  | number (control : c.val < 0x20) : Spelled c (sign '\\' ++ sign 'u' ++ Text.hex 4 c.val)
  | plain (shown : 0x20 ≤ c.val) (notQuote : c.is '\x22' = false)
      (notEscape : c.is '\\' = false) : Spelled c [c]

theorem spelled_spell (c : CodePoint) : Spelled c (spell c) := by
  -- One letter or sign escape, once it is known which code point is spelled.
  have letter : ∀ (code : Nat) (l : Char), c.val = code →
      simpleEscape? (CodePoint.ofChar l) = some code →
      (CodePoint.ofChar l).is '\n' = false ∧ 0x20 ≤ l.toNat ∧ l.toNat < 0x80 →
      Spelled c (sign '\\' ++ sign l) := by
    intro code l same stands shape
    exact .letter l shape.1 shape.2 (by rw [stands, same])
  unfold spell
  split
  · rename_i quote
    exact letter 0x22 '\x22' (by simpa [CodePoint.is_iff] using quote) (by decide) (by decide)
  split
  · rename_i backslash
    exact letter 0x5C '\\' (by simpa [CodePoint.is_iff] using backslash) (by decide) (by decide)
  split
  · rename_i feed
    exact letter 10 'n' (by simpa [CodePoint.is_iff] using feed) (by decide) (by decide)
  split
  · rename_i carriage
    exact letter 13 'r' (by simpa [CodePoint.is_iff] using carriage) (by decide) (by decide)
  split
  · rename_i tab
    exact letter 9 't' (by simpa [CodePoint.is_iff] using tab) (by decide) (by decide)
  split
  · rename_i back
    exact letter 8 'b' back (by decide) (by decide)
  split
  · rename_i form
    exact letter 12 'f' form (by decide) (by decide)
  split
  · rename_i control
    exact .number control
  · rename_i notQuote notEscape _ _ _ _ _ shown
    exact .plain (by omega) (by simpa using notQuote) (by simpa using notEscape)

theorem mem_spell (c d : CodePoint) (member : d ∈ spell c) :
    0x20 ≤ d.val ∧ (d = c ∨ d.val < 0x80) := by
  have basic : ∀ l : Char, 0x20 ≤ l.toNat ∧ l.toNat < 0x80 → d ∈ sign l →
      0x20 ≤ d.val ∧ d.val < 0x80 := by
    intro l bounds isSign
    rw [sign, List.mem_singleton] at isSign
    rw [isSign]
    exact bounds
  have anyCase : (0x20 ≤ d.val ∧ d.val < 0x80) ∨ (0x20 ≤ d.val ∧ d = c) := by
    generalize spell c = spelling, spelled_spell c = spelled at member
    cases spelled with
    | letter l plain bounds stands =>
        rcases List.mem_append.mp member with isSign | isSign
        · exact .inl (basic '\\' (by decide) isSign)
        · exact .inl (basic l bounds isSign)
    | number control =>
        rcases List.mem_append.mp member with isSign | inNumber
        · rcases List.mem_append.mp isSign with isSign | isSign
          · exact .inl (basic '\\' (by decide) isSign)
          · exact .inl (basic 'u' (by decide) isSign)
        · exact .inl (hex_bounds 4 c.val d inNumber)
    | plain shown notQuote notEscape =>
        rw [List.mem_singleton] at member
        exact .inr ⟨by rw [member]; exact shown, member⟩
  rcases anyCase with ⟨shown, ascii⟩ | ⟨shown, same⟩
  · exact ⟨shown, .inr ascii⟩
  · exact ⟨shown, .inl same⟩

theorem head_spell (c : CodePoint) : ∃ d rest, spell c = d :: rest ∧ d.is '\x22' = false := by
  generalize spell c = spelling, spelled_spell c = spelled
  cases spelled with
  | letter l plain bounds stands => exact ⟨_, _, rfl, by decide⟩
  | number control => exact ⟨_, _, rfl, by decide⟩
  | plain shown notQuote notEscape => exact ⟨c, [], rfl, notQuote⟩

theorem unescape_spell (c : CodePoint) (rest : Text) :
    unescape 0 (spell c ++ rest) = (unescape 0 rest).map (c :: ·) := by
  generalize spell c = spelling, spelled_spell c = spelled
  cases spelled with
  | letter l plain bounds stands =>
      have escaped : escape (CodePoint.ofChar l :: rest) = some ([c], 1) := by
        simp [escape, plain, stands, CodePoint.ofNat?_val]
      simp [sign, unescape, CodePoint.is_ofChar, escaped]
  | number control =>
      have read : digits 16 4 0 (Text.hex 4 c.val ++ rest) = some (c.val, rest) := by
        have number := digits_hex 4 0 c.val
        rw [Nat.zero_mul, Nat.zero_add, Nat.mod_eq_of_lt (by omega)] at number
        exact digits_append 16 4 0 0 c.val _ rest number
      have escaped : escape (CodePoint.ofChar 'u' :: (Text.hex 4 c.val ++ rest)) =
          some ([c], 5) := by
        have notLetter : simpleEscape? (CodePoint.ofChar 'u') = none := by decide
        have notOctal : (CodePoint.ofChar 'u').digit? 8 = none := by decide
        have width : hexWidth? (CodePoint.ofChar 'u') = some 4 := by decide
        have notFeed : (CodePoint.ofChar 'u').is '\n' = false := by decide
        simp [escape, notFeed, notLetter, notOctal, width, read, CodePoint.ofNat?_val]
      have taken : unescape 4 (Text.hex 4 c.val ++ rest) = unescape 0 rest := by
        simp [Text.hex, unescape]
      simp [sign, unescape, CodePoint.is_ofChar, escaped, taken]
  | plain shown notQuote notEscape => simp [unescape, notEscape]

theorem unescape_body (t : Text) : unescape 0 (t.flatMap spell) = some t := by
  induction t with
  | nil => rfl
  | cons c t ih => rw [List.flatMap_cons, unescape_spell, ih, Option.map_some]

/-! ## Quoted texts -/

theorem unixLines_of_noReturn (s : Text) (noReturn : ∀ c ∈ s, c.is '\r' = false) :
    unixLines s = s := by
  fun_induction unixLines s with
  | case1 => rfl
  | case2 c isReturn => simp [noReturn c (by simp)] at isReturn
  | case3 c notReturn => rfl
  | case4 c d rest isReturn feed ih => simp [noReturn c (by simp)] at isReturn
  | case5 c d rest isReturn feed ih => simp [noReturn c (by simp)] at isReturn
  | case6 c d rest notReturn ih =>
      rw [ih fun e member => noReturn e (List.mem_cons_of_mem c member)]

theorem content_quote (t : Text) : content (quote t) = t.flatMap spell := by
  have single : ∀ body : Text, (∀ d rest, body = d :: rest → d.is '\x22' = false) →
      content (sign '\x22' ++ body ++ sign '\x22') = body := by
    intro body open'
    cases body with
    | nil => decide
    | cons d rest =>
        -- A body that starts with a quote would be read as one of a triple quote.
        have differs : CodePoint.ofChar '\x22' ≠ d := by
          rintro rfl
          have closes := open' _ rest rfl
          rw [CodePoint.is_ofChar] at closes
          cases closes
        cases rest <;> simp [content, sign, differs]
  apply single
  intro d rest starts
  cases t with
  | nil => cases starts
  | cons c t =>
      obtain ⟨d', rest', spelled, notQuote⟩ := head_spell c
      rw [List.flatMap_cons, spelled, List.cons_append] at starts
      obtain ⟨rfl, _⟩ := List.cons.inj starts
      exact notQuote

theorem mem_quote (t : Text) (d : CodePoint) (member : d ∈ quote t) :
    0x20 ≤ d.val ∧ (d ∈ t ∨ d.val < 0x80) := by
  simp only [quote, sign, List.mem_append, List.mem_singleton, List.mem_flatMap] at member
  rcases member with (rfl | ⟨c, inText, spelled⟩) | rfl
  · exact ⟨by decide, .inr (by decide)⟩
  · obtain ⟨shown, same | ascii⟩ := mem_spell c d spelled
    · exact ⟨shown, .inl (same ▸ inText)⟩
    · exact ⟨shown, .inr ascii⟩
  · exact ⟨by decide, .inr (by decide)⟩

/-- A quoted text denotes the text. -/
theorem evaluate_quote (t : Text) (whole : Text.hasSurrogate t = false) :
    evaluate (quote t) = .ok (.text t) := by
  have noSurrogate : Text.hasSurrogate (quote t) = false := by
    rw [Text.hasSurrogate, List.any_eq_false] at whole ⊢
    intro d member
    obtain ⟨_, inText | ascii⟩ := mem_quote t d member
    · exact whole d inText
    · simp only [CodePoint.isSurrogate, Bool.and_eq_true, decide_eq_true_eq]
      omega
  have noNull : (quote t).any (·.val = 0) = false := by
    rw [List.any_eq_false]
    intro d member
    have shown := (mem_quote t d member).1
    simp only [decide_eq_true_eq]
    omega
  have noLetters : Token.stringPrefix (quote t) = [] := by
    have quoteSign : (CodePoint.ofChar '\x22').isAsciiLetter = false := by decide
    simp [Token.stringPrefix, quote, sign, quoteSign]
  have sameLines : unixLines (t.flatMap spell) = t.flatMap spell := by
    apply unixLines_of_noReturn
    intro d member
    obtain ⟨c, _, spelled⟩ := List.mem_flatMap.mp member
    have shown := (mem_spell c d spelled).1
    simp only [CodePoint.is, beq_eq_false_iff_ne]
    have carriage : '\r'.toNat = 13 := rfl
    omega
  simp [evaluate, noSurrogate, noNull, noLetters, content_quote, sameLines, unescape_body]

end Literal

end ClassMaps
