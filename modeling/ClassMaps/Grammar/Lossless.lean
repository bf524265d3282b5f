import ClassMaps.Grammar.Derivation

/-!
# Reading loses nothing

Assembling a row by any label keeps what the row prints, and reading by any
grammar splits the printed tokens into the printed fragments and the printed
rest.
-/

set_option autoImplicit false

namespace ClassMaps

/-! ## Printed rows -/

theorem Part.printAll_append (newline : Text) (ps qs : List (Part Expr)) :
    Part.printAll newline (ps ++ qs) = Part.printAll newline ps ++ Part.printAll newline qs := by
  induction ps with
  | nil => simp [Part.printAll]
  | cons p rest ih => cases p <;> simp [Part.printAll, ih]

theorem Slot.printAll_cons (newline : Text) (s : Slot Expr) (ts : List (Slot Expr)) :
    Slot.printAll newline (s :: ts) = s.print newline ++ Slot.printAll newline ts := by
  cases s; simp [Slot.printAll, Slot.print]

theorem Element.printAll_cons (newline : Text) (e : Element Expr) (es : List (Element Expr)) :
    Element.printAll newline (e :: es) = e.print newline ++ Element.printAll newline es := by
  cases e <;> simp [Element.printAll, Element.print]

theorem Comma.printAll_parts (newline : Text) (comma : Option Comma) :
    Part.printAll newline (Comma.parts comma) = Comma.print newline comma := by
  cases comma <;> simp [Comma.parts, Comma.print, Part.printAll]

theorem Slot.printAll_parts (newline : Text) (s : Slot Expr) :
    Part.printAll newline s.parts = s.print newline := by
  obtain ⟨mark, value, comma⟩ := s
  cases mark <;>
    simp [Slot.parts, Slot.print, Slot.printAll, Mark.print, Part.printAll,
      Comma.printAll_parts, Expr.print]

theorem Element.printAll_parts (newline : Text) (e : Element Expr) :
    Part.printAll newline e.parts = e.print newline := by
  cases e <;>
    simp [Element.parts, Element.print, Element.printAll, Part.printAll,
      Comma.printAll_parts]

namespace Fragment

theorem printAll_parts (newline : Text) (f : Fragment) :
    Part.printAll newline f.parts = f.print newline := by
  cases f <;> simp [parts, print, Part.printAll, Slot.printAll_parts, Element.printAll_parts]

theorem printAll_append (newline : Text) (fs gs : List Fragment) :
    printAll newline (fs ++ gs) = printAll newline fs ++ printAll newline gs := by
  simp [printAll]

theorem printAll_allParts (newline : Text) (row : List Fragment) :
    Part.printAll newline (allParts row) = printAll newline row := by
  induction row with
  | nil => rfl
  | cons f rest ih =>
      have split : allParts (f :: rest) = f.parts ++ allParts rest := by simp [allParts]
      rw [split, Part.printAll_append, printAll_parts, ih]
      simp [printAll]

theorem print_otherOf (newline : Text) (form : Form) (row : List Fragment) :
    (otherOf form row).print newline = printAll newline row := by
  simp [otherOf, Expr.print, printAll_allParts]

theorem print_strings? (newline : Text) :
    ∀ (row : List Fragment) (e : Expr), strings? row = some e →
      e.print newline = printAll newline row := by
  intro row
  fun_induction strings? row with
  | case1 e => intro f found; cases found; simp [printAll, print]
  | case2 e g rest ih =>
      intro f found
      obtain ⟨right, rightFound, rfl⟩ := Option.map_eq_some_iff.1 found
      simp [Expr.print, ih right rightFound, printAll, print]
  | case3 => intro f found; cases found

theorem print_argumentOf (newline : Text) (row : List Fragment) :
    (argumentOf row).print newline = printAll newline row := by
  fun_cases argumentOf row <;>
    simp_all [Slot.print, Slot.printAll, Slot.bare, Mark.print, Comma.print, print_otherOf, printAll,
      print, Expr.print]

theorem print_slot? (newline : Text) (f : Fragment) (s : Slot Expr) (found : slot? f = some s) :
    s.print newline = f.print newline := by
  fun_cases slot? f <;> simp_all [slot?, print]

theorem print_slot?_comma (newline : Text) (f : Fragment) (s : Slot Expr) (comma : Comma)
    (found : slot? f = some s) :
    ({ s with comma := some comma } : Slot Expr).print newline =
      f.print newline ++ Comma.print newline (some comma) := by
  fun_cases slot? f
  · simp only [slot?, Option.some.injEq] at found
    subst found
    simp [print, Slot.print, Slot.printAll, Comma.print]
  · simp_all [slot?]

theorem print_element? (newline : Text) (f : Fragment) (e : Element Expr)
    (found : element? f = some e) : e.print newline = f.print newline := by
  fun_cases element? f <;> simp_all [element?, print]

theorem print_element?_comma (newline : Text) (f : Fragment) (e : Element Expr) (comma : Comma)
    (found : element? f = some e) :
    (e.withComma comma).print newline = f.print newline ++ Comma.print newline (some comma) := by
  fun_cases element? f
  · simp only [element?, Option.some.injEq] at found
    subst found
    simp [print, Element.withComma, Element.print, Element.printAll, Comma.print]
  · simp only [element?, Option.some.injEq] at found
    subst found
    simp [print, Element.withComma, Element.print, Element.printAll, Comma.print]
  · simp_all [element?]

theorem printAll_items {ι : Type} (newline : Text) (item? : Fragment → Option ι)
    (withComma : ι → Comma → ι) (closer : Text) (printItem : ι → Text)
    (itemPrints : ∀ f i, item? f = some i → printItem i = f.print newline)
    (commaPrints : ∀ f i c, item? f = some i →
      printItem (withComma i c) = f.print newline ++ Comma.print newline (some c)) :
    ∀ (row : List Fragment) (found : List ι) (closing : Gap),
      items item? withComma closer row = some (found, closing) →
      found.flatMap printItem ++ Gap.print newline closing ++ closer = printAll newline row := by
  intro row
  fun_induction items item? withComma closer row with
  | case1 item gap =>
      intro found closing eq
      obtain ⟨i, isItem, same⟩ := Option.map_eq_some_iff.1 eq
      cases same
      simp [printAll, print, itemPrints item i isItem]
  | case2 => intro found closing eq; cases eq
  | case3 => intro found closing eq; cases eq
  | case4 item before after i isItem =>
      intro found closing eq
      cases eq
      simp [printAll, print, commaPrints item i _ isItem, Comma.print, Gap.print]
  | case5 => intro found closing eq; cases eq
  | case6 item before after i isItem rest notEnd ih =>
      intro found closing eq
      obtain ⟨⟨more, last⟩, moreFound, same⟩ := Option.map_eq_some_iff.1 eq
      simp only [Prod.mk.injEq] at same
      obtain ⟨rfl, rfl⟩ := same
      have := ih more last moreFound
      simp [printAll, print, commaPrints item i _ isItem, Comma.print] at this ⊢
      exact this
  | case7 => intro found closing eq; cases eq
  | case8 => intro found closing eq; cases eq

theorem printAll_bracketed {ι : Type} (newline : Text) (item? : Fragment → Option ι)
    (withComma : ι → Comma → ι) (closer : Text) (printItem : ι → Text)
    (itemPrints : ∀ f i, item? f = some i → printItem i = f.print newline)
    (commaPrints : ∀ f i c, item? f = some i →
      printItem (withComma i c) = f.print newline ++ Comma.print newline (some c))
    (row : List Fragment) (opening closing : Gap) (found : List ι)
    (read : bracketed item? withComma closer row = some (opening, found, closing)) :
    Gap.print newline opening ++ found.flatMap printItem ++ Gap.print newline closing ++ closer =
      printAll newline row := by
  revert read
  fun_cases bracketed item? withComma closer row with
  | case1 gap =>
      intro read
      cases read
      simp [printAll, print, Gap.print]
  | case2 => intro read; cases read
  | case3 gap rest =>
      intro read
      obtain ⟨⟨more, last⟩, moreFound, same⟩ := Option.map_eq_some_iff.1 read
      simp only [Prod.mk.injEq] at same
      obtain ⟨rfl, rfl, rfl⟩ := same
      have := printAll_items newline item? withComma closer printItem itemPrints commaPrints
        rest more last moreFound
      simp only [List.append_assoc] at this ⊢
      rw [this]
      simp [printAll, print]
  | case4 => intro read; cases read

theorem flatMap_print_slots (newline : Text) (ss : List (Slot Expr)) :
    ss.flatMap (Slot.print newline) = Slot.printAll newline ss := by
  induction ss with
  | nil => simp [Slot.printAll]
  | cons s rest ih => simp [ih, Slot.printAll_cons]

theorem flatMap_print_elements (newline : Text) (es : List (Element Expr)) :
    es.flatMap (Element.print newline) = Element.printAll newline es := by
  induction es with
  | nil => simp [Element.printAll]
  | cons e rest ih => simp [ih, Element.printAll_cons]

theorem printAll_slots (newline closer : Text) (row : List Fragment) (opening closing : Gap)
    (found : List (Slot Expr)) (read : slots closer row = some (opening, found, closing)) :
    Gap.print newline opening ++ Slot.printAll newline found ++ Gap.print newline closing ++
      closer = printAll newline row := by
  rw [← flatMap_print_slots]
  exact printAll_bracketed newline slot? _ closer (Slot.print newline) (print_slot? newline)
    (print_slot?_comma newline) row opening closing found read

theorem printAll_elements (newline closer : Text) (row : List Fragment) (opening closing : Gap)
    (found : List (Element Expr)) (read : elements closer row = some (opening, found, closing)) :
    Gap.print newline opening ++ Element.printAll newline found ++ Gap.print newline closing ++
      closer = printAll newline row := by
  rw [← flatMap_print_elements]
  exact printAll_bracketed newline element? _ closer (Element.print newline)
    (print_element? newline) (print_element?_comma newline) row opening closing found read

theorem printAll_assemble (newline : Text) (label : Label) (row : List Fragment) :
    printAll newline (assemble label row) = printAll newline row := by
  fun_cases assemble label row
  case case4 =>
      cases found : strings? row with
      | none => simp [printAll, print, print_otherOf]
      | some e => simp [printAll, print, print_strings? newline row e found]
  case case5 =>
      have kept := printAll_allParts newline row
      simpa [printAll, print, Expr.print] using kept
  case case6 =>
      have kept := print_argumentOf newline row
      simpa [printAll, print] using kept
  case case11 function g t rest opening arguments closing found =>
      obtain ⟨rfl, read⟩ := Option.ite_none_right_eq_some.1 found
      have kept := printAll_slots newline _ rest opening closing arguments read
      simp only [List.append_assoc] at kept
      simp [printAll, print, Expr.print, kept]
  case case13 value g t rest opening indices closing found =>
      obtain ⟨rfl, read⟩ := Option.ite_none_right_eq_some.1 found
      have kept := printAll_slots newline _ rest opening closing indices read
      simp only [List.append_assoc] at kept
      simp [printAll, print, Expr.print, kept]
  case case15 t rest opening found closing read =>
      obtain ⟨rfl, read⟩ := Option.ite_none_right_eq_some.1 read
      have kept := printAll_elements newline _ rest opening closing found read
      simp only [List.append_assoc] at kept
      simp [printAll, print, Expr.print, kept]
  case case17 t opening u brackets =>
      simp only [Bool.and_eq_true, decide_eq_true_eq] at brackets
      obtain ⟨rfl, rfl⟩ := brackets
      simp [printAll, print, Expr.print, Part.printAll, Gap.print]
  case case19 t opening inner closing u brackets =>
      simp only [Bool.and_eq_true, decide_eq_true_eq] at brackets
      obtain ⟨rfl, rfl⟩ := brackets
      simp [printAll, print, Expr.print]
  all_goals
    simp [printAll, print, Expr.print, print_otherOf, Element.print, Element.printAll, Comma.print]

theorem printAll_wrap (newline : Text) (label : Label) (row : List Fragment) :
    printAll newline (wrap label row) = printAll newline row := by
  fun_cases wrap label row with
  | case1 trivia rest =>
      have kept := printAll_assemble newline label rest
      simp only [printAll] at kept
      simp [printAll, kept]
  | case2 row => exact printAll_assemble newline label row

end Fragment

/-! ## Reading -/

namespace Grammar

variable {Rule : Type} {rules : Rule → Grammar Rule}

/-- What is derived, and the tokens left, print as the row and the tokens that
the goal started from. -/
theorem Derives.print (newline : Text) {goal : Goal Rule} {tokens rest : List Token}
    {row : List Fragment} (given : Derives rules goal tokens row rest) :
    Fragment.printAll newline row ++ Token.printAll newline rest =
      Fragment.printAll newline goal.row ++ Token.printAll newline tokens := by
  have taken : ∀ (token : Token) (rest : List Token),
      Fragment.printAll newline [.gap token.gap, .token token.text] ++
        Token.printAll newline rest = Token.printAll newline (token :: rest) := by
    intro token rest
    simp [Fragment.printAll, Fragment.print, Token.printAll, Token.print]
  induction given with
  | done | none | ahead | «unless» | stop => rfl
  | word rest same => exact taken _ rest
  | kind rest same => exact taken _ rest
  | seq one two oneKeeps twoKeeps =>
      rw [Fragment.printAll_append, List.append_assoc, twoKeeps]
      exact oneKeeps
  | more one others oneKeeps othersKeep =>
      rw [Fragment.printAll_append, List.append_assoc, othersKeep]
      exact oneKeeps
  | first second one keeps => exact keeps
  | second first two keeps => exact keeps
  | node label inner keeps => rwa [Fragment.printAll_wrap]
  | only inner admitted keeps => exact keeps
  | grow again one others oneKeeps othersKeep => exact othersKeep.trans oneKeeps
  | rule inner keeps => exact keeps
  | @follow tails tail tokens rest left row more grown among one others oneKeeps othersKeep =>
      simp only [Goal.row, Fragment.printAll_wrap, Fragment.printAll_append, List.append_assoc]
        at othersKeep
      rw [othersKeep, oneKeeps]
      rfl

/-- What is read, and the tokens left, print as the tokens did. -/
theorem print_read? (newline : Text) (rules : Rule → Grammar Rule) (start : Grammar Rule)
    (tokens rest : List Token) (row : List Fragment)
    (given : read? rules start tokens = some (row, rest)) :
    Fragment.printAll newline row ++ Token.printAll newline rest =
      Token.printAll newline tokens :=
  (derives_of_read given).print newline

end Grammar

end ClassMaps
