import ClassMaps.Log
import Mathlib.Data.List.TakeWhile
import Mathlib.Tactic.NthRewrite

/-!
# Escaped messages can be shown

A message fails to show only at a closing tag.  Escaping puts an odd number of
backslashes before everything that reads as a tag and makes no new tag, so an
escaped message is plain throughout.  So is a message without brackets.
-/

set_option autoImplicit false

namespace ClassMaps

theorem CodePoint.eq_of_is (p : CodePoint) (c : Char) (given : p.is c = true) : p = .ofChar c := by
  obtain ⟨value, inRange⟩ := p
  have same : value = c.toNat := by simpa [CodePoint.is] using given
  subst same
  rfl

namespace Markup

def isBracket (c : CodePoint) : Bool := c.isOneOf ['[', ']']

/-- The inside of a tag: a code point that starts one, and no bracket after it. -/
structure IsBody (body : Text) : Prop where
  starts : body.head?.any startsTag = true
  closed : ∀ c ∈ body.tail, isBracket c = false

def tagText (count : Nat) (body : Text) : Text :=
  List.replicate count (CodePoint.ofChar '\\') ++ (sign '[' ++ body ++ sign ']')

/-! ## Tags in texts -/

theorem isBracket_of_startsTag (c : CodePoint) (starts : startsTag c = true) :
    isBracket c = false ∧ c.is '\\' = false := by
  have left : '['.toNat = 0x5B := rfl
  have back : '\\'.toNat = 0x5C := rfl
  have right : ']'.toNat = 0x5D := rfl
  have hash : '#'.toNat = 0x23 := rfl
  have slash : '/'.toNat = 0x2F := rfl
  have commercial : '@'.toNat = 0x40 := rfl
  simp only [startsTag, isBracket, CodePoint.isOneOf, CodePoint.is, List.any_cons, List.any_nil,
    Bool.or_false, Bool.or_eq_true, Bool.and_eq_true, decide_eq_true_eq, beq_iff_eq,
    Bool.or_eq_false_iff, beq_eq_false_iff_ne] at starts ⊢
  omega

theorem tagAt?_cons_cons (b c : CodePoint) (rest : Text) :
    tagAt? (b :: c :: rest) =
      if b.is '[' && startsTag c && (rest.find? isBracket).any (·.is ']') then
        some (c :: rest.takeWhile fun d => !isBracket d)
      else none := by
  have dropped : rest.drop (rest.takeWhile fun d => !isBracket d).length =
      rest.dropWhile fun d => !isBracket d := by
    have whole := List.takeWhile_append_dropWhile (p := fun d => !isBracket d) (l := rest)
    nth_rewrite 2 [← whole]
    rw [List.drop_left]
  rw [List.find?_eq_head?_dropWhile_not, ← dropped]
  rfl

theorem tagAt?_of_isBody (body rest : Text) (isBody : IsBody body) :
    tagAt? (sign '[' ++ body ++ sign ']' ++ rest) = some body := by
  obtain ⟨starts, closed⟩ := isBody
  cases body with
  | nil => simp at starts
  | cons c inside =>
      simp only [List.head?_cons, Option.any_some, List.tail_cons] at starts closed
      have free : ∀ d ∈ inside, (!isBracket d) = true := by
        intro d member
        simp [closed d member]
      have close : isBracket (CodePoint.ofChar ']') = true := by decide
      have bracket : (CodePoint.ofChar '[').is '[' = true := by decide
      have closes : (CodePoint.ofChar ']').is ']' = true := by decide
      have shape : sign '[' ++ (c :: inside) ++ sign ']' ++ rest =
          CodePoint.ofChar '[' :: c :: (inside ++ CodePoint.ofChar ']' :: rest) := by simp [sign]
      have found : (inside ++ CodePoint.ofChar ']' :: rest).find? isBracket =
          some (CodePoint.ofChar ']') := by
        rw [List.find?_append, List.find?_eq_none.mpr (by simpa using closed)]
        simp [close]
      have taken : (inside ++ CodePoint.ofChar ']' :: rest).takeWhile (fun d => !isBracket d) =
          inside := by
        rw [List.takeWhile_append_of_pos free]
        simp [close]
      rw [shape, tagAt?_cons_cons, found, taken]
      simp [bracket, closes, starts]

theorem isBody_of_tagAt? (s body : Text) (given : tagAt? s = some body) :
    IsBody body ∧ ∃ rest, s = sign '[' ++ body ++ sign ']' ++ rest := by
  match s with
  | [] | [_] => simp [tagAt?] at given
  | b :: c :: rest =>
      rw [tagAt?_cons_cons] at given
      split at given
      · rename_i shape
        simp only [Bool.and_eq_true] at shape
        obtain ⟨⟨opens, starts⟩, closes⟩ := shape
        cases given
        refine ⟨⟨by simpa using starts, ?_⟩, ?_⟩
        · intro d member
          simpa using List.mem_takeWhile_imp member
        · rw [List.find?_eq_head?_dropWhile_not] at closes
          cases after : rest.dropWhile fun d => !isBracket d with
          | nil => simp [after] at closes
          | cons d rest' =>
              simp only [after, List.head?_cons, Option.any_some] at closes
              have whole := List.takeWhile_append_dropWhile (p := fun d => !isBracket d)
                (l := rest)
              rw [after, d.eq_of_is ']' closes] at whole
              refine ⟨rest', ?_⟩
              nth_rewrite 1 [← whole]
              simp [sign, b.eq_of_is '[' opens]
      · cases given

theorem escapedTag?_backslash (rest : Text) :
    escapedTag? (CodePoint.ofChar '\\' :: rest) =
      (escapedTag? rest).map fun found => (found.1 + 1, found.2) := by
  have back : (CodePoint.ofChar '\\').is '\\' = true := by decide
  simp [escapedTag?, backslashes, back, Function.comp_def]

theorem escapedTag?_other (c : CodePoint) (rest : Text) (other : c.is '\\' = false) :
    escapedTag? (c :: rest) = (tagAt? (c :: rest)).map fun body => (0, body) := by
  simp [escapedTag?, backslashes, other]

theorem escapedTag?_tagText (count : Nat) (body rest : Text) (isBody : IsBody body) :
    escapedTag? (tagText count body ++ rest) = some (count, body) := by
  induction count with
  | zero =>
      have found := tagAt?_of_isBody body rest isBody
      have other : (CodePoint.ofChar '[').is '\\' = false := by decide
      simp only [tagText, List.replicate_zero, List.nil_append]
      change escapedTag? (CodePoint.ofChar '[' :: (body ++ sign ']' ++ rest)) = _
      rw [escapedTag?_other _ _ other]
      change Option.map _ (tagAt? (sign '[' ++ body ++ sign ']' ++ rest)) = _
      rw [found]
      rfl
  | succ count ih =>
      simp only [tagText, List.replicate_succ, List.cons_append] at ih ⊢
      rw [escapedTag?_backslash, ih]
      rfl

theorem tagText_of_escapedTag? (s body : Text) (count : Nat)
    (given : escapedTag? s = some (count, body)) :
    IsBody body ∧ ∃ rest, s = tagText count body ++ rest := by
  induction s generalizing count with
  | nil => simp [escapedTag?, tagAt?] at given
  | cons c s ih =>
      by_cases back : c.is '\\' = true
      · rw [c.eq_of_is '\\' back, escapedTag?_backslash] at given
        obtain ⟨found, inRest, same⟩ := Option.map_eq_some_iff.mp given
        cases same
        obtain ⟨isBody, rest, rfl⟩ := ih found.1 inRest
        refine ⟨isBody, rest, ?_⟩
        rw [c.eq_of_is '\\' back]
        simp [tagText, List.replicate_succ]
      · rw [escapedTag?_other c s (by simpa using back)] at given
        obtain ⟨found, atStart, same⟩ := Option.map_eq_some_iff.mp given
        cases same
        obtain ⟨isBody, rest, shape⟩ := isBody_of_tagAt? _ _ atStart
        exact ⟨isBody, rest, by simpa [tagText] using shape⟩

theorem escapedTag?_of_noBracket (s : Text) (free : ∀ c ∈ s, isBracket c = false) :
    escapedTag? s = none := by
  cases found : escapedTag? s with
  | none => rfl
  | some tag =>
      obtain ⟨_, after, shape⟩ := tagText_of_escapedTag? s tag.2 tag.1 found
      have inside : CodePoint.ofChar '[' ∈ s := by
        rw [shape]
        simp [tagText, sign]
      have opens : isBracket (CodePoint.ofChar '[') = true := by decide
      rw [free _ inside] at opens
      cases opens

/-! ## Plain messages -/

def Piece.isPlain : Piece → Bool
  | .plain _ => true
  | .tag _ _ => false

theorem shown_of_plain (tags : List Opened) (given : List Piece)
    (plain : given.all Piece.isPlain = true) : ∃ seen, shown tags given = .ok seen := by
  induction given with
  | nil => exact ⟨[], rfl⟩
  | cons piece rest ih =>
      rw [List.all_cons, Bool.and_eq_true] at plain
      cases piece with
      | tag offset body => cases plain.1
      | plain content =>
          obtain ⟨seen, restSeen⟩ := ih plain.2
          exact ⟨content ++ seen, by rw [shown, restSeen]; rfl⟩

/-- A message without tags, wherever it starts. -/
def Plain (message : Text) : Prop :=
  ∀ offset, (pieces 0 offset message).all Piece.isPlain = true

theorem render_of_plain (message : Text) (plain : Plain message) :
    ∃ seen, render message = .ok seen :=
  shown_of_plain [] _ (plain 0)

theorem plain_nil : Plain [] := by
  intro offset
  simp [pieces]

theorem pieces_append (s rest : Text) (offset : Nat) :
    pieces s.length offset (s ++ rest) = pieces 0 (offset + s.length) rest := by
  induction s generalizing offset with
  | nil => rfl
  | cons c s ih =>
      rw [List.length_cons, List.cons_append, pieces, ih]
      congr 1
      omega

theorem plain_cons (c : CodePoint) (rest : Text) (noTag : escapedTag? (c :: rest) = none)
    (plain : Plain rest) : Plain (c :: rest) := by
  intro offset
  rw [pieces, noTag]
  simp only
  split
  · rename_i shape
    rw [Bool.and_eq_true] at shape
    obtain ⟨back, opens⟩ := shape
    cases rest with
    | nil => simp at opens
    | cons b rest =>
        -- The bracket is shown with its backslash, and would have been shown without it.
        have bracket := b.eq_of_is '[' (by simpa using opens)
        rw [c.eq_of_is '\\' back, escapedTag?_backslash, Option.map_eq_none_iff] at noTag
        have here := plain (offset + 1)
        rw [pieces, noTag] at here
        have notBack : b.is '\\' = false := by
          rw [bracket]
          decide
        simp only [notBack, Bool.false_and, Bool.false_eq_true, if_false, List.all_cons,
          Bool.and_eq_true] at here
        rw [List.all_cons, Bool.and_eq_true]
        exact ⟨rfl, here.2⟩
  · rw [List.all_cons, Bool.and_eq_true]
    exact ⟨rfl, plain (offset + 1)⟩

theorem plain_tagText (count : Nat) (body rest : Text) (odd : count % 2 = 1)
    (isBody : IsBody body) (plain : Plain rest) : Plain (tagText count body ++ rest) := by
  intro offset
  have found := escapedTag?_tagText count body rest isBody
  have long : (tagText count body).length = count + body.length + 2 := by
    simp [tagText, sign]
    omega
  cases shape : tagText count body with
  | nil => simp [shape] at long
  | cons c inside =>
      rw [shape, List.cons_append] at found
      have skipped : count + body.length + 1 = inside.length := by
        rw [shape, List.length_cons] at long
        omega
      rw [List.cons_append, pieces, found]
      simp only [odd, if_true, List.all_cons, skipped, pieces_append]
      rw [plain]
      rfl

theorem plain_of_noBracket (message : Text)
    (free : ∀ c ∈ message, isBracket c = false) : Plain message := by
  induction message with
  | nil => exact plain_nil
  | cons c rest ih =>
      exact plain_cons c rest (escapedTag?_of_noBracket _ free)
        (ih fun d member => free d (List.mem_cons_of_mem c member))

/-! ## Escaping -/

theorem find?_escapeTags (t : Text) :
    (escapeTags 0 t).find? isBracket = t.find? isBracket := by
  induction t with
  | nil => simp [escapeTags]
  | cons c rest ih =>
      rw [escapeTags]
      cases found : escapedTag? (c :: rest) with
      | none => simp only [List.find?_cons, ih]
      | some tag =>
          obtain ⟨_, after, shape⟩ := tagText_of_escapedTag? _ tag.2 tag.1 found
          have back : isBracket (CodePoint.ofChar '\\') = false := by decide
          have opens : isBracket (CodePoint.ofChar '[') = true := by decide
          -- Escaping changes only the number of backslashes before the bracket.
          have first : ∀ (count : Nat) (more : Text),
              (List.replicate count (CodePoint.ofChar '\\') ++
                CodePoint.ofChar '[' :: more).find? isBracket = some (CodePoint.ofChar '[') := by
            intro count more
            induction count with
            | zero => simp [opens]
            | succ count ih => simpa [List.replicate_succ, back] using ih
          rw [shape]
          simp only [tagText, sign, List.append_assoc, List.cons_append, List.nil_append, first]

section Ending
variable (ending : Text) (free : ∀ c ∈ ending, isBracket c = false)
include free

theorem find?_escapeTags_append (t : Text) :
    (escapeTags 0 t ++ ending).find? isBracket = t.find? isBracket := by
  have none : ending.find? isBracket = none := List.find?_eq_none.mpr (by simpa using free)
  rw [List.find?_append, find?_escapeTags, none, Option.or_none]

/-- An opening bracket that starts no tag starts none after escaping, either. -/
theorem tagAt?_escapeTags (b : CodePoint) (t : Text) (noTag : tagAt? (b :: t) = none) :
    tagAt? (b :: (escapeTags 0 t ++ ending)) = none := by
  cases t with
  | nil =>
      cases ending with
      | nil => rfl
      | cons d more =>
          have none : more.find? isBracket = none := by
            rw [List.find?_eq_none]
            intro c member
            simpa using free c (List.mem_cons_of_mem d member)
          rw [escapeTags, List.nil_append, tagAt?_cons_cons, none]
          simp
  | cons d rest =>
      rw [tagAt?_cons_cons] at noTag
      by_cases starts : startsTag d = true
      · obtain ⟨notBracket, notBack⟩ := isBracket_of_startsTag d starts
        have opens : d.is '[' = false := by
          simp only [isBracket, CodePoint.isOneOf, List.any_cons, Bool.or_eq_false_iff]
            at notBracket
          exact notBracket.1
        have noneHere : escapedTag? (d :: rest) = none := by
          rw [escapedTag?_other d rest notBack]
          cases rest <;> simp [tagAt?, opens]
        rw [escapeTags, noneHere, List.cons_append, tagAt?_cons_cons,
          find?_escapeTags_append ending free]
        split at noTag
        · cases noTag
        · rename_i shape
          rw [if_neg shape]
      · -- What follows the bracket is kept or becomes a backslash: no tag starts so.
        have back : startsTag (CodePoint.ofChar '\\') = false := by decide
        have head : ∃ e more, escapeTags 0 (d :: rest) = e :: more ∧ startsTag e = false := by
          rw [escapeTags]
          cases escapedTag? (d :: rest) with
          | none => exact ⟨d, _, rfl, by simpa using starts⟩
          | some tag => exact ⟨CodePoint.ofChar '\\', _, rfl, back⟩
        obtain ⟨e, more, shape, notStart⟩ := head
        rw [shape, List.cons_append, tagAt?_cons_cons, notStart]
        simp

theorem escapedTag?_escapeTags (t : Text) (noTag : escapedTag? t = none) :
    escapedTag? (escapeTags 0 t ++ ending) = none := by
  induction t with
  | nil => simpa [escapeTags] using escapedTag?_of_noBracket ending free
  | cons c rest ih =>
      rw [escapeTags, noTag, List.cons_append]
      by_cases back : c.is '\\' = true
      · rw [c.eq_of_is '\\' back, escapedTag?_backslash, Option.map_eq_none_iff] at noTag ⊢
        exact ih noTag
      · rw [escapedTag?_other c _ (by simpa using back), Option.map_eq_none_iff] at noTag ⊢
        exact tagAt?_escapeTags ending free c rest noTag

end Ending

theorem plain_escapeTags (ending : Text) (free : ∀ c ∈ ending, isBracket c = false)
    (skip : Nat) (t : Text) : Plain (escapeTags skip t ++ ending) := by
  fun_induction escapeTags skip t with
  | case1 => simpa using plain_of_noBracket ending free
  | case2 skip _ rest ih => exact ih
  | case3 c rest count body found ih =>
      obtain ⟨isBody, _⟩ := tagText_of_escapedTag? _ body count found
      have plain := plain_tagText (2 * count + 1) body _ (by omega) isBody ih
      simpa [tagText] using plain
  | case4 c rest noTag ih =>
      have kept := escapedTag?_escapeTags ending free (c :: rest) noTag
      rw [escapeTags, noTag, List.cons_append] at kept
      exact plain_cons c _ kept ih

theorem render_escape (t : Text) : ∃ seen, render (escape t) = .ok seen := by
  apply render_of_plain
  unfold escape escapeEnd
  split
  · apply plain_escapeTags
    intro c isBack
    rw [sign, List.mem_singleton] at isBack
    rw [isBack]
    decide
  · simpa using plain_escapeTags [] (by simp) 0 t

end Markup

end ClassMaps
