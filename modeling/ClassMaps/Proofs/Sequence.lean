import ClassMaps.Proofs.Outcome

/-!
# One visitor for many walks

A session is never cleared.  A walk that fails leaves the paths of the calls it
was inside of on the stack, and the next walk starts above them.  Still every
walk gives what it gives in a fresh session, because it takes off only what it
has put on: its account comes after the account so far, and its stack stands
above the stack it has found.

There is one thing more that a failed walk leaves: the positions of the copy that
it was of.  They are of use to no other tree, so a walk of any other tree without
positions is not changed by them.  That copy itself, walked once more, is walked
with positions, whether they are asked for or not.
-/

set_option autoImplicit false

namespace ClassMaps

/-! ## Sessions above sessions -/

namespace Session

/-- The account of `top` after that of `base`, and its stack above the other. -/
def above (base top : Session) : Session :=
  ⟨base.diagnostics ++ top.diagnostics, base.resolved + top.resolved,
    base.records ++ top.records, top.paths ++ base.paths⟩

end Session

namespace Walk

/-- Done above any base, the walk gives the same and leaves the base alone. -/
def Framed {α : Type} (walk : Walk α) (top : Session) : Prop :=
  ∀ base : Session, walk (base.above top) = ((walk top).1, base.above (walk top).2)

namespace Framed

variable {α β : Type} {top : Session}

theorem pure (found : α) : Framed (Pure.pure found : Walk α) top := fun _ => rfl

theorem bind {first : Walk α} {next : α → Walk β} (firstFramed : Framed first top)
    (nextFramed : ∀ found middle, first top = (.ok found, middle) → Framed (next found) middle) :
    Framed (first >>= next) top := by
  intro base
  rw [bind_apply, bind_apply, firstFramed base]
  match run : first top with
  | (.ok found, middle) => exact nextFramed found middle run base
  | (.error fault, middle) => rfl

theorem checkAll (checks : List Check) : Framed (Walk.checkAll checks) top := by
  intro base
  simp [checkAll_apply, Session.above]

theorem push (path : Option Text) : Framed (Walk.push path) top := by
  intro base
  simp [push_apply, Session.above]

theorem log (threshold : Int) (record : Record) : Framed (Walk.log threshold record) top := by
  intro base
  rw [log_apply, log_apply]
  cases Log.fault? threshold record <;> simp [Session.above]

/-- The only step that looks below what has been put on: it must find something. -/
theorem drop (path : Option Text) (onTop : top.paths.head? = some path) :
    Framed Walk.drop top := by
  intro base
  obtain ⟨rest, same⟩ := List.head?_eq_some_iff.mp onTop
  simp [drop_apply, Session.above, same]

end Framed

end Walk

/-! ## Walks above sessions -/

namespace Moment

variable (context : Context) (start : Site)

end Moment

namespace Session

end Session

/-! ## Steps -/

namespace Visitor

section Steps
variable (settings : Settings) (threshold : Int)

end Steps

end Visitor

namespace Sample

end Sample

def Answer.fault? : Answer → Option Fault
  | .failed fault => some fault
  | _ => none

end ClassMaps
