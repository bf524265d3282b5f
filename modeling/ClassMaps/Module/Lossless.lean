import ClassMaps.Module
import ClassMaps.Grammar.Lossless
import ClassMaps.Token.Lossless

/-!
# A module is its source

A parsed module prints as the source it was parsed from, less a leading byte
order mark.
-/

set_option autoImplicit false

namespace ClassMaps

/-- What is read of a source prints as the source. -/
theorem Source.print_read (start : Grammar Python.Rule) (source : Text) (row : List Fragment)
    (given : Source.read start source = .ok row) :
    Fragment.printAll (Source.newlineOf source) row = source := by
  unfold Source.read at given
  split at given
  · cases given
  · split at given
    · cases given
    · rename_i tokens scanned
      split at given
      · rename_i found parsed
        split at given
        · cases given
        · cases given
          have printed := Grammar.print_read? (Source.newlineOf source) Python.rules start tokens
            [] row parsed
          rw [Token.print_scan? _ source tokens scanned] at printed
          simpa [Token.printAll] using printed
      · cases given

theorem Module.code_parse (source : Text) (m : Module) (given : Module.parse source = .ok m) :
    m.code = Source.withoutMark source := by
  unfold Module.parse at given
  match read : Source.read Python.file (Source.withoutMark source) with
  | .error fault => simp [read, Except.map] at given
  | .ok row =>
      simp only [read, Except.map, Except.ok.injEq] at given
      subst given
      simp only [Module.code, Fragment.printAll_allParts]
      exact Source.print_read Python.file _ row read

end ClassMaps
