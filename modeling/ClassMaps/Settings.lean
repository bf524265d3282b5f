import ClassMaps.Text

/-!
# Settings

The two names that a run depends on: the tagger, which marks the expressions
to resolve, and the loader, which the lookups call.  A name is kept as it is
given and has at least one code point that is not blank.
-/

set_option autoImplicit false

namespace ClassMaps

structure Settings where
  tagger : Text
  loader : Text
  taggerShown : Text.isBlank tagger = false
  loaderShown : Text.isBlank loader = false

/-- A value given for a name: a text, or something else, of which only matters
whether it counts as given. -/
inductive Given
  | text (content : Text)
  | other (truthy : Bool)
deriving DecidableEq

/-- An empty text, like other empty values, does not count as given. -/
def Given.isTruthy : Given → Bool
  | .text content => !content.isEmpty
  | .other truthy => truthy

inductive Field
  | tagger
  | loader
deriving DecidableEq

/-- The name of a field, in a settings file and elsewhere. -/
def Field.key : Field → Text
  | .tagger => text "tagger_name"
  | .loader => text "loader_name"

inductive FieldFault
  | notText
  | blank
  | frozen
deriving DecidableEq

def FieldFault.message : FieldFault → Text
  | .notText => text "Input should be a valid string"
  | .blank => text "Value error, identifier names must not be empty"
  | .frozen => text "Instance is frozen"

namespace Settings

def defaultTagger : Text := text "cultureamp$elm_css_modules_loader$CssModules$css"

def defaultLoader : Text := text "require"

/-- The fault of a value as a name. -/
def fault? : Given → Option FieldFault
  | .other _ => some .notText
  | .text content => if Text.isBlank content then some .blank else none

/-- The settings of two given values, or the faults of both in order. -/
def ofGiven (tagger loader : Given) : Except (List (Field × FieldFault)) Settings :=
  let faults := ((fault? tagger).map (Field.tagger, ·)).toList ++
    ((fault? loader).map (Field.loader, ·)).toList
  match tagger, loader with
  | .text t, .text l =>
      if h : Text.isBlank t = false ∧ Text.isBlank l = false then .ok ⟨t, l, h.1, h.2⟩
      else .error faults
  | _, _ => .error faults

/-- A missing value stands for its default. -/
def ofGiven? (tagger loader : Option Given) : Except (List (Field × FieldFault)) Settings :=
  ofGiven (tagger.getD (.text defaultTagger)) (loader.getD (.text defaultLoader))

/-- A value that does not count as given stands for its default, too. -/
def ofTruthy (tagger loader : Option Given) : Except (List (Field × FieldFault)) Settings :=
  ofGiven? (tagger.filter Given.isTruthy) (loader.filter Given.isTruthy)

/-- Settings are never changed: what an attempt is answered with. -/
def assign (_ : Settings) (_field : Text) : FieldFault := .frozen

def isDefault (s : Settings) : Bool := s.tagger = defaultTagger && s.loader = defaultLoader

end Settings

end ClassMaps
