import ClassMaps.Settings
import ClassMaps.Settings.Toml
import ClassMaps.Text.Utf8

/-!
# Loading settings

Settings come from the nearest settings file, in a directory or in one above
it.  A name that is given counts first, then the section of the file, then the
default.  A file is read, and its `tool` table taken, even if both names are
given; a section that is no table is an error only if it is asked for a name.
-/

set_option autoImplicit false

namespace ClassMaps

/-- A path of names below the root directory. -/
abbrev Path := List Text

namespace Path

def segments (path : Text) : List Text :=
  (path.splitOnP (·.is '/')).filter fun segment => !segment.isEmpty && segment != sign '.'

/-- Follows segments from a directory, whether they lead through anything or
not.  Two dots lead up, and the root is above itself. -/
def follow : Path → List Text → Path
  | directory, [] => directory
  | directory, segment :: rest =>
      follow (if segment = text ".." then directory.dropLast else directory ++ [segment]) rest

/-- What a path text stands for in a directory. -/
def resolve (directory : Path) (path : Text) : Path :=
  follow (if path.head?.any (·.is '/') then [] else directory) (segments path)

/-- Where a search starts: at a path, or else in the working directory. -/
def ofSearch (working : Path) : Option Text → Path
  | none => working
  | some path => resolve working path

def toText (path : Path) : Text :=
  if path.isEmpty then sign '.' else Text.join (sign '/') path

end Path

inductive Node
  | file (bytes : List Nat)
  | directory

/-- What there is at paths below the root. -/
abbrev Files := List (Path × Node)

namespace Files

def settingsName : Text := text "pyproject.toml"

def get? (files : Files) (path : Path) : Option Node :=
  (files.find? (·.1 = path)).map (·.2)

/-- The bytes of a regular file; a directory has none. -/
def read? (files : Files) (path : Path) : Option (List Nat) :=
  match files.get? path with
  | some (.file bytes) => some bytes
  | some .directory => none
  | none => none

/-- A directory and all above it, nearest first. -/
def ancestors (directory : Path) : List Path :=
  (List.range (directory.length + 1)).map fun i => directory.take (directory.length - i)

/-- The nearest settings file: where it is, and its bytes. -/
def nearest (files : Files) (place : Path) : Option (Path × List Nat) :=
  (ancestors place).findSome? fun directory =>
    (files.read? (directory ++ [settingsName])).map (directory, ·)

end Files

inductive LoadFault
  | notText
  | notToml
  | notTable (value : Toml)
  | fields (faults : List (Field × FieldFault))

namespace Settings

def toolKey : Text := text "tool"

def sectionKey : Text := text "elm_css_modules"

def standard : Field → Text
  | .tagger => defaultTagger
  | .loader => defaultLoader

def givenOf : Toml → Given
  | .string content => .text content
  | .boolean value => .other value
  | _ => .other true

def table? : Toml → Except LoadFault Toml.Table
  | .table entries => .ok entries
  | value => .error (.notTable value)

/-- The section of a settings file, which need not be a table. -/
def sectionOf (bytes : List Nat) : Except LoadFault Toml := do
  match Utf8.decode bytes with
  | none => .error .notText
  | some source =>
      match Toml.parse source with
      | none => .error .notToml
      | some root =>
          let tool ← table? ((root.get? toolKey).getD (.table []))
          return (tool.get? sectionKey).getD (.table [])

/-- The value for one name: as given, or from the section, or the default. -/
def choose (given : Option Given) (section_ : Toml) (field : Field) : Except LoadFault Given :=
  match given.filter Given.isTruthy with
  | some value => .ok value
  | none => do
      let entries ← table? section_
      return ((entries.get? field.key).map givenOf).getD (.text (standard field))

/-- The section to take names from; without a file it is empty. -/
def sectionIn : Option (List Nat) → Except LoadFault Toml
  | none => .ok (.table [])
  | some bytes => sectionOf bytes

def load (tagger loader : Option Given) (file : Option (List Nat)) :
    Except LoadFault Settings := do
  let section_ ← sectionIn file
  let tagger ← choose tagger section_ .tagger
  let loader ← choose loader section_ .loader
  (ofGiven tagger loader).mapError .fields

/-- Loads settings from the nearest file of a search path or the working
directory. -/
def loadAt (files : Files) (working : Path) (search : Option Text) (tagger loader : Option Given) :
    Except LoadFault Settings :=
  load tagger loader ((files.nearest (Path.ofSearch working search)).map (·.2))

end Settings

end ClassMaps
