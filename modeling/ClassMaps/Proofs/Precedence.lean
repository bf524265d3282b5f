import ClassMaps.Settings.Load
import Mathlib.Data.List.Basic

/-!
# Which settings count

Of all the files there are, loading looks at one, the nearest to where the search
starts.  `Files.IsNearest` says which one that is without searching, and
`Settings.LoadedFrom` what its document comes to for the names that are given.
What else there is, above that file or elsewhere, never counts, and neither does
a directory in place of a file.
-/

set_option autoImplicit false

namespace ClassMaps

/-! ## The nearest file -/

namespace Files

variable (files : Files) (place : Path)

/-- Whether the file is in the nearest directory, at the place or above it, that
has a settings file; or whether no such directory has one. -/
def IsNearest : Option (Path × List Nat) → Prop
  | none => ∀ directory, directory <+: place → files.read? (directory ++ [settingsName]) = none
  | some (directory, bytes) =>
      directory <+: place ∧ files.read? (directory ++ [settingsName]) = some bytes ∧
      ∀ nearer, nearer <+: place → directory.length < nearer.length →
        files.read? (nearer ++ [settingsName]) = none

theorem mem_ancestors (directory : Path) : directory ∈ ancestors place ↔ directory <+: place := by
  constructor
  · intro member
    obtain ⟨i, _, rfl⟩ := List.mem_map.mp member
    exact List.take_prefix _ _
  · intro above
    have shorter := above.length_le
    refine List.mem_map.mpr ⟨place.length - directory.length, List.mem_range.mpr (by omega), ?_⟩
    rw [show place.length - (place.length - directory.length) = directory.length by omega]
    exact (List.prefix_iff_eq_take.mp above).symm

theorem ancestors_pairwise :
    (ancestors place).Pairwise fun nearer further => further.length < nearer.length := by
  rw [ancestors, List.pairwise_map]
  refine (List.pairwise_lt_range).imp_of_mem ?_
  intro i j _ inRange before
  have bound := List.mem_range.mp inRange
  simp only [List.length_take]
  omega

theorem isNearest_nearest : files.IsNearest place (files.nearest place) := by
  match searched : files.nearest place with
  | none =>
      intro directory above
      have missing := List.findSome?_eq_none_iff.mp searched directory
        ((mem_ancestors place directory).mpr above)
      exact Option.map_eq_none_iff.mp missing
  | some (directory, bytes) =>
      obtain ⟨nearest, found, further, split, read, missing⟩ :=
        List.findSome?_eq_some_iff.mp searched
      obtain ⟨_, isFile, same⟩ := Option.map_eq_some_iff.mp read
      cases same
      have ordered := ancestors_pairwise place
      rw [split, List.pairwise_append] at ordered
      have member : directory ∈ ancestors place := by simp [split]
      refine ⟨(mem_ancestors place directory).mp member, isFile, ?_⟩
      intro nearer above longer
      have nearerMember := (mem_ancestors place nearer).mpr above
      rw [split] at nearerMember
      rcases List.mem_append.mp nearerMember with isNearer | notNearer
      · exact Option.map_eq_none_iff.mp (missing nearer isNearer)
      · have notLonger : nearer.length ≤ directory.length := by
          rcases List.mem_cons.mp notNearer with rfl | isFurther
          · exact Nat.le_refl _
          · exact Nat.le_of_lt ((List.pairwise_cons.mp ordered.2.1).1 nearer isFurther)
        omega

variable {files place} in
/-- There is one nearest file at most. -/
theorem IsNearest.eq {found found' : Option (Path × List Nat)}
    (isNearest : files.IsNearest place found) (isNearest' : files.IsNearest place found') :
    found = found' := by
  match found, found', isNearest, isNearest' with
  | none, none, _, _ => rfl
  | none, some (directory, bytes), missing, ⟨above, isFile, _⟩ =>
      rw [missing directory above] at isFile
      cases isFile
  | some (directory, bytes), none, ⟨above, isFile, _⟩, missing =>
      rw [missing directory above] at isFile
      cases isFile
  | some (directory, bytes), some (directory', bytes'), ⟨above, isFile, first⟩,
      ⟨above', isFile', first'⟩ =>
      rcases Nat.lt_trichotomy directory.length directory'.length with shorter | same | longer
      · rw [first directory' above' shorter] at isFile'
        cases isFile'
      · have sameDirectory : directory = directory' := by
          rw [List.prefix_iff_eq_take.mp above, List.prefix_iff_eq_take.mp above', same]
        subst sameDirectory
        rw [isFile] at isFile'
        cases isFile'
        rfl
      · rw [first' directory above longer] at isFile
        cases isFile

theorem isNearest_iff (found : Option (Path × List Nat)) :
    files.IsNearest place found ↔ files.nearest place = found := by
  constructor
  · intro isNearest
    exact (files.isNearest_nearest place).eq isNearest
  · rintro rfl
    exact files.isNearest_nearest place

end Files

/-! ## What a document says -/

namespace Toml

def isTable : Toml → Bool
  | .table _ => true
  | _ => false

/-- The value at a path of keys. -/
def at? : List Text → Toml → Option Toml
  | [], value => some value
  | key :: path, value =>
      match value with
      | .table entries => (Table.get? entries key).bind (at? path)
      | _ => none

theorem at?_append (path rest : List Text) (value : Toml) :
    value.at? (path ++ rest) = (value.at? path).bind (at? rest) := by
  induction path generalizing value with
  | nil => rfl
  | cons key path ih =>
      cases value with
      | table entries =>
          simp only [List.cons_append, at?]
          cases Table.get? entries key with
          | none => rfl
          | some inner => exact ih inner
      | _ => rfl

theorem at?_singleton (entries : Table) (key : Text) :
    (table entries).at? [key] = Table.get? entries key := by
  simp [at?]

theorem isTable_of_at? (key : Text) (path : List Text) (value found : Toml)
    (given : value.at? (key :: path) = some found) : value.isTable := by
  cases value with
  | table entries => rfl
  | _ => cases given

/-- The document that a file holds. -/
def ofBytes? (bytes : List Nat) : Option Toml :=
  (Utf8.decode bytes).bind fun source => (parse source).map .table

end Toml

theorem Toml.at?_section (document : Toml) :
    document.at? [Settings.toolKey, Settings.sectionKey] =
      (document.at? [Settings.toolKey]).bind (at? [Settings.sectionKey]) :=
  document.at?_append [Settings.toolKey] [Settings.sectionKey]

theorem Toml.at?_name (document : Toml) (field : Field) :
    document.at? [Settings.toolKey, Settings.sectionKey, field.key] =
      (document.at? [Settings.toolKey, Settings.sectionKey]).bind (at? [field.key]) :=
  document.at?_append [Settings.toolKey, Settings.sectionKey] [field.key]

namespace Settings

/-- What the settings file says; no file says as much as an empty one. -/
def document? : Option (List Nat) → Option Toml
  | none => some (.table [])
  | some bytes => Toml.ofBytes? bytes

def isGiven (given : Option Given) : Bool := (given.filter Given.isTruthy).isSome

/-- The value for one name: what is given for it, or else what the document has in
its section, or else the default. -/
def value (document : Toml) (given : Option Given) (field : Field) : Given :=
  (given.filter Given.isTruthy).getD
    (((document.at? [toolKey, sectionKey, field.key]).map givenOf).getD (.text (standard field)))

/-- What is found from a document for the names that are given. -/
structure LoadedFrom (document? : Option Toml) (tagger loader : Option Given)
    (found : Except LoadFault Settings) : Prop where
  noDocument : document? = none → ∃ fault, found = .error fault
  noTool : ∀ document value, document? = some document →
    document.at? [toolKey] = some value → value.isTable = false →
    found = .error (.notTable value)
  noSection : ∀ document value, document? = some document →
    document.at? [toolKey, sectionKey] = some value → value.isTable = false →
    (found = .error (.notTable value) ↔ ¬ (isGiven tagger ∧ isGiven loader))
  names : ∀ document, document? = some document →
    (∀ value, document.at? [toolKey] = some value → value.isTable) →
    (∀ value, document.at? [toolKey, sectionKey] = some value →
      value.isTable ∨ isGiven tagger ∧ isGiven loader) →
    ∀ t l, (∃ settings, found = .ok settings ∧ settings.tagger = t ∧ settings.loader = l) ↔
      value document tagger .tagger = .text t ∧ value document loader .loader = .text l ∧
        Text.isBlank t = false ∧ Text.isBlank l = false

theorem table?_of_notTable (value : Toml) (other : value.isTable = false) :
    table? value = .error (.notTable value) := by
  cases value with
  | table entries => cases other
  | _ => rfl

/-! ### The section -/

section Section
variable {file : Option (List Nat)} {document : Toml}

theorem sectionIn_of_noDocument (unread : document? file = none) :
    ∃ fault, sectionIn file = .error fault := by
  match file, unread with
  | some bytes, unread =>
      simp only [document?, Toml.ofBytes?] at unread
      simp only [sectionIn, sectionOf]
      cases decoded : Utf8.decode bytes with
      | none => exact ⟨_, rfl⟩
      | some source =>
          rw [decoded, Option.bind_some, Option.map_eq_none_iff] at unread
          exact ⟨.notToml, by simp only [unread]⟩

/-- In a file that is read, what counts is its `tool`. -/
theorem sectionIn_eq (isRead : document? file = some document) :
    sectionIn file = do
      let tool ← table? ((document.at? [toolKey]).getD (.table []))
      return ((Toml.Table.get? tool sectionKey).getD (.table [])) := by
  match file, isRead with
  | none, isRead =>
      cases isRead
      rfl
  | some bytes, isRead =>
      simp only [document?, Toml.ofBytes?, Option.bind_eq_some_iff, Option.map_eq_some_iff]
        at isRead
      obtain ⟨source, decoded, root, parsed, rfl⟩ := isRead
      simp only [sectionIn, sectionOf, decoded, parsed, Toml.at?_singleton]

theorem sectionIn_of_noTool (value : Toml) (isRead : document? file = some document)
    (tool : document.at? [toolKey] = some value) (other : value.isTable = false) :
    sectionIn file = .error (.notTable value) := by
  rw [sectionIn_eq isRead, tool, Option.getD_some, table?_of_notTable value other]
  rfl

theorem sectionIn_of_tool (isRead : document? file = some document)
    (tool : ∀ value, document.at? [toolKey] = some value → value.isTable) :
    sectionIn file = .ok ((document.at? [toolKey, sectionKey]).getD (.table [])) := by
  rw [sectionIn_eq isRead, document.at?_section]
  cases found : document.at? [toolKey] with
  | none => rfl
  | some value =>
      have isTable := tool value found
      cases value with
      | table entries =>
          rw [Option.bind_some, Toml.at?_singleton]
          rfl
      | _ => cases isTable

end Section

/-! ### The names -/

section Names
variable (document : Toml) (given : Option Given) (field : Field)

/-- The section of a document, which is empty if it is not there. -/
def sectionFrom : Toml := (document.at? [toolKey, sectionKey]).getD (.table [])

theorem choose_of_isGiven (section_ : Toml) (isGiven : isGiven given) :
    choose given section_ field = .ok (value document given field) := by
  obtain ⟨content, counts⟩ := Option.isSome_iff_exists.mp isGiven
  rw [choose, value, counts]
  rfl

theorem choose_of_section
    (isTable : ∀ value, document.at? [toolKey, sectionKey] = some value → value.isTable) :
    choose given (sectionFrom document) field = .ok (value document given field) := by
  rw [choose, value, sectionFrom, document.at?_name]
  cases given.filter Given.isTruthy with
  | some content => rfl
  | none =>
      cases found : document.at? [toolKey, sectionKey] with
      | none => rfl
      | some section_ =>
          have isTable := isTable section_ found
          cases section_ with
          | table entries =>
              rw [Option.bind_some, Toml.at?_singleton]
              rfl
          | _ => cases isTable

theorem choose_of_noSection (section_ : Toml) (missing : ¬ isGiven given)
    (other : section_.isTable = false) :
    choose given section_ field = .error (.notTable section_) := by
  have none : given.filter Given.isTruthy = none := Option.not_isSome_iff_eq_none.mp missing
  rw [choose, none, table?_of_notTable section_ other]
  rfl

theorem ofGiven_ok_iff (tagger loader : Given) (t l : Text) :
    (∃ settings, ofGiven tagger loader = .ok settings ∧
      settings.tagger = t ∧ settings.loader = l) ↔
      tagger = .text t ∧ loader = .text l ∧ Text.isBlank t = false ∧ Text.isBlank l = false := by
  constructor
  · rintro ⟨settings, made, rfl, rfl⟩
    unfold ofGiven at made
    split at made
    · split at made
      · rename_i shown
        cases made
        exact ⟨rfl, rfl, shown⟩
      · cases made
    · cases made
  · rintro ⟨rfl, rfl, taggerShown, loaderShown⟩
    exact ⟨⟨t, l, taggerShown, loaderShown⟩, dif_pos ⟨taggerShown, loaderShown⟩, rfl, rfl⟩

end Names

/-! ### Loading -/

section Loading
variable {file : Option (List Nat)} {tagger loader : Option Given}

theorem load_of_section_error (fault : LoadFault) (failed : sectionIn file = .error fault) :
    load tagger loader file = .error fault := by
  rw [load, failed]
  rfl

theorem load_of_sectionIn (section_ : Toml) (found : sectionIn file = .ok section_) :
    load tagger loader file = (do
      let tagger ← choose tagger section_ .tagger
      let loader ← choose loader section_ .loader
      (ofGiven tagger loader).mapError .fields) := by
  rw [load, found]
  rfl

theorem load_of_chosen (section_ : Toml) (chosen chosen' : Given)
    (found : sectionIn file = .ok section_)
    (isTagger : choose tagger section_ .tagger = .ok chosen)
    (isLoader : choose loader section_ .loader = .ok chosen') :
    load tagger loader file = (ofGiven chosen chosen').mapError .fields := by
  rw [load_of_sectionIn section_ found, isTagger, isLoader]
  rfl

theorem load_of_noSection (section_ : Toml) (found : sectionIn file = .ok section_)
    (other : section_.isTable = false) (missing : ¬ (isGiven tagger ∧ isGiven loader)) :
    load tagger loader file = .error (.notTable section_) := by
  rw [load_of_sectionIn section_ found]
  by_cases hasTagger : isGiven tagger = true
  · have noLoader : ¬ isGiven loader := fun hasLoader => missing ⟨hasTagger, hasLoader⟩
    rw [choose_of_isGiven (.table []) tagger .tagger section_ hasTagger,
      choose_of_noSection loader .loader section_ noLoader other]
    rfl
  · rw [choose_of_noSection tagger .tagger section_ hasTagger other]
    rfl

/-- Both names are chosen, and the values are then judged as given ones. -/
theorem load_of_names (document : Toml) (isRead : document? file = some document)
    (tool : ∀ value, document.at? [toolKey] = some value → value.isTable)
    (asked : ∀ value, document.at? [toolKey, sectionKey] = some value →
      value.isTable ∨ isGiven tagger ∧ isGiven loader) :
    load tagger loader file =
      (ofGiven (value document tagger .tagger) (value document loader .loader)).mapError
        .fields := by
  have found : sectionIn file = .ok (sectionFrom document) := sectionIn_of_tool isRead tool
  by_cases both : isGiven tagger = true ∧ isGiven loader = true
  · exact load_of_chosen _ _ _ found
      (choose_of_isGiven document tagger .tagger _ both.1)
      (choose_of_isGiven document loader .loader _ both.2)
  · have isTable : ∀ value, document.at? [toolKey, sectionKey] = some value → value.isTable := by
      intro value present
      rcases asked value present with isTable | given
      · exact isTable
      · exact absurd given both
    exact load_of_chosen _ _ _ found (choose_of_section document tagger .tagger isTable)
      (choose_of_section document loader .loader isTable)

theorem loadedFrom_load (tagger loader : Option Given) (file : Option (List Nat)) :
    LoadedFrom (document? file) tagger loader (load tagger loader file) := by
  constructor
  case noDocument =>
    intro unread
    obtain ⟨fault, failed⟩ := sectionIn_of_noDocument unread
    exact ⟨fault, load_of_section_error fault failed⟩
  case noTool =>
    intro document value isRead tool other
    exact load_of_section_error _ (sectionIn_of_noTool value isRead tool other)
  case noSection =>
    intro document value isRead section_ other
    have tool : ∀ value, document.at? [toolKey] = some value → value.isTable := by
      intro tool found
      rw [document.at?_section, found, Option.bind_some] at section_
      exact tool.isTable_of_at? sectionKey [] value section_
    constructor
    · rintro failed ⟨hasTagger, hasLoader⟩
      rw [load_of_names document isRead tool fun _ _ => .inr ⟨hasTagger, hasLoader⟩] at failed
      cases made : ofGiven (Settings.value document tagger .tagger)
          (Settings.value document loader .loader) with
      | ok settings => simp [made, Except.mapError] at failed
      | error faults => simp [made, Except.mapError] at failed
    · intro missing
      have found : sectionIn file = .ok value := by
        rw [sectionIn_of_tool isRead tool, section_]
        rfl
      exact load_of_noSection value found other missing
  case names =>
    intro document isRead tool asked t l
    rw [load_of_names document isRead tool asked, ← ofGiven_ok_iff]
    cases ofGiven (value document tagger .tagger) (value document loader .loader) with
    | ok settings => simp [Except.mapError]
    | error faults => simp [Except.mapError]

end Loading

end Settings

/-- Loading depends on the names that are given and on what the nearest settings
file says.  Where the search starts, what other files there are, and in particular
what stands above the nearest one, makes no difference. -/
theorem Settings.loadAt_nearest (files : Files) (working : Path) (search : Option Text)
    (tagger loader : Option Given) :
    let place := Path.ofSearch working search
    let found := Settings.loadAt files working search tagger loader
    ∃ nearest, files.IsNearest place nearest ∧
      Settings.LoadedFrom (Settings.document? (nearest.map (·.2))) tagger loader found ∧
      (∀ (files' : Files) (working' : Path) (search' : Option Text) nearest',
        files'.IsNearest (Path.ofSearch working' search') nearest' →
        nearest'.map (·.2) = nearest.map (·.2) →
        Settings.loadAt files' working' search' tagger loader = found) ∧
      ∀ directory bytes, nearest = some (directory, bytes) → ∀ files' : Files,
        (∀ between, directory <+: between → between <+: place →
          files'.read? (between ++ [Files.settingsName]) =
            files.read? (between ++ [Files.settingsName])) →
        Settings.loadAt files' working search tagger loader = found := by
  intro place found
  have nearest := files.isNearest_nearest place
  have elsewhere : ∀ (files' : Files) (working' : Path) (search' : Option Text) nearest',
      files'.IsNearest (Path.ofSearch working' search') nearest' →
      nearest'.map (·.2) = (files.nearest place).map (·.2) →
      Settings.loadAt files' working' search' tagger loader = found := by
    intro files' working' search' nearest' isNearest' same
    rw [Settings.loadAt, (files'.isNearest_iff _ _).mp isNearest', same]
    rfl
  refine ⟨files.nearest place, nearest, Settings.loadedFrom_load tagger loader _, elsewhere, ?_⟩
  intro directory bytes isThere files' agree
  rw [isThere] at nearest
  obtain ⟨above, isFile, first⟩ := nearest
  apply elsewhere files' working search (some (directory, bytes)) ?_ (by rw [isThere])
  refine ⟨above, ?_, ?_⟩
  · rw [agree directory List.prefix_rfl above, isFile]
  · intro nearer isAbove longer
    have between : directory <+: nearer :=
      List.prefix_of_prefix_length_le above isAbove (Nat.le_of_lt longer)
    rw [agree nearer between isAbove, first nearer isAbove longer]

namespace Sample

/-- A settings file, one without a section below it, and below that a directory of
the name. -/
def shadowed : Files :=
  [([Files.settingsName], .file (Utf8.encode
      (text "[tool.elm_css_modules]\nloader_name = 'load'\n"))),
   ([text "a", Files.settingsName], .file (Utf8.encode (text "[tool]\nname = 1\n"))),
   ([text "a", text "b", Files.settingsName], .directory)]

def search : Text := text "a/b/../b/c"

def css : Option Given := some (.text (text "css"))

end Sample

theorem Settings.loadAt_nearest_sample :
    let found := Settings.loadAt Sample.shadowed [] (some Sample.search) Sample.css none
    (∃ settings, found = .ok settings ∧
      settings.tagger = text "css" ∧ settings.loader = Settings.defaultLoader) ∧
    Settings.loadAt (Sample.shadowed.drop 1) [] (some Sample.search) Sample.css none = found := by
  intro found
  obtain ⟨nearest, isNearest, loaded, _, shadows⟩ :=
    Settings.loadAt_nearest Sample.shadowed [] (some Sample.search) Sample.css none
  have isThere : nearest =
      some ([text "a"], Utf8.encode (text "[tool]\nname = 1\n")) := by
    rw [← (Files.isNearest_iff _ _ _).mp isNearest]
    decide +kernel
  constructor
  · have isRead : (Settings.document? (nearest.map (·.2))).isSome = true := by
      rw [isThere]
      decide +kernel
    have hasTool : ((Settings.document? (nearest.map (·.2))).bind
        (Toml.at? [Settings.toolKey])).all Toml.isTable = true := by
      rw [isThere]
      decide +kernel
    have noSection : ((Settings.document? (nearest.map (·.2))).bind
        (Toml.at? [Settings.toolKey, Settings.sectionKey])).isNone = true := by
      rw [isThere]
      decide +kernel
    obtain ⟨document, isRead⟩ := Option.isSome_iff_exists.mp isRead
    rw [isRead, Option.bind_some] at hasTool noSection
    rw [Option.isNone_iff_eq_none] at noSection
    have noLoader : Settings.value document none .loader = .text Settings.defaultLoader := by
      rw [Settings.value, document.at?_name, noSection]
      rfl
    refine (loaded.names document isRead ?_ ?_ _ _).mpr
      ⟨rfl, noLoader, by decide, by decide⟩
    · intro value isTool
      simpa [isTool] using hasTool
    · intro value isSection
      rw [noSection] at isSection
      cases isSection
  · apply shadows _ _ isThere
    intro between below _
    have notRoot : [Files.settingsName] ≠ between ++ [Files.settingsName] := by
      intro same
      have atRoot : between = [] := by simpa using same
      rw [atRoot] at below
      cases List.prefix_nil.mp below
    simp [Sample.shadowed, Files.read?, Files.get?, notRoot]

end ClassMaps
