import ClassMaps.Text

/-!
# Names of styles

A style is named by words in any order: attributes, each with `not` before it
or without, a colour, a background after `on`, and the target of a link after
`link`.  Two names are the same if they set the same; a name that is no style
stands for itself, case and outer blanks aside.
-/

set_option autoImplicit false

namespace ClassMaps

structure Style where
  attributes : List (Text × Bool)
  color : Option Text
  background : Option Text
  link : Option Text

namespace Style

def plain : Style := ⟨[], none, none, none⟩

def attributeNames : List Text :=
  [text "bold", text "dim", text "italic", text "underline", text "blink", text "blink2",
   text "reverse", text "conceal", text "strike", text "underline2", text "frame",
   text "encircle", text "overline"]

/-- Short names of attributes with their long ones. -/
def shortNames : List (Text × Text) :=
  [(text "b", text "bold"), (text "d", text "dim"), (text "i", text "italic"),
   (text "u", text "underline"), (text "uu", text "underline2"), (text "r", text "reverse"),
   (text "c", text "conceal"), (text "s", text "strike"), (text "o", text "overline")]

def attribute? (word : Text) : Option Text :=
  let long := ((shortNames.find? (·.1 = word)).map (·.2)).getD word
  attributeNames.find? (· = long)

def colorNames : List String :=
  ["black", "red", "green", "yellow", "blue", "magenta", "cyan", "white", "bright_black",
   "bright_red", "bright_green", "bright_yellow", "bright_blue", "bright_magenta",
   "bright_cyan", "bright_white", "grey0", "gray0", "navy_blue", "dark_blue", "blue3", "blue1",
   "dark_green", "deep_sky_blue4", "dodger_blue3", "dodger_blue2", "green4", "spring_green4",
   "turquoise4", "deep_sky_blue3", "dodger_blue1", "green3", "spring_green3", "dark_cyan",
   "light_sea_green", "deep_sky_blue2", "deep_sky_blue1", "spring_green2", "cyan3",
   "dark_turquoise", "turquoise2", "green1", "spring_green1", "medium_spring_green", "cyan2",
   "cyan1", "dark_red", "deep_pink4", "purple4", "purple3", "blue_violet", "orange4", "grey37",
   "gray37", "medium_purple4", "slate_blue3", "royal_blue1", "chartreuse4", "dark_sea_green4",
   "pale_turquoise4", "steel_blue", "steel_blue3", "cornflower_blue", "chartreuse3",
   "cadet_blue", "sky_blue3", "steel_blue1", "pale_green3", "sea_green3", "aquamarine3",
   "medium_turquoise", "chartreuse2", "sea_green2", "sea_green1", "aquamarine1",
   "dark_slate_gray2", "dark_magenta", "dark_violet", "purple", "light_pink4", "plum4",
   "medium_purple3", "slate_blue1", "yellow4", "wheat4", "grey53", "gray53", "light_slate_grey",
   "light_slate_gray", "medium_purple", "light_slate_blue", "dark_olive_green3",
   "dark_sea_green", "light_sky_blue3", "sky_blue2", "dark_sea_green3", "dark_slate_gray3",
   "sky_blue1", "chartreuse1", "light_green", "pale_green1", "dark_slate_gray1", "red3",
   "medium_violet_red", "magenta3", "dark_orange3", "indian_red", "hot_pink3", "medium_orchid3",
   "medium_orchid", "medium_purple2", "dark_goldenrod", "light_salmon3", "rosy_brown", "grey63",
   "gray63", "medium_purple1", "gold3", "dark_khaki", "navajo_white3", "grey69", "gray69",
   "light_steel_blue3", "light_steel_blue", "yellow3", "dark_sea_green2", "light_cyan3",
   "light_sky_blue1", "green_yellow", "dark_olive_green2", "dark_sea_green1", "pale_turquoise1",
   "deep_pink3", "magenta2", "hot_pink2", "orchid", "medium_orchid1", "orange3", "light_pink3",
   "pink3", "plum3", "violet", "light_goldenrod3", "tan", "misty_rose3", "thistle3", "plum2",
   "khaki3", "light_goldenrod2", "light_yellow3", "grey84", "gray84", "light_steel_blue1",
   "yellow2", "dark_olive_green1", "honeydew2", "light_cyan1", "red1", "deep_pink2",
   "deep_pink1", "magenta1", "orange_red1", "indian_red1", "hot_pink", "dark_orange", "salmon1",
   "light_coral", "pale_violet_red1", "orchid2", "orchid1", "orange1", "sandy_brown",
   "light_salmon1", "light_pink1", "pink1", "plum1", "gold1", "navajo_white1", "misty_rose1",
   "thistle1", "yellow1", "light_goldenrod1", "khaki1", "wheat1", "cornsilk1", "grey100",
   "gray100", "grey3", "gray3", "grey7", "gray7", "grey11", "gray11", "grey15", "gray15",
   "grey19", "gray19", "grey23", "gray23", "grey27", "gray27", "grey30", "gray30", "grey35",
   "gray35", "grey39", "gray39", "grey42", "gray42", "grey46", "gray46", "grey50", "gray50",
   "grey54", "gray54", "grey58", "gray58", "grey62", "gray62", "grey66", "gray66", "grey70",
   "gray70", "grey74", "gray74", "grey78", "gray78", "grey82", "gray82", "grey85", "gray85",
   "grey89", "gray89", "grey93", "gray93"]

def isByte (t : Text) : Bool :=
  !t.isEmpty && t.all CodePoint.isDigit &&
    t.foldl (fun n c => n * 10 + (c.val - 0x30)) 0 ≤ 255

/-- The text between `start` with a parenthesis and the closing parenthesis that
ends the word. -/
def inside? (start : String) (word : Text) : Option Text :=
  match Text.after? (text start ++ sign '(') word with
  | none => none
  | some rest => if rest.getLast?.any (·.is ')') then some rest.dropLast else none

def isColor (word : Text) : Bool :=
  word = text "default" || colorNames.any (text · = word) ||
    (match word with
      | [] => false
      | c :: digits => c.is '#' && digits.length = 6 && digits.all fun d => (d.digit? 16).isSome) ||
    (inside? "color" word).any (fun number => number.length ≤ 3 && isByte number) ||
    (inside? "rgb" word).any fun numbers =>
      let row := numbers.splitOnP (·.is ',')
      row.length = 3 && row.all isByte

def set (name : Text) (value : Bool) : List (Text × Bool) → List (Text × Bool)
  | [] => [(name, value)]
  | entry :: rest => if entry.1 = name then (name, value) :: rest else entry :: set name value rest

/-- The style that words name, in addition to what is set. -/
def ofWords? (style : Style) : List Text → Option Style
  | [] => some style
  | word :: rest =>
      let lower := word.map CodePoint.toAsciiLower
      if lower = text "on" then
        match rest with
        | [] => none
        | color :: rest' =>
            let lowerColor := color.map CodePoint.toAsciiLower
            if isColor lowerColor then ofWords? { style with background := some lowerColor } rest'
            else none
      else if lower = text "not" then
        match rest with
        | [] => none
        | name :: rest' =>
            match attribute? name with
            | none => none
            | some long =>
                ofWords? { style with attributes := set long false style.attributes } rest'
      else if lower = text "link" then
        match rest with
        | [] => none
        | target :: rest' => ofWords? { style with link := some target } rest'
      else
        match attribute? lower with
        | some long => ofWords? { style with attributes := set long true style.attributes } rest
        | none =>
            if isColor lower then ofWords? { style with color := some lower } rest else none

def words (style : Style) : List Text :=
  let attributes := attributeNames.flatMap fun name =>
    match (style.attributes.find? (·.1 = name)).map (·.2) with
    | none => []
    | some true => [name]
    | some false => [text "not", name]
  attributes ++ style.color.toList ++
    (style.background.map fun color => [text "on", color]).getD [] ++
    (style.link.map fun target => [text "link", target]).getD []

def split (name : Text) : List Text :=
  (name.splitOnP CodePoint.isBlank).filter fun word => !word.isEmpty

def trimmed (t : Text) : Text :=
  ((t.dropWhile CodePoint.isBlank).reverse.dropWhile CodePoint.isBlank).reverse

/-- The name of a style as it is compared. -/
def normalName (name : Text) : Text :=
  if trimmed name = text "none" then text "none"
  else
    match ofWords? plain (split name) with
    | none => (trimmed name).map CodePoint.toAsciiLower
    | some style =>
        let row := style.words
        if row.isEmpty then text "none" else Text.join (sign ' ') row

end Style

end ClassMaps
