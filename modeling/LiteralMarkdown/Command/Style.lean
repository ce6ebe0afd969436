import LiteralMarkdown.Text.Emoji
import LiteralMarkdown.Text.Integer

/-!
# Names of styles

The name of a style is made of words for traits, for a colour, for another colour `on` which
something is shown, and for a link. However the words are ordered, spelled or repeated, a style has
one settled name. A name that is none of these is settled as it is, in small letters. Only a name
with a colour in parts that are no numbers has no settled form: it cannot be read at all.
-/

namespace LiteralMarkdown.Command

/-- What the name of a style says. -/
structure Style where
  /-- The traits that are switched on or off, the latest first. -/
  traits : List (String × Bool)
  colour : Option String
  background : Option String
  link : Option String
deriving DecidableEq, Repr

namespace Style

/-- The traits, in the order in which a settled name has them. -/
def allTraits : List String :=
  ["bold", "dim", "italic", "underline", "blink", "blink2", "reverse", "conceal", "strike",
    "underline2", "frame", "encircle", "overline"]

/-- The traits that have short names, too. -/
def shortNames : List (String × String) :=
  [("b", "bold"), ("d", "dim"), ("i", "italic"), ("u", "underline"), ("uu", "underline2"),
    ("r", "reverse"), ("c", "conceal"), ("s", "strike"), ("o", "overline")]

/-- The trait with a name. -/
def trait? (name : String) : Option String :=
  if allTraits.contains name then some name else shortNames.lookup name

/-! ## Colours -/

/-- The names of colours, several to a line. -/
def colourLines : List String := [
  "black red green yellow blue magenta cyan white bright_black bright_red bright_green",
  "bright_yellow bright_blue bright_magenta bright_cyan bright_white grey0 gray0 navy_blue",
  "dark_blue blue3 blue1 dark_green deep_sky_blue4 dodger_blue3 dodger_blue2 green4",
  "spring_green4 turquoise4 deep_sky_blue3 dodger_blue1 green3 spring_green3 dark_cyan",
  "light_sea_green deep_sky_blue2 deep_sky_blue1 spring_green2 cyan3 dark_turquoise turquoise2",
  "green1 spring_green1 medium_spring_green cyan2 cyan1 dark_red deep_pink4 purple4 purple3",
  "blue_violet orange4 grey37 gray37 medium_purple4 slate_blue3 royal_blue1 chartreuse4",
  "dark_sea_green4 pale_turquoise4 steel_blue steel_blue3 cornflower_blue chartreuse3",
  "cadet_blue sky_blue3 steel_blue1 pale_green3 sea_green3 aquamarine3 medium_turquoise",
  "chartreuse2 sea_green2 sea_green1 aquamarine1 dark_slate_gray2 dark_magenta dark_violet",
  "purple light_pink4 plum4 medium_purple3 slate_blue1 yellow4 wheat4 grey53 gray53",
  "light_slate_grey light_slate_gray medium_purple light_slate_blue dark_olive_green3",
  "dark_sea_green light_sky_blue3 sky_blue2 dark_sea_green3 dark_slate_gray3 sky_blue1",
  "chartreuse1 light_green pale_green1 dark_slate_gray1 red3 medium_violet_red magenta3",
  "dark_orange3 indian_red hot_pink3 medium_orchid3 medium_orchid medium_purple2 dark_goldenrod",
  "light_salmon3 rosy_brown grey63 gray63 medium_purple1 gold3 dark_khaki navajo_white3 grey69",
  "gray69 light_steel_blue3 light_steel_blue yellow3 dark_sea_green2 light_cyan3",
  "light_sky_blue1 green_yellow dark_olive_green2 dark_sea_green1 pale_turquoise1 deep_pink3",
  "magenta2 hot_pink2 orchid medium_orchid1 orange3 light_pink3 pink3 plum3 violet",
  "light_goldenrod3 tan misty_rose3 thistle3 plum2 khaki3 light_goldenrod2 light_yellow3 grey84",
  "gray84 light_steel_blue1 yellow2 dark_olive_green1 honeydew2 light_cyan1 red1 deep_pink2",
  "deep_pink1 magenta1 orange_red1 indian_red1 hot_pink dark_orange salmon1 light_coral",
  "pale_violet_red1 orchid2 orchid1 orange1 sandy_brown light_salmon1 light_pink1 pink1 plum1",
  "gold1 navajo_white1 misty_rose1 thistle1 yellow1 light_goldenrod1 khaki1 wheat1 cornsilk1",
  "grey100 gray100 grey3 gray3 grey7 gray7 grey11 gray11 grey15 gray15 grey19 gray19 grey23",
  "gray23 grey27 gray27 grey30 gray30 grey35 gray35 grey39 gray39 grey42 gray42 grey46 gray46",
  "grey50 gray50 grey54 gray54 grey58 gray58 grey62 gray62 grey66 gray66 grey70 gray70 grey74",
  "gray74 grey78 gray78 grey82 gray82 grey85 gray85 grey89 gray89 grey93 gray93"]

/-- The text between an opening that it begins with and the parenthesis that it ends in. -/
def inside? (opening : String) (s : List Char) : Option (List Char) :=
  match (s.drop opening.length).reverse with
  | ')' :: body => if opening.toList.isPrefixOf s then some body.reverse else none
  | _ => none

/-- Why a text is not read as a style. -/
inductive Problem where
  /-- It names no style. -/
  | unknown
  /-- A colour in it has parts that are no numbers. -/
  | unreadable
deriving DecidableEq, Repr

/-- Whether the text is six hexadecimal digits behind a number sign. -/
def isHexColour : List Char → Bool
  | '#' :: digits => digits.length == 6 && digits.all fun c => c.isDigit || ('a' ≤ c && c ≤ 'f')
  | _ => false

/-- Whether the text is the number of a colour. -/
def isColourNumber (n : List Char) : Bool :=
  !n.isEmpty && n.length ≤ 3 && n.all Char.isDigit && (Text.readInteger? n).any (· ≤ 255)

/-- Reads the three parts of a colour, with commas between them. -/
def readParts (s : List Char) : Except Problem Unit :=
  let parts := s.splitOn ','
  if s.isEmpty ∨ !(s.all fun c => c == ',' || (Text.digitValue? c).isSome) ∨ parts.length ≠ 3 then
    .error .unknown
  else match parts.mapM Text.readInteger? with
    | none => .error .unreadable
    | some numbers => if numbers.all (· ≤ 255) then .ok () else .error .unknown

/-- Reads a colour: by its name, by its number or by its parts. -/
def readColour (s : String) : Except Problem Unit :=
  if s = "default" ∨ colourLines.any (fun line => (line.splitOn " ").contains s) ∨
      isHexColour s.toList ∨ (inside? "color(" s.toList).any isColourNumber then .ok ()
  else match inside? "rgb(" s.toList with
    | some parts => readParts parts
    | none => .error .unknown

/-! ## Reading and settling -/

/-- A text in small letters. -/
def lowered (s : List Char) : String := String.ofList (s.map Text.smallLetter)

/-- A style with a trait switched on, or with a colour. -/
def withWord (style : Style) (word : String) : Except Problem Style :=
  match trait? word with
  | some trait => .ok { style with traits := (trait, true) :: style.traits }
  | none => (readColour word).map fun _ => { style with colour := some word }

/-- A style with what more words say. -/
def withWords (style : Style) : List (List Char) → Except Problem Style
  | [] => .ok style
  | [word] => style.withWord (lowered word)
  | first :: second :: rest =>
    match lowered first with
    | "on" => do
      readColour (lowered second)
      { style with background := some (lowered second) }.withWords rest
    | "not" =>
      match trait? (String.ofList second) with
      | some trait => { style with traits := (trait, false) :: style.traits }.withWords rest
      | none => .error .unknown
    | "link" => { style with link := some (String.ofList second) }.withWords rest
    | word => do
      let style ← style.withWord word
      style.withWords (second :: rest)

/-- The settled name of a style. -/
def name (style : Style) : String :=
  let traits := allTraits.filterMap fun trait =>
    (style.traits.lookup trait).map fun isOn => if isOn then trait else "not " ++ trait
  let background := style.background.toList.flatMap fun colour => ["on", colour]
  let link := style.link.toList.flatMap fun link => ["link", link]
  let words := traits ++ style.colour.toList ++ background ++ link
  if words.isEmpty then "none" else " ".intercalate words

/-- The words of a text. -/
def wordsOf (s : List Char) : List (List Char) :=
  (s.splitOnP Text.isBlank).filter (!·.isEmpty)

/-- Reads a style. -/
def read (s : List Char) : Except Problem Style :=
  let plain : Style := ⟨[], none, none, none⟩
  let words := wordsOf s
  if words = ["none".toList] then .ok plain else plain.withWords words

/-- Whether a text is a style, or at least names none. -/
def isReadable (s : List Char) : Bool :=
  match read s with
  | .ok _ | .error .unknown => true
  | .error .unreadable => false

/-- The settled form of the name of a style, if it has one. -/
def settledName? (s : List Char) : Option String :=
  match read s with
  | .ok style => some style.name
  | .error .unknown => some (lowered (Text.trim Text.isBlank s))
  | .error .unreadable => none

end Style

end LiteralMarkdown.Command
