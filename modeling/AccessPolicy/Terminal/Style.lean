import AccessPolicy.Text.Blank
import AccessPolicy.Text.Case
import AccessPolicy.Text.Quoted
import AccessPolicy.Text.Split

/-!
# Styles by name

A style is named in words: attributes such as `bold`, which `not` switches off, a colour, and
a colour of the ground after `on`.  Several names can mean one style; `Style.canonical` gives
one name for all of them.  A name that means no style is its own in lower case.
-/

namespace AccessPolicy

/-- A style: attributes that are switched on or off, two colours and an address. -/
structure Style where
  attributes : List (String × Bool) := []
  colour : Option String := none
  ground : Option String := none
  address : Option String := none
deriving DecidableEq, Repr

namespace Style

section Words

/-- The names of attributes, in the order in which styles list them. -/
def attributeNames : List String :=
  ["bold", "dim", "italic", "underline", "blink", "blink2", "reverse", "conceal", "strike",
    "underline2", "frame", "encircle", "overline"]

def shortNames : List (String × String) :=
  [("d", "dim"), ("b", "bold"), ("i", "italic"), ("u", "underline"), ("r", "reverse"),
    ("c", "conceal"), ("s", "strike"), ("uu", "underline2"), ("o", "overline")]

/-- The attribute that a word names. -/
def attribute? (word : String) : Option String :=
  if attributeNames.contains word then some word else shortNames.lookup word

def colourNames : List String := [
  "aquamarine1 aquamarine3 black blue blue1 blue3 blue_violet bright_black bright_blue",
  "bright_cyan bright_green bright_magenta bright_red bright_white bright_yellow cadet_blue",
  "chartreuse1 chartreuse2 chartreuse3 chartreuse4 cornflower_blue cornsilk1 cyan cyan1 cyan2",
  "cyan3 dark_blue dark_cyan dark_goldenrod dark_green dark_khaki dark_magenta dark_olive_green1",
  "dark_olive_green2 dark_olive_green3 dark_orange dark_orange3 dark_red dark_sea_green",
  "dark_sea_green1 dark_sea_green2 dark_sea_green3 dark_sea_green4 dark_slate_gray1",
  "dark_slate_gray2 dark_slate_gray3 dark_turquoise dark_violet deep_pink1 deep_pink2 deep_pink3",
  "deep_pink4 deep_sky_blue1 deep_sky_blue2 deep_sky_blue3 deep_sky_blue4 dodger_blue1",
  "dodger_blue2 dodger_blue3 gold1 gold3 gray0 gray100 gray11 gray15 gray19 gray23 gray27 gray3",
  "gray30 gray35 gray37 gray39 gray42 gray46 gray50 gray53 gray54 gray58 gray62 gray63 gray66",
  "gray69 gray7 gray70 gray74 gray78 gray82 gray84 gray85 gray89 gray93 green green1 green3",
  "green4 green_yellow grey0 grey100 grey11 grey15 grey19 grey23 grey27 grey3 grey30 grey35",
  "grey37 grey39 grey42 grey46 grey50 grey53 grey54 grey58 grey62 grey63 grey66 grey69 grey7",
  "grey70 grey74 grey78 grey82 grey84 grey85 grey89 grey93 honeydew2 hot_pink hot_pink2",
  "hot_pink3 indian_red indian_red1 khaki1 khaki3 light_coral light_cyan1 light_cyan3",
  "light_goldenrod1 light_goldenrod2 light_goldenrod3 light_green light_pink1 light_pink3",
  "light_pink4 light_salmon1 light_salmon3 light_sea_green light_sky_blue1 light_sky_blue3",
  "light_slate_blue light_slate_gray light_slate_grey light_steel_blue light_steel_blue1",
  "light_steel_blue3 light_yellow3 magenta magenta1 magenta2 magenta3 medium_orchid",
  "medium_orchid1 medium_orchid3 medium_purple medium_purple1 medium_purple2 medium_purple3",
  "medium_purple4 medium_spring_green medium_turquoise medium_violet_red misty_rose1 misty_rose3",
  "navajo_white1 navajo_white3 navy_blue orange1 orange3 orange4 orange_red1 orchid orchid1",
  "orchid2 pale_green1 pale_green3 pale_turquoise1 pale_turquoise4 pale_violet_red1 pink1 pink3",
  "plum1 plum2 plum3 plum4 purple purple3 purple4 red red1 red3 rosy_brown royal_blue1 salmon1",
  "sandy_brown sea_green1 sea_green2 sea_green3 sky_blue1 sky_blue2 sky_blue3 slate_blue1",
  "slate_blue3 spring_green1 spring_green2 spring_green3 spring_green4 steel_blue steel_blue1",
  "steel_blue3 tan thistle1 thistle3 turquoise2 turquoise4 violet wheat1 wheat4 white yellow",
  "yellow1 yellow2 yellow3 yellow4"]

/-- The text between a beginning and an end. -/
def between? (left right word : String) : Option (List Char) :=
  let (l, r, w) := (left.toList, right.toList, word.toList)
  if l.isPrefixOf w && r.isSuffixOf w && l.length + r.length ≤ w.length then
    some ((w.drop l.length).take (w.length - l.length - r.length))
  else none

/-- Whether digits stand for a number up to 255. -/
def isLevel (digits : List Char) : Bool :=
  !digits.isEmpty && digits.all Char.isDigit &&
    digits.foldl (fun n d => 10 * n + (d.toNat - 48)) 0 ≤ 255

/-- Whether a word in lower case names a colour. -/
def isColour (word : String) : Bool :=
  word == "default" || colourNames.any (fun line => (Text.split ' ' line).contains word) ||
    (match between? "#" "" word with
      | some digits => digits.length == 6 && digits.all fun c => (Text.hexValue? c).isSome
      | none => false) ||
    (match between? "color(" ")" word with
      | some digits => digits.length ≤ 3 && isLevel digits
      | none => false) ||
    (match between? "rgb(" ")" word with
      | some levels =>
          let parts := Text.splitChars ',' levels
          parts.length == 3 && parts.all isLevel
      | none => false)

/-- A style with an attribute switched on or off. -/
def switch (s : Style) (name : String) (on : Bool) : Style :=
  { s with attributes := (name, on) :: s.attributes }

/-- Reads the words of a style after some that are read. -/
def readWords (s : Style) : List String → Option Style
  | [] => some s
  | [word] => readWord s (Text.lower word)
  | word :: next :: rest =>
      if Text.lower word = "on" then
        if isColour (Text.lower next) then readWords { s with ground := some next } rest else none
      else if Text.lower word = "not" then
        match attribute? next with
        | some a => readWords (s.switch a false) rest
        | none => none
      else if Text.lower word = "link" then readWords { s with address := some next } rest
      else
        match readWord s (Text.lower word) with
        | some t => readWords t (next :: rest)
        | none => none
where
  /-- Reads a word that stands alone. -/
  readWord (s : Style) (word : String) : Option Style :=
    match attribute? word with
    | some a => some (s.switch a true)
    | none => if isColour word then some { s with colour := some word } else none

end Words

section Names

/-- The words that name an attribute of a style. -/
def attributeWords (s : Style) (name : String) : List String :=
  match s.attributes.lookup name with
  | some true => [name]
  | some false => ["not " ++ name]
  | none => []

def name (s : Style) : String :=
  let words :=
    attributeNames.flatMap s.attributeWords ++ s.colour.toList ++
      (s.ground.map fun c => "on " ++ Text.lower c).toList ++
      (s.address.map fun a => "link " ++ a).toList
  if words.isEmpty then "none" else Text.join " " words

def wordsOf (cs : List Char) : List String :=
  ((Text.splitWhere Text.isBlank cs).filter (!·.isEmpty)).map String.ofList

/-- A text without the blanks around it. -/
def trim (cs : List Char) : List Char :=
  Text.trimEnd (cs.dropWhile Text.isBlank)

/-- The one name of what a name means. -/
def canonical (given : List Char) : String :=
  let own := Text.lower (String.ofList (trim given))
  if String.ofList (trim given) = "none" then own
  else
    match readWords {} (wordsOf given) with
    | some style => style.name
    | none => own

end Names

end Style
end AccessPolicy
