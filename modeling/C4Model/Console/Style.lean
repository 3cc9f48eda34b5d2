import C4Model.Console.Paint
import C4Model.Text.Labelled

/-! Styles of what is told to the user, and texts without any. -/

namespace C4Model.Console

/-- The colors of letters. -/
inductive Foreground where
  | yellow
  | cyan
  | brightRed
  deriving DecidableEq

instance : Labelled Foreground where
  all := [.yellow, .cyan, .brightRed]
  label
    | .yellow => "yellow"
    | .cyan => "cyan"
    | .brightRed => "bright_red"

def Foreground.code : Foreground → Nat
  | .yellow => 33
  | .cyan => 36
  | .brightRed => 91

structure TextStyle where
  foreground : Option Foreground := none
  bold : Bool := false
  dim : Bool := false
  underline : Bool := false

def TextStyle.codes (style : TextStyle) : List Nat :=
  (style.foreground.map Foreground.code).toList ++ (if style.bold then [1] else [])
    ++ (if style.dim then [2] else []) ++ (if style.underline then [4] else [])

/-- The text between the codes of a style and the code that ends all styles. -/
def TextStyle.apply (style : TextStyle) (text : String) : String :=
  String.join (style.codes.map rendition) ++ text ++ rendition 0

/-- What may stand between the beginning of a control sequence and the letter that ends it. -/
def isParameter (c : Char) : Bool :=
  c == ';' || c == '?' || c.isDigit

/-- The text without control sequences. -/
def stripCodes : List Char → List Char
  | '\x1b' :: '[' :: rest =>
      match rest.dropWhile isParameter, (List.dropWhile_sublist (l := rest) isParameter).length_le with
      | c :: after, _ =>
          if c.isAlpha then stripCodes after else '\x1b' :: stripCodes ('[' :: rest)
      | [], _ => '\x1b' :: stripCodes ('[' :: rest)
  | c :: rest => c :: stripCodes rest
  | [] => []
termination_by text => text.length
decreasing_by all_goals simp_all only [List.length_cons]; omega

/-- The text as a stream gets it. -/
def shown (colored : Bool) (text : String) : String :=
  if colored then text else String.ofList (stripCodes text.toList)

end C4Model.Console
