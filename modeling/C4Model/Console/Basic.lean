import C4Model.Console.Style
import C4Model.Logging.Level

/-! The console: what is told to the user. A console without colors shows no codes, not even those that
stand in the text it is given; one that is to be quiet drops warnings. -/

namespace C4Model

structure Console where
  colored : Bool := true
  verbosity : Logging.Level := Logging.warning

namespace Console

def lineEnd (ended : Bool) : String :=
  if ended then "\n" else ""

/-- What is written for a text on the standard output. -/
def print (console : Console) (text : String) (ended : Bool) : String :=
  shown console.colored text ++ lineEnd ended

/-- What is written for a warning on the error output. -/
def warn (console : Console) (text : String) (ended : Bool) : String :=
  if Logging.warning < console.verbosity then ""
  else shown console.colored (TextStyle.apply { foreground := some .yellow } text) ++ lineEnd ended

/-- What is written for an error on the error output. -/
def error (console : Console) (text : String) (ended : Bool) : String :=
  shown console.colored (TextStyle.apply { foreground := some .brightRed } text) ++ lineEnd ended

/-- A text with a style, if the console has colors. -/
def styled (console : Console) (style : TextStyle) (text : String) : String :=
  if console.colored then style.apply text else text

/-- What is written on the error output when a command fails. -/
def showError (console : Console) (message : String) : String :=
  console.error (console.styled { foreground := some .brightRed } ("Error: " ++ message)) true

end Console

end C4Model
