import C4Model.Document.Lookup
import C4Model.Text.LowerCase

/-! Levels of the log. A level is a number; some have names, and a few a second one. -/

namespace C4Model.Logging

abbrev Level := Int

def notSet : Level := 0
def trace : Level := 5
def debug : Level := 10
def info : Level := 20
def warning : Level := 30
def error : Level := 40
def critical : Level := 50

/-- The levels with the names that records show. -/
def levelNames : List (String × Level) :=
  [("TRACE", trace), ("DEBUG", debug), ("INFO", info), ("WARNING", warning), ("ERROR", error),
    ("CRITICAL", critical), ("NOTSET", notSet)]

/-- Names that a setting may give to a level besides. -/
def otherNames : List (String × Level) :=
  [("WARN", warning), ("FATAL", critical)]

/-- The level as records show it. -/
def levelLabel (level : Level) : String :=
  match levelNames.find? (·.2 = level) with
  | some (name, _) => name
  | none => "Level " ++ toString level

/-- The level that a setting asks for, by number or by name in any case. An unknown name asks for
none, and so does an empty setting. -/
def levelOfText (text : String) : Except NumeralError (Option Level) :=
  let word := Text.strip text
  if isDigitText word then (readNumeral word).map some
  else
    let name := String.ofList (word.toList.map Text.upperToAscii)
    .ok ((levelNames ++ otherNames).lookup name)

/-- The level from which records are kept: one that is given, else that of the setting, and only
critical ones if neither names a level other than `notSet`. -/
def threshold (given : Option Level) (setting : Option String) : Except NumeralError Level :=
  match given with
  | some level => .ok level
  | none => do
      match setting with
      | none => return critical
      | some text =>
          match ← levelOfText text with
          | some level => return if level = notSet then critical else level
          | none => return critical

end C4Model.Logging
