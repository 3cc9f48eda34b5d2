import C4Model.Console.Paint
import C4Model.Logging.Level

/-! Records of the log, and how they are shown. What is logged never becomes part of a document. -/

namespace C4Model.Logging

structure Record where
  level : Level
  message : String

/-- The pattern of a line of the log. A log that keeps records below `info` also shows where they come
from. -/
def linePattern (threshold : Level) : String :=
  if info ≤ threshold then "[%(levelname)s] %(message)s"
  else "[%(levelname)s] [%(filename)s:%(lineno)d] [%(funcName)s] %(message)s"

/-- The color of a record by its level. -/
def paintOf (level : Level) : Console.Paint :=
  if critical ≤ level then .brightRed
  else if error ≤ level then .red
  else if warning ≤ level then .yellow
  else if info ≤ level then .green
  else if debug ≤ level then .gray
  else if trace ≤ level then .blue
  else .dimRed

/-- The record as a line without its end. -/
def Record.render (record : Record) : String :=
  (paintOf record.level).apply ("[" ++ levelLabel record.level ++ "] " ++ record.message)

/-- The lines of the records that are kept. -/
def renderLog (threshold : Level) (records : List Record) : String :=
  String.join ((records.filter (threshold ≤ ·.level)).map fun record => record.render ++ "\n")

/-- Results that may fail, with the records logged on the way to them. -/
abbrev Logged (ε : Type) := ExceptT ε (StateM (List Record))

def logAll {ε : Type} (records : List Record) : Logged ε Unit :=
  modify (· ++ records)

def log {ε : Type} (level : Level) (message : String) : Logged ε Unit :=
  logAll [⟨level, message⟩]

/-- The level that decides for a logger of its own level: if that is not set, the one of the root. -/
def effectiveLevel (own root : Level) : Level :=
  if own = notSet then root else own

/-- Fills a message from the left. A placeholder shows its value bare, as messages show values, or as
an integer; two percent signs stand for one. Values and placeholders must match in number. -/
def fillFrom : List Char → List Value → Option String
  | [], [] => some ""
  | [], _ :: _ => none
  | '%' :: '%' :: rest, values => (fillFrom rest values).map ("%" ++ ·)
  | '%' :: 's' :: rest, value :: values => (fillFrom rest values).map (value.plainText ++ ·)
  | '%' :: 'r' :: rest, value :: values => (fillFrom rest values).map (value.shown ++ ·)
  | '%' :: 'd' :: rest, .int n :: values => (fillFrom rest values).map (toString n ++ ·)
  | '%' :: 'd' :: rest, .bool b :: values =>
      (fillFrom rest values).map ((if b then "1" else "0") ++ ·)
  | '%' :: _, _ => none
  | c :: rest, values => (fillFrom rest values).map (String.singleton c ++ ·)

/-- The message with its values filled in. A message without values stays as it is. -/
def fill (message : String) (values : List Value) : Option String :=
  if values.isEmpty then some message else fillFrom message.toList values

/-- The record of a trace message, if a logger of the level keeps it. -/
def traceRecord (own root : Level) (message : String) (values : List Value) :
    Option (List Record) :=
  if effectiveLevel own root ≤ trace then (fill message values).map fun text => [⟨trace, text⟩]
  else some []

end C4Model.Logging
