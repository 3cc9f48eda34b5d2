import C4Model.Text.Labelled
import C4Model.Text.Lines
import C4Model.Text.Quoted
import C4Model.Text.Similarity

/-! Options and arguments on the command line. An option is named by a word after two hyphens or by a
letter after one; letters can share a hyphen. What follows two lone hyphens is no option. -/

namespace C4Model.CommandLine

inductive OptionKey where
  | help
  | verbose
  | quiet
  | color
  | noColor
  | format
  | shared
  | output
  | config
  | noConfig
  | identifierScope
  | indentWidth
  deriving DecidableEq

structure OptionSpec where
  key : OptionKey
  letter : Option Char := none
  word : String
  /-- What messages call the value, for an option that takes one. -/
  value : Option String := none
  about : String

namespace OptionSpec

def wordName (spec : OptionSpec) : String :=
  "--" ++ spec.word

def letterName (letter : Char) : String :=
  "-" ++ String.singleton letter

/-- All names of an option. -/
def names (spec : OptionSpec) : List String :=
  spec.letter.toList.map letterName ++ [spec.wordName]

end OptionSpec

/-- The option that all commands have. -/
def optionHelp : OptionSpec where
  key := .help
  letter := some 'h'
  word := "help"
  about := "Show this message and exit."

/-- The names of an option. -/
def namesOf (specs : List OptionSpec) (key : OptionKey) : List String :=
  (specs.filter (·.key = key)).flatMap OptionSpec.names

/-- Why the value of an option or an argument is refused. -/
inductive ValueFault where
  | notAmong (value : String) (choices : List String)
  | unknownMember (value choices : String)
  | notAnInteger (value : String)
  | outOfRange (value least greatest : Int)
  | noSuchFile (path : String)
  | isDirectory (path : String)

def ValueFault.message : ValueFault → String
  | .notAmong value choices =>
      Text.quoted value ++ " is not one of " ++ String.intercalate ", " (choices.map Text.quoted)
        ++ "."
  | .unknownMember value choices =>
      "Invalid value '" ++ value ++ "'. Must be one of: " ++ choices
  | .notAnInteger value => Text.quoted value ++ " is not a valid integer range."
  | .outOfRange value least greatest =>
      toString value ++ " is not in the range " ++ toString least ++ "<=x<=" ++ toString greatest
        ++ "."
  | .noSuchFile path => "File " ++ Text.quoted path ++ " does not exist."
  | .isDirectory path => "File " ++ Text.quoted path ++ " is a directory."

/-- Why a command line cannot be understood. -/
inductive UsageError where
  | unknownOption (name : String) (similar : List String)
  | unknownCommand (name : String) (similar : List String)
  | valueMissing (name : String)
  | valueUnexpected (name : String)
  | argumentMissing (name : String)
  | extraArguments (arguments : List String)
  | badValue (names : List String) (fault : ValueFault)

/-- What follows the message on an unknown name. -/
def suggestion (similar : List String) : String :=
  let list := String.intercalate ", " (similar.map Text.quoted)
  match similar with
  | [] => ""
  | [_] => " Did you mean " ++ list ++ "?"
  | _ => " (Did you mean one of: " ++ list ++ "?)"

def UsageError.message : UsageError → String
  | .unknownOption name similar => "No such option " ++ Text.quoted name ++ "." ++ suggestion similar
  | .unknownCommand name similar =>
      "No such command " ++ Text.quoted name ++ "." ++ suggestion similar
  | .valueMissing name => "Option " ++ Text.quoted name ++ " requires an argument."
  | .valueUnexpected name => "Option " ++ Text.quoted name ++ " does not take a value."
  | .argumentMissing name => "Missing argument '" ++ name ++ "'."
  | .extraArguments arguments =>
      "Got unexpected extra argument" ++ (if arguments.length = 1 then "" else "s") ++ " ("
        ++ String.intercalate " " arguments ++ ")"
  | .badValue names fault =>
      let shown := String.intercalate " / " (names.map fun name => "'" ++ name ++ "'")
      "Invalid value" ++ (if names.isEmpty then "" else " for " ++ shown) ++ ": " ++ fault.message

/-- An option as it stands on the command line. -/
structure Occurrence where
  key : OptionKey
  value : Option String := none
  deriving DecidableEq

/-- A command line by its options and its other words, both in order. -/
structure Scanned where
  options : List Occurrence := []
  words : List String := []
  deriving DecidableEq

/-- The options in one word of the command line, of which the last may wait for its value. -/
structure OptionGroup where
  complete : List Occurrence := []
  waiting : Option (OptionKey × String) := none

/-- Letters that share a hyphen. The rest of the word is the value of a letter that takes one. -/
def scanLetters (specs : List OptionSpec) : List Char → Except UsageError OptionGroup
  | [] => .ok {}
  | letter :: rest =>
      match specs.find? (·.letter = some letter) with
      | none => .error (.unknownOption (OptionSpec.letterName letter) [])
      | some spec =>
          if spec.value.isNone then do
            let group ← scanLetters specs rest
            return { group with complete := ⟨spec.key, none⟩ :: group.complete }
          else if rest.isEmpty then
            .ok { waiting := some (spec.key, OptionSpec.letterName letter) }
          else .ok { complete := [⟨spec.key, some (String.ofList rest)⟩] }

/-- The name and the value of a word with an equals sign in it. -/
def splitValue (word : String) : String × Option String :=
  match Text.splitOnChar '=' word with
  | name :: piece :: pieces => (name, some (String.intercalate "=" (piece :: pieces)))
  | _ => (word, none)

/-- The options in a word that begins with a hyphen. -/
def scanWord (specs : List OptionSpec) (word : String) : Except UsageError OptionGroup :=
  let (name, value) := splitValue word
  match specs.find? (·.wordName = name) with
  | some spec =>
      match spec.value, value with
      | some _, some value => .ok { complete := [⟨spec.key, some value⟩] }
      | some _, none => .ok { waiting := some (spec.key, name) }
      | none, some _ => .error (.valueUnexpected name)
      | none, none => .ok { complete := [⟨spec.key, none⟩] }
  | none =>
      match word.toList with
      | _ :: '-' :: _ =>
          .error (.unknownOption name (Text.similarTo name (specs.map OptionSpec.wordName)))
      | _ :: letters => scanLetters specs letters
      | [] => .ok {}

/-- Whether a word holds options: it begins with a hyphen and is no lone one. -/
def isOptionWord (word : String) : Bool :=
  match word.toList with
  | '-' :: _ :: _ => true
  | _ => false

def Scanned.withOptions (scanned : Scanned) (options : List Occurrence) : Scanned :=
  { scanned with options := options ++ scanned.options }

/-- Tells options from other words. If options may not stand among the other words, the first of those
ends them. -/
def scan (specs : List OptionSpec) (mixed : Bool) : List String → Except UsageError Scanned
  | [] => .ok {}
  | word :: rest =>
      if word = "--" then .ok { words := rest }
      else if isOptionWord word then do
        let group ← scanWord specs word
        match group.waiting, rest with
        | none, rest =>
            let scanned ← scan specs mixed rest
            return scanned.withOptions group.complete
        | some (_, name), [] => throw (.valueMissing name)
        | some (key, _), value :: rest =>
            let scanned ← scan specs mixed rest
            return scanned.withOptions (group.complete ++ [⟨key, some value⟩])
      else if mixed then do
        let scanned ← scan specs mixed rest
        return { scanned with words := word :: scanned.words }
      else .ok { words := word :: rest }

namespace Scanned

/-- Whether an option is present. -/
def has (scanned : Scanned) (key : OptionKey) : Bool :=
  scanned.options.any (·.key = key)

def count (scanned : Scanned) (key : OptionKey) : Nat :=
  scanned.options.countP (·.key = key)

/-- All values of an option. -/
def values (scanned : Scanned) (key : OptionKey) : List String :=
  scanned.options.filterMap fun option => if option.key = key then option.value else none

/-- The last value of an option, which is the one that counts. -/
def value? (scanned : Scanned) (key : OptionKey) : Option String :=
  (scanned.values key).getLast?

/-- The options present, each once, in the order in which they first appear. -/
def keys (scanned : Scanned) : List OptionKey :=
  (scanned.options.map (·.key)).eraseDups

end Scanned

/-- Refuses words where no argument is wanted. -/
def checkNoWords (scanned : Scanned) : Except UsageError Unit :=
  if scanned.words.isEmpty then .ok () else .error (.extraArguments scanned.words)

/-- The member that a value chooses by its label, in any case. -/
def memberOf {α : Type} [Labelled α] (value : String) : Except ValueFault α :=
  match Labelled.ofLabel? value with
  | some member => .ok member
  | none => .error (.unknownMember value (Labelled.choices α))

/-- The members of a choice as help shows them. -/
def choiceHint (α : Type) [Labelled α] : String :=
  "[" ++ String.intercalate "|" ((Labelled.all (α := α)).map Labelled.label) ++ "]"

end C4Model.CommandLine
