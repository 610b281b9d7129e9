import ServoBus.Text

/-!
# Command line options

Words are read from left to right. A value that stands behind its option as a word of its own is
checked when the next option comes or the words run out, and the first thing that decides is what
happens: a request for help or the version, or a mistake. A word that begins with a dash is never
the value of an option, and after two dashes alone every word is an argument.
-/

namespace ServoBus.CommandLine

inductive Kind where
  | text
  | byte
  | milliseconds

inductive Value where
  | text (text : String)
  | number (n : Nat)

def Value.text? : Value → Option String
  | text t => some t
  | number _ => none

def Value.number? : Value → Option Nat
  | text _ => none
  | number n => some n

def Kind.parse? : Kind → String → Option Value
  | text, word => some (.text word)
  | byte, word =>
      match Text.integer? word with
      | some n => if 0 ≤ n ∧ n < 256 then some (.number n.toNat) else none
      | none => none
  | milliseconds, word =>
      match Text.natural? word with
      | some n => if n < 0x10000000000000000 then some (.number n) else none
      | none => none

structure OptionRule where
  name : String
  letter? : Option Char
  kind : Kind

/-- An argument; a repeated one takes all the words that follow. -/
structure ArgumentRule where
  kind : Kind
  isRequired : Bool := true
  isRepeated : Bool := false

structure Rules where
  options : List OptionRule := []
  arguments : List ArgumentRule := []
  commands : List String := []
  hasVersion : Bool := false

inductive Stop where
  | help
  | version
  | misused
  deriving DecidableEq

def Stop.exitCode : Stop → Nat
  | help | version => 0
  | misused => 2

/-- What was read last and is still to be checked. -/
inductive Pending where
  | nothing
  | option (rule : OptionRule) (word? : Option String)
  | argument (rule : ArgumentRule) (words : List String)

structure Parsed where
  options : List (String × Value) := []
  /-- The values of each argument, in the order of the rules. -/
  arguments : List (List Value) := []
  pending : Pending := .nothing

namespace Parsed

def resolve (parsed : Parsed) : Except Stop Parsed :=
  match parsed.pending with
  | .nothing => .ok parsed
  | .option _ none => .error .misused
  | .option rule (some word) =>
      match rule.kind.parse? word with
      | none => .error .misused
      | some value =>
          if parsed.options.any fun entry => entry.1 = rule.name then .error .misused
          else
            .ok { parsed with
              options := parsed.options ++ [(rule.name, value)]
              pending := .nothing }
  | .argument rule words =>
      match words.mapM rule.kind.parse? with
      | none => .error .misused
      | some values =>
          .ok { parsed with arguments := parsed.arguments ++ [values], pending := .nothing }

def awaitsValue (parsed : Parsed) : Bool :=
  match parsed.pending with
  | .option _ none => true
  | _ => false

def option? (parsed : Parsed) (name : String) : Option Value :=
  (parsed.options.find? fun entry => entry.1 = name).map Prod.snd

def numbers (parsed : Parsed) : List Nat := parsed.arguments.flatten.filterMap Value.number?

/-- Begins an option. A value that comes with it is checked at once; otherwise the next word is the
value. -/
def beginOption (parsed : Parsed) (rule : OptionRule) (word? : Option String) :
    Except Stop Parsed :=
  match parsed.resolve with
  | .error stop => .error stop
  | .ok parsed =>
      let parsed := { parsed with pending := .option rule word? }
      if word?.isSome then parsed.resolve else .ok parsed

/-- Stops, if nothing that is pending does. -/
def stop (parsed : Parsed) (reason : Stop) : Except Stop Parsed :=
  match parsed.resolve with
  | .error earlier => .error earlier
  | .ok _ => .error reason

end Parsed

namespace Rules

/-- Reads an option by its name, perhaps with its value behind an equals sign. -/
def readLong (rules : Rules) (parsed : Parsed) (text : List Char) : Except Stop Parsed :=
  let name := String.ofList (text.takeWhile (· ≠ '='))
  let word? := if text.contains '=' then some (String.ofList ((text.dropWhile (· ≠ '=')).drop 1))
    else none
  match rules.options.find? fun rule => rule.name = name with
  | some rule => parsed.beginOption rule word?
  | none =>
      if word?.isSome then .error .misused
      else if name = "help" then parsed.stop .help
      else if name = "version" ∧ rules.hasVersion then parsed.stop .version
      else .error .misused

/-- Reads an option by its letter, perhaps with its value right behind. -/
def readShort (rules : Rules) (parsed : Parsed) : List Char → Except Stop Parsed
  | [] => .ok parsed
  | letter :: rest =>
      match rules.options.find? fun rule => rule.letter? = some letter with
      | some rule =>
          let word? :=
            match rest with
            | [] => none
            | '=' :: word => some (String.ofList word)
            | word => some (String.ofList word)
          parsed.beginOption rule word?
      | none =>
          if letter = 'h' then parsed.stop .help
          else if letter = 'V' ∧ rules.hasVersion then parsed.stop .version
          else .error .misused

/-- Begins the next argument. -/
def beginArgument (rules : Rules) (parsed : Parsed) (word : String) : Except Stop Parsed :=
  match parsed.resolve with
  | .error stop => .error stop
  | .ok parsed =>
      match rules.arguments[parsed.arguments.length]? with
      | none => .error .misused
      | some rule => .ok { parsed with pending := .argument rule [word] }

/-- Reads an argument, or one more word of a repeated one. -/
def readArgument (rules : Rules) (parsed : Parsed) (word : String) : Except Stop Parsed :=
  match parsed.pending with
  | .argument rule words =>
      if rule.isRepeated then .ok { parsed with pending := .argument rule (words ++ [word]) }
      else rules.beginArgument parsed word
  | _ => rules.beginArgument parsed word

/-- Reads words up to a command or to the end; gives the command with the words behind it. -/
def read (rules : Rules) (parsed : Parsed) (onlyArguments : Bool) :
    List String → Except Stop (Parsed × Option (String × List String))
  | [] => .ok (parsed, none)
  | word :: rest =>
      let next (result : Except Stop Parsed) (onlyArguments : Bool) :=
        match result with
        | .error stop => .error stop
        | .ok parsed => read rules parsed onlyArguments rest
      if onlyArguments then next (rules.readArgument parsed word) true
      else if !parsed.awaitsValue && rules.commands.contains word then
        .ok (parsed, some (word, rest))
      else
        match word.toList with
        | ['-', '-'] => next (.ok parsed) true
        | '-' :: '-' :: text => next (rules.readLong parsed text) false
        | '-' :: letter :: text => next (rules.readShort parsed (letter :: text)) false
        | _ =>
            match parsed.pending with
            | .option rule none =>
                next (.ok { parsed with pending := .option rule (some word) }) false
            | _ => next (rules.readArgument parsed word) false

/-- Checks what is pending and that no argument is missing. -/
def finish (rules : Rules) (parsed : Parsed) : Except Stop Parsed :=
  match parsed.resolve with
  | .error stop => .error stop
  | .ok parsed =>
      if (rules.arguments.drop parsed.arguments.length).any ArgumentRule.isRequired then
        .error .misused
      else .ok parsed

/-- Reads the words of a command without commands of its own. -/
def readAll (rules : Rules) (words : List String) : Except Stop Parsed :=
  match rules.read {} false words with
  | .error stop => .error stop
  | .ok (parsed, _) => rules.finish parsed

end Rules

end ServoBus.CommandLine
