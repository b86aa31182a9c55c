/-!
# Arguments

How the words after a program's name are taken apart: options with a value, such as
`--config FILE`, and plain words. After two dashes everything is a plain word.
-/

namespace IssueTracker.CommandLine

/-- An option with a value. -/
structure Setting where
  long : String
  short : Option Char
  mayBeEmpty : Bool

/-- What may stand after the name of a command. A menu takes the name of another command, and
all else takes plain words, each of which has to pass a check. -/
inductive Expected where
  | menu
  | words (checks : List (String → Bool))

/-- The arguments that a command takes. -/
structure Grammar where
  settings : List Setting
  expected : Expected

/-- The arguments that a command has been given. -/
structure Given where
  /-- Values under the long names of their options. -/
  settings : List (String × String)
  words : List String

/-- What arguments come to. -/
inductive Reading where
  | refused
  | help
  | version
  | complete (given : Given)
  /-- The name of a command and what stands after it. -/
  | command (given : Given) (name : String) (rest : List String)

namespace Given

/-- Nothing yet. -/
def none : Given := ⟨[], []⟩

/-- The value of an option. -/
def setting? (g : Given) (name : String) : Option String := g.settings.lookup name

/-- One more option, which must not be there yet. -/
def addSetting (g : Given) (s : Setting) (value : String) : Option Given :=
  if (g.setting? s.long).isSome ∨ (value = "" ∧ !s.mayBeEmpty) then .none
  else some { g with settings := g.settings ++ [(s.long, value)] }

end Given

namespace Grammar

/-- One more word, where one is expected. -/
def addWord (g : Grammar) (given : Given) (word : String) : Option Given :=
  match g.expected with
  | .menu => none
  | .words checks =>
    if (checks[given.words.length]?).any fun check => check word then
      some { given with words := given.words ++ [word] }
    else none

/-- The end of the arguments, where all words have to be there. -/
def finish (g : Grammar) (given : Given) : Reading :=
  match g.expected with
  | .menu => .refused
  | .words checks => if given.words.length = checks.length then .complete given else .refused

end Grammar

/-- What one argument is. -/
inductive Argument where
  | word
  /-- Two dashes alone. -/
  | separator
  | help
  | version
  /-- An option, and its value if that is part of the argument. -/
  | setting (s : Setting) (value : Option String)
  | unknown

/-- Whether an argument starts with a dash that is not all of it. -/
def isOption (arg : String) : Bool :=
  match arg.toList with
  | '-' :: _ :: _ => true
  | _ => false

namespace Grammar

/-- What an argument after two dashes is. -/
def longArgument (g : Grammar) (cs : List Char) : Argument :=
  let name := String.ofList (cs.takeWhile (· ≠ '='))
  let value := match cs.dropWhile (· ≠ '=') with
    | _ :: value => some (String.ofList value)
    | [] => none
  match g.settings.find? (·.long = name) with
  | some s => .setting s value
  | none =>
    if value.isSome then .unknown
    else if name = "help" then .help
    else if name = "version" then .version
    else .unknown

/-- What an argument after one dash is: a letter, perhaps with a value behind it. -/
def shortArgument (g : Grammar) (letter : Char) (rest : List Char) : Argument :=
  match g.settings.find? (·.short = some letter) with
  | some s =>
    match rest with
    | [] => .setting s none
    | '=' :: value => .setting s (some (String.ofList value))
    | value => .setting s (some (String.ofList value))
  | none => if letter = 'h' then .help else if letter = 'V' then .version else .unknown

/-- What an argument is. -/
def classify (g : Grammar) (arg : String) : Argument :=
  match arg.toList with
  | ['-', '-'] => .separator
  | '-' :: '-' :: cs => g.longArgument cs
  | '-' :: letter :: rest => g.shortArgument letter rest
  | _ => .word

/-- Arguments from left to right; what cannot be right is refused where it stands. -/
def read (g : Grammar) (given : Given) : List String → Reading
  | [] => g.finish given
  | arg :: rest =>
    match g.classify arg with
    | .help => .help
    | .version => .version
    | .unknown => .refused
    | .separator =>
      match rest.foldlM g.addWord given with
      | some given => g.finish given
      | none => .refused
    | .word =>
      match g.expected, g.addWord given arg with
      | .menu, _ => .command given arg rest
      | .words _, some given => read g given rest
      | .words _, none => .refused
    | .setting s (some value) =>
      match given.addSetting s value with
      | some given => read g given rest
      | none => .refused
    | .setting s none =>
      match rest with
      | [] => .refused
      | value :: rest =>
        if isOption value then .refused
        else
          match given.addSetting s value with
          | some given => read g given rest
          | none => .refused

end Grammar

end IssueTracker.CommandLine
