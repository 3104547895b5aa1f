/-
  MarkerScan.CommandLine.Grammar — reading words by rules for options.

  A rule names an option, by a long name and perhaps a letter, and says what it does. A
  value stands behind `=`, right behind the letter, or in the next word; letters without
  a value may stand together. A word that begins with a hyphen is never the value of the
  option before it, and a word that is no option is a command if it names one. After
  `--` there are no options and no commands any more.

  A value in the next word is taken in only when the next option is reached, or at the
  end. So of two faults, a word that fits nowhere is reported before a value that does
  not fit its option.
-/

namespace MarkerScan.CommandLine

/-- Why an option does not take a value. -/
inductive ValueFault where
  /-- The value is empty, and nothing is no value for this option. -/
  | missing
  | invalid (reason : String)
  deriving DecidableEq, Repr

/-- What an option does to what has been given. -/
inductive Action (α : Type) where
  | flag (set : α → α)
  /-- Takes a value that is called `name`, several times if `many`. -/
  | value (name : String) (many : Bool) (put : List Char → α → Except ValueFault α)
  | help
  | version

structure Rule (α : Type) where
  long : String
  letter : Option Char := none
  action : Action α

/-- The option as messages show it. -/
def Rule.shown {α : Type} (r : Rule α) : String :=
  match r.action with
  | .value name _ _ => "--" ++ r.long ++ " <" ++ name ++ ">"
  | _ => "--" ++ r.long

inductive UsageError where
  | unexpectedArgument (word : String)
  | unknownCommand (word : String)
  | noCommand
  | valueRequired (option : String)
  | invalidValue (value option reason : String)
  | repeated (option : String)
  | unexpectedValue (value option : String)
  deriving DecidableEq, Repr

/-- Why reading ends before a command is known. -/
inductive Stop where
  | usage (e : UsageError)
  | help
  | version
  /-- Nothing at all was given, so there is only the description. -/
  | nothingGiven
  deriving DecidableEq, Repr

/-- What has been read at one level. -/
structure Progress (α : Type) where
  given : α
  /-- The long names of the options so far. -/
  seen : List String := []
  /-- An option whose value is not taken in yet, with the value if it has been read. -/
  pending : Option (Rule α × Option (List Char)) := none

namespace Progress

variable {α : Type}

def fail (e : UsageError) : Except Stop (Progress α) := .error (.usage e)

/-- Whether the next word may be the value of an option. -/
def awaits (p : Progress α) : Bool := p.pending matches some (_, none)

/-- One more time that an option is given. -/
def note (p : Progress α) (r : Rule α) (many : Bool) : Except Stop (Progress α) :=
  if p.seen.contains r.long && !many then fail (.repeated r.shown) else .ok { p with seen := r.long :: p.seen }

/-- Takes a value in. -/
def accept (p : Progress α) (r : Rule α) (value : List Char) : Except Stop (Progress α) :=
  match r.action with
  | .value _ many put => do
    let p ← p.note r many
    match put value p.given with
    | .ok given => return { p with given := given }
    | .error .missing => fail (.valueRequired r.shown)
    | .error (.invalid reason) => fail (.invalidValue (String.ofList value) r.shown reason)
  | _ => .ok p

/-- Takes in the value that was left for later. -/
def settle (p : Progress α) : Except Stop (Progress α) :=
  match p.pending with
  | none => .ok p
  | some (r, none) => fail (.valueRequired r.shown)
  | some (r, some value) => { p with pending := none }.accept r value

/-- An option without a value, or the beginning of one whose value comes in the next word. -/
def mention (p : Progress α) (r : Rule α) : Except Stop (Progress α) := do
  let p ← p.settle
  match r.action with
  | .flag set => do
    let p ← p.note r false
    return { p with given := set p.given }
  | .value _ _ _ => return { p with pending := some (r, none) }
  | .help => .error .help
  | .version => .error .version

/-- An option with its value attached. -/
def attach (p : Progress α) (r : Rule α) (value : List Char) : Except Stop (Progress α) :=
  match r.action with
  | .value _ _ _ => do (← p.settle).accept r value
  | _ => fail (.unexpectedValue (String.ofList value) r.shown)

/-- A word after two hyphens. -/
def long (rules : List (Rule α)) (p : Progress α) (word : List Char) : Except Stop (Progress α) :=
  let name := String.ofList (word.takeWhile (· != '='))
  match rules.find? (·.long == name), word.dropWhile (· != '=') with
  | none, _ => fail (.unexpectedArgument ("--" ++ name))
  | some r, _ :: value => p.attach r value
  | some r, [] => p.mention r

/-- Letters after one hyphen. -/
def letters (rules : List (Rule α)) (p : Progress α) : List Char → Except Stop (Progress α)
  | [] => .ok p
  | c :: rest =>
    match rules.find? (·.letter == some c) with
    | none => fail (.unexpectedArgument (String.ofList ['-', c]))
    | some r =>
      match r.action, rest with
      | .value _ _ _, '=' :: value => p.attach r value
      | .value _ _ _, c :: value => p.attach r (c :: value)
      | _, rest => do letters rules (← p.mention r) rest

end Progress

/-- What is at the end of a level: nothing more, or a command and the words after it. -/
inductive Ending where
  | words
  | command (name : List Char) (rest : List (List Char))
  deriving DecidableEq, Repr

/-- A word that is no option and no value. -/
def misplaced (commands : List (List Char)) (optionsOver : Bool) (word : List Char) : UsageError :=
  if commands.isEmpty || (optionsOver && commands.contains word) then .unexpectedArgument (String.ofList word)
  else .unknownCommand (String.ofList word)

/-- Reads the words of one level, up to a command. -/
def readWords {α : Type} (rules : List (Rule α)) (commands : List (List Char)) :
    List (List Char) → Progress α → Except Stop (Progress α × Ending)
  | [], p => .ok (p, .words)
  | word :: rest, p =>
    if !p.awaits && commands.contains word then .ok (p, .command word rest)
    else
      match word with
      | ['-', '-'] => match rest with
        | [] => .ok (p, .words)
        | next :: _ => .error (.usage (misplaced commands true next))
      | '-' :: '-' :: word => do readWords rules commands rest (← p.long rules word)
      | '-' :: c :: word => do readWords rules commands rest (← p.letters rules (c :: word))
      | word =>
        match p.pending with
        | some (r, none) => readWords rules commands rest { p with pending := some (r, some word) }
        | _ => .error (.usage (misplaced commands false word))

end MarkerScan.CommandLine
