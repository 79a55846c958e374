/-!
Reading the arguments of a command. Options start with two dashes or, as single letters that may be
bundled, with one; a value stands after an equals sign or in the next argument, unless that looks
like an option. Two dashes alone end the options. A value is looked at only when something else
begins, so that an argument which is not known is found before it.
-/

namespace ContainerWatch

inductive ArgumentFault
  | displayHelp
  | displayVersion
  | nothingGiven
  | missingSubcommand
  | invalidSubcommand
  | unknownArgument
  | valueRefused
  | valueMissing
  | tooManyValues
  | argumentConflict
  | missingArgument
deriving DecidableEq, Repr

def ArgumentFault.message : ArgumentFault → String
  | displayHelp => "help was asked for"
  | displayVersion => "the version was asked for"
  | nothingGiven => "no arguments were given"
  | missingSubcommand => "a command is missing"
  | invalidSubcommand => "there is no such command"
  | unknownArgument => "an argument is not known"
  | valueRefused => "a value is not of the right form"
  | valueMissing => "a value is missing"
  | tooManyValues => "a value stands where none is taken"
  | argumentConflict => "two arguments exclude each other"
  | missingArgument => "an argument is missing"

def ArgumentFault.isRequest : ArgumentFault → Bool
  | displayHelp | displayVersion => true
  | _ => false

inductive OptionEffect (α : Type)
  /-- Takes a value, only once unless it is `repeatable`. -/
  | value (repeatable : Bool) (take : String → α → Except ArgumentFault α)
  | flag (raise : α → α)
  | informs (fault : ArgumentFault)

structure OptionSpec (α : Type) where
  name : String
  letter : Option Char := none
  effect : OptionEffect α

structure CommandSpec (α : Type) where
  options : List (OptionSpec α)
  operands : Option (OptionSpec α) := none
  subcommands : List String := []

structure ArgumentReader (α : Type) where
  result : α
  seen : List String := []
  /-- An option or the operands, with values that have not been looked at. -/
  pending : Option (OptionSpec α × List String) := none
  awaiting : Bool := false

structure SubcommandCall where
  name : String
  arguments : List String
deriving DecidableEq, Repr

namespace ArgumentReader

variable {α : Type}

def apply (r : ArgumentReader α) (o : OptionSpec α) (values : List String) :
    Except ArgumentFault (ArgumentReader α) :=
  let seen := r.seen ++ [o.name]
  match o.effect with
  | .informs fault => .error fault
  | .flag raise =>
    if r.seen.contains o.name then .error .argumentConflict
    else .ok { r with result := raise r.result, seen }
  | .value repeatable take =>
    if values.isEmpty then .error .valueMissing
    else if !repeatable && r.seen.contains o.name then .error .argumentConflict
    else do
      let result ← values.foldlM (fun result v => take v result) r.result
      return { r with result, seen }

def settle (r : ArgumentReader α) : Except ArgumentFault (ArgumentReader α) :=
  match r.pending with
  | none => .ok { r with awaiting := false }
  | some (o, values) => { r with pending := none, awaiting := false }.apply o values

def meet (r : ArgumentReader α) (o : OptionSpec α) (attached : Option String) :
    Except ArgumentFault (ArgumentReader α) :=
  match o.effect, attached with
  | .value .., none => do
    let r ← r.settle
    return { r with pending := some (o, []), awaiting := true }
  | .value .., some v => do (← r.settle).apply o [v]
  | _, some _ => .error .tooManyValues
  | _, none => do (← r.settle).apply o []

def meetLetters (c : CommandSpec α) : List Char → ArgumentReader α →
    Except ArgumentFault (ArgumentReader α)
  | [], r => .ok r
  | letter :: rest, r =>
    match c.options.find? fun o => o.letter = some letter with
    | some o => do meetLetters c rest (← r.meet o none)
    | none => .error .unknownArgument

def meetName (c : CommandSpec α) (text : List Char) (r : ArgumentReader α) :
    Except ArgumentFault (ArgumentReader α) :=
  let name := String.ofList (text.takeWhile (· ≠ '='))
  let attached := match text.dropWhile (· ≠ '=') with
    | [] => none
    | _ :: value => some (String.ofList value)
  match c.options.find? fun o => o.name = name with
  | some o => r.meet o attached
  | none => .error .unknownArgument

def operand (c : CommandSpec α) (text : String) (r : ArgumentReader α) :
    Except ArgumentFault (ArgumentReader α) :=
  match c.operands with
  | none => .error (if c.subcommands.isEmpty then .unknownArgument else .invalidSubcommand)
  | some o =>
    match r.pending with
    | some (p, values) =>
      if p.name = o.name then .ok { r with pending := some (o, values ++ [text]) }
      else do return { ← r.settle with pending := some (o, [text]) }
    | none => .ok { r with pending := some (o, [text]) }

def plain (c : CommandSpec α) (text : String) (r : ArgumentReader α) :
    Except ArgumentFault (ArgumentReader α) :=
  match r.awaiting, r.pending with
  | true, some (o, values) =>
    .ok { r with pending := some (o, values ++ [text]), awaiting := false }
  | _, _ => r.operand c text

/-- Reads the arguments after two dashes: all are operands. A subcommand cannot stand there. -/
def readOperands (c : CommandSpec α) : List String → ArgumentReader α →
    Except ArgumentFault (ArgumentReader α)
  | [], r => .ok r
  | text :: rest, r =>
    if c.operands.isNone && c.subcommands.contains text then .error .unknownArgument
    else do readOperands c rest (← r.operand c text)

def read (c : CommandSpec α) : List String → ArgumentReader α →
    Except ArgumentFault (ArgumentReader α × Option SubcommandCall)
  | [], r => .ok (r, none)
  | text :: rest, r =>
    if !r.awaiting && c.subcommands.contains text then .ok (r, some ⟨text, rest⟩)
    else match text.toList with
      | ['-', '-'] => do return (← readOperands c rest { r with awaiting := false }, none)
      | '-' :: '-' :: name => do read c rest (← r.meetName c name)
      | '-' :: letter :: letters => do read c rest (← r.meetLetters c (letter :: letters))
      | _ => do read c rest (← r.plain c text)

end ArgumentReader

end ContainerWatch
