import DocQuery.Config.Settings

/-!
# Options of the command line

An option is a name that starts with two dashes, and its value: the next argument, or what follows
an equals sign in the same one.  Options go before the environment; none may be given twice.

## Main definitions

* `Options`, `Options.ofArguments`
* `Options.override`: the settings with the options put in
-/

namespace DocQuery

/-- What the command line sets; a missing option leaves the setting as it is. -/
structure Options where
  port : Option Nat
  collectionsFile : Option String
  seedFile : Option String
deriving DecidableEq

/-- Why a command line is refused. -/
inductive OptionFault where
  | unknown (argument : String)
  | noValue (option : String)
  | repeated (option : String)
  | port (value : String)
deriving DecidableEq

/-- The text of a fault. -/
def OptionFault.message : OptionFault → String
  | .unknown argument => s!"unexpected argument '{argument}' found"
  | .noValue option => s!"a value is required for '{option}' but none was supplied"
  | .repeated option => s!"the argument '{option}' cannot be used multiple times"
  | .port value => s!"invalid value '{value}' for '--port'"

namespace Options

/-- No options. -/
def none : Options := ⟨.none, .none, .none⟩

/-- Set an option; each may be set once. -/
def set (o : Options) (name value : String) : Except OptionFault Options :=
  match name with
  | "--port" =>
    if o.port.isSome then .error (.repeated name)
    else
      match Numeral.natural? 16 value with
      | some port => .ok { o with port := some port }
      | Option.none => .error (.port value)
  | "--collections" =>
    if o.collectionsFile.isSome then .error (.repeated name)
    else .ok { o with collectionsFile := some value }
  | "--seed" =>
    if o.seedFile.isSome then .error (.repeated name) else .ok { o with seedFile := some value }
  | _ => .error (.unknown name)

/-- The name of an option and the value in the same argument. -/
def splitArgument (argument : String) : String × Option String :=
  let cs := argument.toList
  (String.ofList (cs.takeWhile (· ≠ '=')),
    match cs.dropWhile (· ≠ '=') with
    | [] => Option.none
    | _ :: value => some (String.ofList value))

/-- Set the options of arguments in order. -/
def setAll (o : Options) : List String → Except OptionFault Options
  | [] => .ok o
  | argument :: rest =>
    match splitArgument argument with
    | (name, some value) => do setAll (← o.set name value) rest
    | (name, Option.none) =>
      match rest with
      | value :: rest => do setAll (← o.set name value) rest
      | [] =>
        match o.set name "0" with
        | .ok _ => .error (.noValue name)
        | .error fault => .error fault

/-- The options of a command line. -/
def ofArguments (arguments : List String) : Except OptionFault Options := setAll none arguments

/-- The settings with the options put in. -/
def override (o : Options) (s : Settings) : Settings :=
  { s with
    port := o.port.getD s.port
    collectionsFile := o.collectionsFile.getD s.collectionsFile
    seedFile := o.seedFile.or s.seedFile }

end Options

end DocQuery
