/-!
Options among the arguments of a command. An option starts with a dash and is not a dash alone. A
flag stands for itself; other options take the text behind `=`, or else the next argument, whatever
it is. Behind `--` there are no options.
-/

namespace ServiceWiring.CommandLine

inductive Setting where
  | flag (name : String)
  | value (name text : String)
deriving DecidableEq, Repr

/-- Which options there are, and whether they may stand behind other arguments. -/
structure Options where
  flags : List String
  valued : List String := []
  interspersed : Bool := true

structure Reading where
  settings : List Setting := []
  positional : List String := []
deriving DecidableEq, Repr

namespace Reading

def set (setting : Setting) (reading : Reading) : Reading :=
  { reading with settings := setting :: reading.settings }

def place (argument : String) (reading : Reading) : Reading :=
  { reading with positional := argument :: reading.positional }

def has (reading : Reading) (flag : String) : Bool := reading.settings.contains (.flag flag)

def lastValue? (reading : Reading) (name : String) : Option String :=
  (reading.settings.filterMap fun
    | .value given text => if given = name then some text else none
    | .flag _ => none).getLast?

/-- Which of two opposite flags was given last; `no` if neither was. -/
def isOn (reading : Reading) (yes no : String) : Bool :=
  (reading.settings.filter fun setting => setting == .flag yes || setting == .flag no).getLast? ==
    some (.flag yes)

end Reading

namespace Options

def isOption (argument : String) : Bool :=
  match argument.toList with
  | '-' :: _ :: _ => true
  | _ => false

/-- An option's name, and the text behind its first `=` if there is one. -/
def splitAttached (argument : String) : String × Option String :=
  let (name, rest) := argument.toList.span (· != '=')
  match rest with
  | [] => (argument, none)
  | _ :: text => (String.ofList name, some (String.ofList text))

/-- Tells options from other arguments; `none` if an option is unknown, lacks its text, or has text
that it does not take. -/
def read? (options : Options) : List String → Option Reading
  | [] => some {}
  | argument :: rest =>
    if argument = "--" then some { positional := rest }
    else if isOption argument then
      match splitAttached argument with
      | (name, some text) =>
        if options.valued.contains name then (read? options rest).map (·.set (.value name text))
        else none
      | (name, none) =>
        if options.flags.contains name then (read? options rest).map (·.set (.flag name))
        else if options.valued.contains name then
          match rest with
          | [] => none
          | text :: others => (read? options others).map (·.set (.value name text))
        else none
    else if options.interspersed then (read? options rest).map (·.place argument)
    else some { positional := argument :: rest }

end Options

end ServiceWiring.CommandLine
