/-!
# Command line options

The arguments of a run: an optional file, a pattern to search for, and switches. Arguments are read from left to right.
The first fault ends the reading, and so does a request for the version or for help.
-/

namespace PegTrace.Cli

/-- What a run is asked to do. -/
structure Options where
  /-- The file to read; without one, standard input is read. -/
  file : Option String := none
  /-- The pattern to search each line for; without one, the text is tagged. -/
  pattern : Option String := none
  /-- Whether the records are shown as trees. -/
  tree : Bool := false
  /-- How often more logging was asked for. -/
  verbosity : Nat := 0
deriving DecidableEq, Repr

/-- What the arguments ask for. -/
inductive Command where
  | run (options : Options)
  | version
  | help
  /-- The arguments are not understood. -/
  | misuse
deriving DecidableEq, Repr

/-- The arguments, as far as they are read. -/
structure Progress where
  /-- The options read so far. -/
  options : Options := {}
  /-- Whether the next argument is the pattern. -/
  awaiting : Bool := false
  /-- Whether every argument from here on is a file. -/
  literal : Bool := false
deriving DecidableEq, Repr

/-- What an argument leads to: more arguments, or an end. -/
abbrev Reading := Except Command Progress

namespace Progress

/-- Takes a file, of which there may be one. -/
def takeFile (p : Progress) (name : String) : Reading :=
  if p.options.file.isSome then .error .misuse
  else .ok { p with options := { p.options with file := some name } }

/-- Takes a pattern, of which there may be one. -/
def takePattern (p : Progress) (pattern : String) : Reading :=
  if p.options.pattern.isSome then .error .misuse
  else .ok { p with options := { p.options with pattern := some pattern }, awaiting := false }

/-- Takes the switch for trees, which may be given once. -/
def takeTree (p : Progress) : Reading :=
  if p.options.tree then .error .misuse
  else .ok { p with options := { p.options with tree := true } }

/-- Takes a request for more logging. -/
def takeVerbose (p : Progress) : Progress :=
  { p with options := { p.options with verbosity := p.options.verbosity + 1 } }

/-- Waits for the pattern in the next argument. -/
def await (p : Progress) : Progress :=
  { p with awaiting := true }

end Progress

/-- Reads short options that stand together; a pattern takes all that follows it. -/
def readCluster (p : Progress) : List Char → Reading
  | [] => .ok p
  | 'p' :: [] => .ok p.await
  | 'p' :: '=' :: value => p.takePattern (String.ofList value)
  | 'p' :: value => p.takePattern (String.ofList value)
  | 't' :: rest => do readCluster (← p.takeTree) rest
  | 'v' :: rest => readCluster p.takeVerbose rest
  | 'V' :: _ => .error .version
  | 'h' :: _ => .error .help
  | _ => .error .misuse

/-- Reads a long option and the value after its equals sign, if it has one. -/
def readLong (p : Progress) (name : String) (value : Option String) : Reading :=
  match name, value with
  | "pattern", some value => p.takePattern value
  | "pattern", none => .ok p.await
  | "tree", none => p.takeTree
  | "verbose", none => .ok p.takeVerbose
  | "version", none => .error .version
  | "help", none => .error .help
  | _, _ => .error .misuse

/-- Splits a long option at its first equals sign. -/
def splitLong (text : List Char) : String × Option String :=
  let value := match text.dropWhile (· ≠ '=') with
    | [] => none
    | _ :: value => some (String.ofList value)
  (String.ofList (text.takeWhile (· ≠ '=')), value)

/-- Reads one argument. A single dash is an ordinary value. -/
def readArgument (p : Progress) (arg : String) : Reading :=
  if p.literal then p.takeFile arg
  else
    match arg.toList with
    | ['-', '-'] => if p.awaiting then .error .misuse else .ok { p with literal := true }
    | '-' :: '-' :: text =>
      if p.awaiting then .error .misuse
      else
        let (name, value) := splitLong text
        readLong p name value
    | '-' :: c :: rest => if p.awaiting then .error .misuse else readCluster p (c :: rest)
    | _ => if p.awaiting then p.takePattern arg else p.takeFile arg

/-- What the arguments ask for. -/
def Command.ofArguments (args : List String) : Command :=
  match args.foldlM readArgument {} with
  | .error command => command
  | .ok p => if p.awaiting then .misuse else .run p.options

end PegTrace.Cli
