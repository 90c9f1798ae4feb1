/-
What the arguments of a command line ask for: an optional file, and
options that may stand before or after it. Arguments are read from left
to right, and the first one that settles the request counts: help, the
version, or a fault. After two dashes alone every argument is a file,
whatever it looks like.
-/

namespace EntityMarkup.CommandLine

/-- What the program is told to do. -/
structure Options where
  /-- The file to build, instead of the sample. -/
  file : Option String := none
  /-- Unknown attributes are skipped, whatever the environment says. -/
  lenient : Bool := false
  /-- An entity type to describe, instead of building. -/
  describe : Option String := none
  /-- How often verbosity was asked for. -/
  verbosity : Nat := 0
deriving DecidableEq, Repr

/-- Why arguments cannot be read. -/
inductive UsageFault where
  /-- No option has the name. -/
  | unknownOption (argument : String)
  /-- The option takes no value. -/
  | unexpectedValue (option : String)
  /-- No value follows the option. -/
  | missingValue (option : String)
  /-- The option may be given once. -/
  | repeatedOption (option : String)
  /-- A file was given before. -/
  | secondFile (path : String)
  /-- A file without a name. -/
  | emptyFile
deriving DecidableEq, Repr

/-- The fault in words. -/
def UsageFault.message : UsageFault → String
  | .unknownOption argument => "unexpected argument '" ++ argument ++ "'"
  | .unexpectedValue option => "option '" ++ option ++ "' takes no value"
  | .missingValue option => "option '" ++ option ++ "' needs a value"
  | .repeatedOption option =>
    "option '" ++ option ++ "' cannot be used multiple times"
  | .secondFile path => "unexpected argument '" ++ path ++ "'"
  | .emptyFile => "the file needs a name"

/-- What the arguments ask for. -/
inductive Request where
  | help
  | version
  /-- Nothing that can be done. -/
  | refused (fault : UsageFault)
  /-- A build or a description. -/
  | work (options : Options)
deriving DecidableEq, Repr

/-- The shapes of an argument. -/
inductive Argument where
  /-- Two dashes alone. -/
  | separator
  /-- Two dashes and a name, up to an equals sign if there is one, and
  what follows the sign. -/
  | long (name : String) (value : Option String)
  /-- A dash and letters. -/
  | short (letters : List Char)
  /-- Anything else; also a dash alone. -/
  | plain (text : String)
deriving DecidableEq, Repr

namespace Argument

/-- The shape of an argument. -/
def ofText (text : String) : Argument :=
  match text.toList with
  | ['-', '-'] => .separator
  | '-' :: '-' :: rest =>
    let name := String.ofList (rest.takeWhile (· != '='))
    match rest.dropWhile (· != '=') with
    | [] => .long name none
    | _ :: value => .long name (some (String.ofList value))
  | '-' :: letter :: letters => .short (letter :: letters)
  | _ => .plain text

end Argument

/-- An option without a value. -/
inductive Flag where
  | lenient
  | verbosity
  | help
  | version
deriving DecidableEq, Repr

namespace Flag

/-- The flag of a name. -/
def ofName? : String → Option Flag
  | "lenient" => some .lenient
  | "verbosity" => some .verbosity
  | "help" => some .help
  | "version" => some .version
  | _ => none

/-- The flag of a letter. -/
def ofLetter? : Char → Option Flag
  | 'v' => some .verbosity
  | 'h' => some .help
  | 'V' => some .version
  | _ => none

end Flag

namespace Options

/-- With a flag's effect, or else the request that it settles. -/
def withFlag (o : Options) : Flag → Except Request Options
  | .lenient =>
    if o.lenient then .error (.refused (.repeatedOption "--lenient"))
    else .ok { o with lenient := true }
  | .verbosity => .ok { o with verbosity := o.verbosity + 1 }
  | .help => .error .help
  | .version => .error .version

/-- With the flag of a letter. -/
def withLetter (o : Options) (letter : Char) : Except Request Options :=
  match Flag.ofLetter? letter with
  | some flag => o.withFlag flag
  | none => .error (.refused (.unknownOption (String.ofList ['-', letter])))

/-- With the flag of a name, which takes no value. -/
def withName (o : Options) (name : String) (value : Option String) :
    Except Request Options :=
  match Flag.ofName? name, value with
  | some flag, none => o.withFlag flag
  | some _, some _ => .error (.refused (.unexpectedValue ("--" ++ name)))
  | none, _ => .error (.refused (.unknownOption ("--" ++ name)))

/-- With a file, unless there is one. -/
def withFile (o : Options) (path : String) : Except Request Options :=
  if o.file.isSome then .error (.refused (.secondFile path))
  else if path.isEmpty then .error (.refused .emptyFile)
  else .ok { o with file := some path }

/-- With a type to describe, unless there is one. -/
def withDescribe (o : Options) (type : String) : Except Request Options :=
  if o.describe.isSome then
    .error (.refused (.repeatedOption "--describe"))
  else .ok { o with describe := some type }

/-- With all that the arguments say. The value of an option may be the
argument after it, unless that looks like an option. -/
def read (o : Options) : List String → Except Request Options
  | [] => .ok o
  | argument :: rest =>
    match Argument.ofText argument with
    | .separator => rest.foldlM withFile o
    | .plain path => do (← o.withFile path).read rest
    | .short letters => do (← letters.foldlM withLetter o).read rest
    | .long "describe" (some type) => do (← o.withDescribe type).read rest
    | .long "describe" none =>
      match rest with
      | [] => .error (.refused (.missingValue "--describe"))
      | next :: rest =>
        match Argument.ofText next with
        | .plain type => do (← o.withDescribe type).read rest
        | _ => .error (.refused (.missingValue "--describe"))
    | .long name value => do (← o.withName name value).read rest

end Options

namespace Request

/-- What the arguments ask for. -/
def ofArguments (arguments : List String) : Request :=
  match ({} : Options).read arguments with
  | .ok options => .work options
  | .error request => request

/-- The file whose contents are needed. A description needs none. -/
def file? : Request → Option String
  | .work options => if options.describe.isSome then none else options.file
  | _ => none

end Request

-- ================================================================ texts

/-- The answer to a request for the version. -/
def versionText : String := "trellis-studio 0.1.0\n"

/-- The answer to a request for help. -/
def helpText : String :=
  String.join ([
    "Build Trellis markup and print the entity outline",
    "",
    "Usage: trellis-studio [OPTIONS] [FILE]",
    "",
    "Arguments:",
    "  [FILE]  Markup file to build (defaults to the bundled sample)",
    "",
    "Options:",
    "      --lenient          Skip unknown attributes with a warning "
      ++ "instead of failing",
    "      --describe <TYPE>  List the attributes an entity type accepts, "
      ++ "then exit",
    "  -v, --verbosity...     Verbosity level (can be repeated)",
    "  -h, --help             Print help",
    "  -V, --version          Print version" ].map (· ++ "\n"))

end EntityMarkup.CommandLine
