/-!
The command line of the inspector: one option, then a command with its own arguments.

* `decode` takes one frame or more, `encode` one text, `kinds` no word and perhaps `--domain`.
* `--config` names the file of the settings and comes before the command.
* `help`, `-h` and `--help` ask for help, with everything or with one command.

Arguments are looked at from left to right, and the first that asks for help or cannot be understood
decides. An argument that begins with a hyphen is an option, unless it is the hyphen alone or comes
after `--`; an option can be given once, and its value is the next argument or follows `=`.
-/

namespace RadioFrame.Inspect

/-- What the inspector can be told to do. -/
inductive Command where
  /-- Decode typed frames. -/
  | decode (frames : List String)
  /-- Build the frame of a text. -/
  | encode (text : String)
  /-- List the types of message of a domain, or of all. -/
  | kinds (domain : Option String)
  deriving DecidableEq, Repr

/-- The subjects of help. -/
inductive Page where
  | program
  | decode
  | encode
  | kinds
  | help
  deriving DecidableEq, Repr

/-- What a command line asks for. -/
inductive Request where
  /-- Help. -/
  | help (page : Page)
  /-- Nothing that could be understood, for some reason. -/
  | misuse (reason : String)
  /-- A command, with the file of the settings if one is named. -/
  | run (settingsFile : Option String) (command : Command)
  deriving DecidableEq, Repr

/-! ### Single arguments -/

/-- What an argument is by its form. -/
inductive Argument where
  | word
  /-- The mark after which everything is a word. -/
  | mark
  | help
  /-- An option, perhaps with a value. -/
  | option (name : String) (value : Option String)
  deriving DecidableEq, Repr

/-- An option whose name and value are cut at the first equals sign. -/
def splitOption (cs : List Char) : Argument :=
  let name := String.ofList (cs.takeWhile (· ≠ '='))
  match cs.dropWhile (· ≠ '=') with
  | [] => .option name none
  | _ :: value => .option name (some (String.ofList value))

/-- What an argument is. -/
def classify (argument : String) : Argument :=
  match argument.toList with
  | ['-', '-'] => .mark
  | ['-'] => .word
  | ['-', '-', 'h', 'e', 'l', 'p'] => .help
  | '-' :: '-' :: cs => splitOption ('-' :: '-' :: cs)
  | '-' :: 'h' :: _ => .help
  | '-' :: cs => .option (String.ofList ('-' :: cs)) none
  | _ => .word

/-- The answer to an argument that has no place. -/
def unexpected (argument : String) : Request := .misuse s!"unexpected argument '{argument}' found"

/-- The answer to an option that was given before. -/
def repeated (option : String) : Request :=
  .misuse s!"the argument '{option}' cannot be used multiple times"

/-- The answer to an option that has no value. -/
def valueless (option : String) : Request :=
  .misuse s!"a value is required for '{option}' but none was supplied"

/-! ### Commands -/

/-- The option and the words after the name of a command. The option is known by its name, if the
command has one, and can be given once; there is room for a number of words. -/
def arguments (page : Page) (known : Option String) :
    Nat → Option String → List String → Except Request (Option String × List String)
  | _, given, [] => .ok (given, [])
  | room, given, a :: rest =>
      match classify a with
      | .word =>
          match room with
          | 0 => .error (unexpected a)
          | room + 1 => do
              let (given, words) ← arguments page known room given rest
              .ok (given, a :: words)
      | .mark =>
          match rest.drop room with
          | [] => .ok (given, rest)
          | extra :: _ => .error (unexpected extra)
      | .help => .error (.help page)
      | .option name value =>
          if known ≠ some name then .error (unexpected a)
          else match given, value, rest with
            | some _, _, _ => .error (repeated name)
            | none, some value, rest => arguments page known room (some value) rest
            | none, none, [] => .error (valueless name)
            | none, none, b :: rest =>
                if classify b = .word then arguments page known room (some b) rest
                else .error (valueless name)

/-- The page of help that some words name. -/
def helpRequest : List String → Request
  | [] => .help .program
  | ["decode"] => .help .decode
  | ["encode"] => .help .encode
  | ["kinds"] => .help .kinds
  | ["help"] => .help .help
  | name :: _ => .misuse s!"unrecognized subcommand '{name}'"

/-- The command of a name and the arguments after it. -/
def command (settingsFile : Option String) (name : String) (rest : List String) : Request :=
  let answer : Except Request Request :=
    if name = "decode" then do
      match ← arguments .decode none rest.length none rest with
      | (_, []) => .ok (.misuse "the following required arguments were not provided: <FRAMES>...")
      | (_, frames) => .ok (.run settingsFile (.decode frames))
    else if name = "encode" then do
      match ← arguments .encode none 1 none rest with
      | (_, text :: _) => .ok (.run settingsFile (.encode text))
      | (_, []) => .ok (.misuse "the following required arguments were not provided: <JSON>")
    else if name = "kinds" then do
      let (domain, _) ← arguments .kinds (some "--domain") 0 none rest
      .ok (.run settingsFile (.kinds domain))
    else if name = "help" then .ok (helpRequest rest)
    else .ok (.misuse s!"unrecognized subcommand '{name}'")
  match answer with
  | .ok request => request
  | .error request => request

/-- The request of a whole command line, the file of the settings perhaps named before. -/
def requestFrom : Option String → List String → Request
  | _, [] => .misuse "a command is required"
  | settingsFile, a :: rest =>
      match classify a with
      | .word => command settingsFile a rest
      | .mark => unexpected a
      | .help => .help .program
      | .option name value =>
          if name ≠ "--config" then unexpected a
          else match settingsFile, value, rest with
            | some _, _, _ => repeated name
            | none, some value, rest =>
                if value = "" then valueless name else requestFrom (some value) rest
            | none, none, [] => valueless name
            | none, none, b :: rest =>
                if classify b = .word ∧ b ≠ "" then requestFrom (some b) rest else valueless name

/-- The request of a command line. -/
def request (args : List String) : Request := requestFrom none args

/-- The file of the settings that a command line names. -/
def settingsFile? (args : List String) : Option String :=
  match request args with
  | .run file _ => file
  | _ => none

/-! ### Help -/

/-- The lines of a page of help. -/
def Page.lines : Page → List String
  | program =>
      ["Decode and build WHAD protocol frames",
        "",
        "Usage: whad-inspect [OPTIONS] <COMMAND>",
        "",
        "Commands:",
        "  decode  Decode hex frames and print them as JSON",
        "  encode  Build a frame from a message JSON document and print it as hex",
        "  kinds   List every message type the dispatcher knows",
        "  help    Print this message or the help of the given subcommand(s)",
        "",
        "Options:",
        "      --config <CONFIG>  Optional TOML configuration file",
        "  -h, --help             Print help"]
  | decode =>
      ["Decode hex frames and print them as JSON",
        "",
        "Usage: whad-inspect decode <FRAMES>...",
        "",
        "Arguments:",
        "  <FRAMES>...  ",
        "",
        "Options:",
        "  -h, --help  Print help"]
  | encode =>
      ["Build a frame from a message JSON document and print it as hex",
        "",
        "Usage: whad-inspect encode <JSON>",
        "",
        "Arguments:",
        "  <JSON>  ",
        "",
        "Options:",
        "  -h, --help  Print help"]
  | kinds =>
      ["List every message type the dispatcher knows",
        "",
        "Usage: whad-inspect kinds [OPTIONS]",
        "",
        "Options:",
        "      --domain <DOMAIN>  ",
        "  -h, --help             Print help"]
  | help =>
      ["Print this message or the help of the given subcommand(s)",
        "",
        "Usage: whad-inspect help [COMMAND]...",
        "",
        "Arguments:",
        "  [COMMAND]...  Print help for the subcommand(s)"]

/-- A page of help as text. -/
def Page.text (page : Page) : String := String.join (page.lines.map fun line => line ++ "\n")

end RadioFrame.Inspect
