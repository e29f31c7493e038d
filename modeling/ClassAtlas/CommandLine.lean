/-
The command line. Four options are known: `--stdio`, which asks for what is done anyway,
`--bundled-stylesheet` with the path of a fallback, and `--help` and `--version`, which end the
reading at once. Arguments are read in order, and the first that is wrong decides.

An option that waits for its value takes the next argument, unless that looks like an option. It is
settled only when the next option comes or the arguments end; an argument that is refused as
unknown comes before any complaint about it.
-/
import ClassAtlas.BuiltIn
import ClassAtlas.Text.Similarity

namespace ClassAtlas.CommandLine

/-- The known options. -/
inductive Flag
  | stdio
  | stylesheet
  | help
  | version
  deriving DecidableEq, Repr

namespace Flag

/-- All options, in the order in which they are listed. -/
def all : List Flag := [.stdio, .stylesheet, .help, .version]

/-- The name of an option after its two hyphens. -/
def name : Flag → String
  | .stdio => "stdio"
  | .stylesheet => "bundled-stylesheet"
  | .help => "help"
  | .version => "version"

/-- The options that do not end the reading. -/
def lasting : List Flag := [.stdio, .stylesheet]

/-- How an option is written, with its value if it takes one. -/
def usage : Flag → String
  | .stylesheet => "--bundled-stylesheet <PATH>"
  | f => "--" ++ f.name

/-- The option with a name. -/
def ofName? (name : String) : Option Flag :=
  all.find? (·.name == name)

/-- The option with a letter. -/
def ofLetter? : Char → Option Flag
  | 'h' => some .help
  | 'V' => some .version
  | _ => none

/-- The option most like an unknown name; of equally similar ones the last. -/
def similarTo? (name : String) : Option Flag :=
  let likeness (f : Flag) : Float := Text.similarity name.toList f.name.toList
  (all.filter fun f => 0.7 < likeness f).foldl (fun best f =>
    match best with
    | none => some f
    | some g => if likeness f < likeness g then some g else some f) none

end Flag

/-- What is wrong with a command line. `used` lists the options met before, which the reminder of
the usage shows; `afterOthers` only tells whether there were any. -/
inductive Misuse
  | unknown (argument : String) (similar : Option Flag) (used : List Flag)
  | surplusValue (value : String) (flag : Flag) (afterOthers : Bool)
  | missingValue
  | repeated (flag : Flag)
  deriving DecidableEq, Repr

/-- What a command line asks for. -/
inductive Request
  | serve (stylesheet : Option String)
  | help
  | version
  deriving DecidableEq, Repr

/-! ## Texts -/

/-- The reminder of the usage. -/
def usageLine (used : List Flag) : String :=
  "Usage: tachyons-lsp " ++
    (if used = [] then "[OPTIONS]" else " ".intercalate (used.eraseDups.map Flag.usage)) ++ "\n\n"

/-- The reminder of the usage for an option, and for all that last if some of them came before. -/
def usageLineOf (flag : Flag) (afterOthers : Bool) : String :=
  let others := "<" ++ "|".intercalate (Flag.lasting.map Flag.usage) ++ ">"
  let shown :=
    if afterOthers then (if Flag.lasting.contains flag then [] else [flag.usage]) ++ [others]
    else [flag.usage]
  "Usage: tachyons-lsp " ++ " ".intercalate shown ++ "\n\n"

/-- The last line of a complaint. -/
def moreHelp : String := "For more information, try '--help'.\n"

/-- The complaint about a misuse. -/
def Misuse.message : Misuse → String
  | .unknown argument similar used =>
    "error: unexpected argument '" ++ argument ++ "' found\n\n" ++
      (match similar with
        | none => ""
        | some f => "  tip: a similar argument exists: '--" ++ f.name ++ "'\n\n") ++
      usageLine used ++ moreHelp
  | .surplusValue value flag afterOthers =>
    "error: unexpected value '" ++ value ++ "' for '" ++ flag.usage ++
      "' found; no more were expected\n\n" ++ usageLineOf flag afterOthers ++ moreHelp
  | .missingValue =>
    "error: a value is required for '" ++ Flag.stylesheet.usage ++ "' but none was supplied\n\n" ++
      moreHelp
  | .repeated flag =>
    "error: the argument '" ++ flag.usage ++ "' cannot be used multiple times\n\n" ++
      usageLine [] ++ moreHelp

/-- The text that `--help` shows. -/
def helpText : String :=
  "Go to definition for Tachyons utility classes. Jumps from a class attribute straight to the " ++
    "rule in\ntachyons.css.\n\n" ++
  "Usage: tachyons-lsp [OPTIONS]\n\n" ++
  "Options:\n" ++
  "      --stdio                      Communicate over stdin/stdout (the default and only " ++
    "transport)\n" ++
  "      --bundled-stylesheet <PATH>  Stylesheet to fall back to when the workspace has no\n" ++
  "                                   node_modules/tachyons. Defaults to the copy built into " ++
    "the binary\n" ++
  "  -h, --help                       Print help\n" ++
  "  -V, --version                    Print version\n"

/-- The text that `--version` shows. -/
def versionText : String :=
  "tachyons_lsp " ++ BuiltIn.version ++ "\n"

/-! ## Reading -/

/-- An option that has come without its value being settled. -/
inductive Waiting
  | forValue
  | withValue (v : String)
  deriving DecidableEq, Repr

/-- The state of reading: the options settled so far in their order, the value of the stylesheet
option, and that option if it is not settled yet. -/
structure Reading where
  used : List Flag
  stylesheet : Option String
  waiting : Option Waiting
  deriving DecidableEq, Repr

namespace Reading

/-- Settles an option; it may come only once. An option that comes again is no longer counted. -/
def settle (r : Reading) (f : Flag) : Reading × Except Misuse Unit :=
  if r.used.contains f then ({ r with used := r.used.erase f }, .error (.repeated f))
  else ({ r with used := r.used ++ [f] }, .ok ())

/-- Settles the stylesheet option with a value, which must not be empty. -/
def settleStylesheet (r : Reading) (v : String) : Reading × Except Misuse Unit :=
  match r.settle .stylesheet with
  | (r, .error e) => (r, .error e)
  | (r, .ok ()) =>
    if v = "" then (r, .error .missingValue) else ({ r with stylesheet := some v }, .ok ())

/-- Settles the option that waits, if one does. -/
def settleWaiting (r : Reading) : Reading × Except Misuse Unit :=
  match r.waiting with
  | none => (r, .ok ())
  | some .forValue => ({ r with waiting := none }, .error .missingValue)
  | some (.withValue v) => { r with waiting := none }.settleStylesheet v

/-- Refuses an unknown argument. -/
def refuse (r : Reading) (argument : String) (similar : Option Flag) (named : Bool) : Misuse :=
  let used := r.settleWaiting.1.used
  .unknown argument similar (if named then used ++ similar.toList else [])

/-- What one argument leads to: the reading goes on, or it ends with a request. -/
inductive Step
  | next (r : Reading)
  | done (q : Request)

/-- Takes an option without a value of its own. -/
def takeFlag (r : Reading) (f : Flag) : Except Misuse Step := do
  let (r, settled) := r.settleWaiting
  settled
  match f with
  | .help => return .done .help
  | .version => return .done .version
  | .stylesheet => return .next { r with waiting := some .forValue }
  | .stdio =>
    let (r, settled) := r.settle f
    settled
    return .next r

/-- Takes an option with a value after an equals sign. -/
def takeFlagWith (r : Reading) (f : Flag) (v : String) : Except Misuse Step :=
  match f with
  | .stylesheet => do
    let (r, settled) := r.settleWaiting
    settled
    let (r, settled) := r.settleStylesheet v
    settled
    return .next r
  | f => .error (.surplusValue v f (r.used != []))

/-- Takes an argument with two hyphens, given what follows them. -/
def takeLong (r : Reading) (rest : List Char) : Except Misuse Step :=
  let name := String.ofList (rest.takeWhile (· != '='))
  match Flag.ofName? name, rest.dropWhile (· != '=') with
  | none, _ => .error (r.refuse ("--" ++ name) (Flag.similarTo? name) true)
  | some f, [] => r.takeFlag f
  | some f, _ :: value => r.takeFlagWith f (String.ofList value)

/-- Takes one argument. -/
def take (r : Reading) (argument : String) : Except Misuse Step :=
  match argument.toList with
  | '-' :: '-' :: rest => r.takeLong rest
  | '-' :: letter :: _ =>
    match Flag.ofLetter? letter with
    | some f => r.takeFlag f
    | none => .error (r.refuse (String.ofList ['-', letter]) none false)
  | _ =>
    match r.waiting with
    | some .forValue => .ok (.next { r with waiting := some (.withValue argument) })
    | _ => .error (r.refuse argument none false)

/-- Ends the reading: what is asked for is to serve. -/
def finish (r : Reading) : Except Misuse Request := do
  let (r, settled) := r.settleWaiting
  settled
  return .serve r.stylesheet

/-- Takes the arguments one by one. After `--` no options follow, and nothing else is known. -/
def takeAll (r : Reading) : List String → Except Misuse Request
  | [] => r.finish
  | argument :: rest =>
    if argument = "--" then
      match rest with
      | [] => r.finish
      | next :: _ => .error (r.refuse next none false)
    else
      match r.take argument with
      | .error e => .error e
      | .ok (.done q) => .ok q
      | .ok (.next r) => r.takeAll rest

end Reading

/-- Reads a command line. -/
def parse (arguments : List String) : Except Misuse Request :=
  (Reading.mk [] none none).takeAll arguments

end ClassAtlas.CommandLine
