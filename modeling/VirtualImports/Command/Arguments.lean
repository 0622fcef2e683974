import VirtualImports.Files.Path
import VirtualImports.Text.Digit

/-!
Command-line arguments. Options may be shortened as long as they stay unambiguous, take their
value from the next argument or behind an equals sign, and may be given more than once: the last
one counts. The value `--` behind an equals sign leaves the option without a value. Behind an
argument `--` every argument is a plain one.
-/
namespace VirtualImports.Command

inductive Flag
  | help
  | version
  | target
  | out
  | config
  | extensions
  deriving DecidableEq, Repr

/-- How many values an option takes. -/
inductive Arity
  | none
  | one
  | some
  deriving DecidableEq, Repr

def Flag.arity : Flag → Arity
  | help | version => .none
  | target | out | config => .one
  | extensions => .some

abbrev OptionNames := List (String × Flag)

def programOptions : OptionNames := [("-h", .help), ("--help", .help), ("--version", .version)]

def rewriteOptions : OptionNames :=
  [("-h", .help), ("--help", .help), ("--target", .target), ("--out", .out), ("--config", .config),
    ("--ext", .extensions)]

def declareOptions : OptionNames :=
  [("-h", .help), ("--help", .help), ("--config", .config), ("--out", .out)]

/-- Why the arguments do not lead to a command. -/
inductive Stop
  | help
  | version
  | usage
  deriving DecidableEq, Repr

/-- An argument as the parser sees it. A long option starts with two hyphens. -/
inductive Word
  | plain (text : String)
  | separator
  | option (flag : Flag) (long : Bool) (attached : Option String)
  | unknownOption
  deriving DecidableEq, Repr

/-- The text in front of the first equals sign, and the text behind it if there is one. -/
def splitEquals (word : List Char) : List Char × Option String :=
  let name := word.takeWhile (· != '=')
  match word.dropWhile (· != '=') with
  | [] => (name, none)
  | _ :: value => (name, some (String.ofList value))

/-- Digits, perhaps with a point among them, behind a minus sign. One newline may follow. -/
def isNegativeNumber : List Char → Bool
  | '-' :: rest =>
    let number := if rest.getLast? = some '\n' then rest.dropLast else rest
    let whole := number.takeWhile Text.isDecimalDigit
    match number.dropWhile Text.isDecimalDigit with
    | [] => !whole.isEmpty
    | '.' :: places => !places.isEmpty && places.all Text.isDecimalDigit
    | _ => false
  | _ => false

/-- The options that a word may mean: a long one may be shortened and have a value behind an equals
sign; to a short one anything may be attached, with or without one. -/
def meanings (names : OptionNames) (word : List Char) : List (Flag × Option String) :=
  match word with
  | '-' :: '-' :: _ =>
    let (start, attached) := splitEquals word
    match attached, names.lookup (String.ofList start) with
    | some value, some flag => [(flag, some value)]
    | _, _ =>
      (names.filter fun (name, _) => start.isPrefixOf name.toList).map fun (_, flag) =>
        (flag, attached)
  | '-' :: c :: rest =>
    let attached :=
      match rest with
      | '=' :: value => value
      | rest => rest
    (names.filter fun (name, _) => name.toList = ['-', c]).map fun (_, flag) =>
      (flag, some (String.ofList attached))
  | _ => []

/-- Text that starts with a hyphen is an option, unless it is a number or holds a space. -/
def classify (names : OptionNames) (text : String) : Except Stop Word :=
  let word := text.toList
  if word.head? ≠ some '-' || word.length = 1 then .ok (.plain text)
  else
    let long := ['-', '-'].isPrefixOf word
    match names.lookup text with
    | some flag => .ok (.option flag long none)
    | none =>
      match meanings names word with
      | [(flag, attached)] => .ok (.option flag long attached)
      | _ :: _ :: _ => .error .usage
      | [] =>
        if isNegativeNumber word || word.contains ' ' then .ok (.plain text)
        else .ok .unknownOption

def classifyAll (names : OptionNames) : List String → Except Stop (List Word)
  | [] => .ok []
  | "--" :: rest => .ok (.separator :: rest.map .plain)
  | text :: rest =>
    match classify names text with
    | .error stop => .error stop
    | .ok word => (classifyAll names rest).map (word :: ·)

/-- What the arguments say about an option with one value. A cleared option is given, but has no
value. -/
inductive Setting (α : Type)
  | unset
  | cleared
  | value (value : α)
  deriving DecidableEq, Repr

namespace Setting

variable {α β : Type}

def value? : Setting α → Option α
  | value a => some a
  | _ => none

def isUnset : Setting α → Bool
  | unset => true
  | _ => false

def map (f : α → β) : Setting α → Setting β
  | unset => unset
  | cleared => cleared
  | value a => value (f a)

end Setting

/-- What has been collected: option values in the order given, the path, and whether anything was
left over. -/
structure Collected where
  values : List (Flag × List String)
  path : Option String
  leftOver : Bool
  deriving DecidableEq, Repr

namespace Collected

def empty : Collected := ⟨[], none, false⟩

/-- The values that an option was last given. -/
def last? (flag : Flag) (collected : Collected) : Option (List String) :=
  collected.values.reverse.lookup flag

def setting (flag : Flag) (collected : Collected) : Setting String :=
  match collected.last? flag with
  | none => .unset
  | some [] => .cleared
  | some (text :: _) => .value text

def pathSetting (flag : Flag) (collected : Collected) : Setting Path :=
  (collected.setting flag).map Path.ofText

end Collected

/-- What an option without a value does. Nothing may be attached to it but, to a short one,
repetitions of its letter. -/
def stopFor (flag : Flag) (long : Bool) (attached : Option String) : Stop :=
  let allowed :=
    match attached with
    | none => true
    | some text => !long && text != "" && text.toList.all (· == 'h')
  if !allowed then .usage else if flag = .version then .version else .help

/-- The plain words at the start of a list. -/
def plainTexts : List Word → List String
  | .plain text :: rest => text :: plainTexts rest
  | _ => []

/-- Collects from words. The counter is the number of words. -/
def collect (takesPath : Bool) : Nat → Collected → List Word → Except Stop Collected
  | 0, collected, _ => .ok collected
  | _ + 1, collected, [] => .ok collected
  | count + 1, collected, word :: rest =>
    let wantsPath := takesPath && collected.path.isNone
    match word with
    | .plain text =>
      if wantsPath then
        let collected := { collected with path := some text }
        match rest with
        | .separator :: rest => collect takesPath count collected rest
        | rest => collect takesPath count collected rest
      else collect takesPath count { collected with leftOver := true } rest
    | .separator =>
      match wantsPath, rest with
      | true, .plain text :: rest => collect takesPath count { collected with path := some text } rest
      | _, rest => collect takesPath count { collected with leftOver := true } rest
    | .unknownOption => collect takesPath count { collected with leftOver := true } rest
    | .option flag long attached =>
      let keep (values : List String) : Collected :=
        { collected with values := collected.values ++ [(flag, values)] }
      match flag.arity, attached with
      | .none, attached => .error (stopFor flag long attached)
      | _, some value => collect takesPath count (keep (if value = "--" then [] else [value])) rest
      | .one, none =>
        match rest with
        | .plain text :: rest => collect takesPath count (keep [text]) rest
        | _ => .error .usage
      | .some, none =>
        let values := plainTexts rest
        if values.isEmpty then .error .usage
        else collect takesPath count (keep values) (rest.drop values.length)

/-- Where no extensions are given, the usual ones are meant. -/
structure RewriteOptions where
  input : Path
  output : Setting Path
  target : Setting String
  configurationFile : Setting Path
  extensions : List String
  deriving DecidableEq, Repr

structure DeclareOptions where
  configurationFile : Setting Path
  output : Setting Path
  deriving DecidableEq, Repr

/-- What the program is asked to do. -/
inductive Invocation
  | rewrite (options : RewriteOptions)
  | declare (options : DeclareOptions)
  deriving DecidableEq, Repr

def collectAll (names : OptionNames) (takesPath : Bool) (arguments : List String) :
    Except Stop Collected :=
  match classifyAll names arguments with
  | .error stop => .error stop
  | .ok words => collect takesPath words.length .empty words

/-- The command of a name, from the arguments behind the name. -/
def ofName (name : String) (arguments : List String) : Except Stop (Invocation × Bool) :=
  if name = "rewrite" then
    match collectAll rewriteOptions true arguments with
    | .error stop => .error stop
    | .ok collected =>
      match collected.path with
      | none => .error .usage
      | some input =>
        .ok (.rewrite {
          input := Path.ofText input
          output := collected.pathSetting .out
          target := collected.setting .target
          configurationFile := collected.pathSetting .config
          extensions := (collected.last? .extensions).getD [] }, collected.leftOver)
  else if name = "shim" then
    match collectAll declareOptions false arguments with
    | .error stop => .error stop
    | .ok collected =>
      .ok (.declare ⟨collected.pathSetting .config, collected.pathSetting .out⟩, collected.leftOver)
  else .error .usage

/-- Reads the words in front of the command name; everything behind it belongs to the command.
Words that were left over are found out only when the command has been read. -/
def findCommand : Bool → List Word → List String → Except Stop Invocation
  | leftOver, .plain name :: _, _ :: arguments =>
    match ofName name arguments with
    | .error stop => .error stop
    | .ok (command, more) => if leftOver || more then .error .usage else .ok command
  | _, .option flag long attached :: _, _ => .error (stopFor flag long attached)
  | _, .unknownOption :: words, _ :: arguments => findCommand true words arguments
  | _, _, _ => .error .usage

/-- The command that the arguments ask for. -/
def parse (arguments : List String) : Except Stop Invocation :=
  match classifyAll programOptions arguments with
  | .error stop => .error stop
  | .ok words => findCommand false words arguments

end VirtualImports.Command
