import ScriptSplit.Path
import ScriptSplit.Text.Digit
import ScriptSplit.Text.Quoted

namespace ScriptSplit.Command

def program : String := "ts-hotswap"

def version : String := "0.1.0"

def versionLine : String := s!"{program} {version}"

/-- An option by all its names; one that takes no value is a flag. -/
structure Switch where
  names : List String
  takesValue : Bool
  deriving DecidableEq, Repr

def help : Switch := ⟨["-h", "--help"], false⟩
def showVersion : Switch := ⟨["--version"], false⟩
def input : Switch := ⟨["--input"], true⟩
def localsOut : Switch := ⟨["--locals-out"], true⟩
def mainOut : Switch := ⟨["--main-out"], true⟩
def localsName : Switch := ⟨["--locals-name"], true⟩
def legacyScoping : Switch := ⟨["--legacy-scoping"], false⟩
def tsx : Switch := ⟨["--tsx"], false⟩
def jsonTrace : Switch := ⟨["--json-trace"], true⟩

def programSwitches : List Switch := [help, showVersion]

inductive Verb where
  | compile
  | bindings
  deriving DecidableEq, Repr

def Verb.name : Verb → String
  | .compile => "compile"
  | .bindings => "bindings"

def Verb.ofName? : String → Option Verb
  | "compile" => some .compile
  | "bindings" => some .bindings
  | _ => none

def Verb.switches : Verb → List Switch
  | .compile => [help, input, localsOut, mainOut, localsName, legacyScoping, tsx, jsonTrace]
  | .bindings => [help, input, legacyScoping, tsx]

inductive Misuse where
  | ambiguous (word : String) (candidates : List String)
  | noValue (switch : Switch)
  | extraValue (switch : Switch) (value : String)
  | noCommand
  | unknownCommand (word : String)
  | unrecognized (words : List String)
  deriving DecidableEq, Repr

def Switch.title (s : Switch) : String := "/".intercalate s.names

def Misuse.message : Misuse → String
  | .ambiguous word candidates =>
      s!"ambiguous option: {word} could match " ++ ", ".intercalate candidates
  | .noValue s => s!"argument {s.title}: expected one argument"
  | .extraValue s value => s!"argument {s.title}: ignored explicit argument " ++ quoted value
  | .noCommand => "the following arguments are required: command"
  | .unknownCommand word =>
      s!"argument command: invalid choice: {quoted word} (choose from 'compile', 'bindings')"
  | .unrecognized words => "unrecognized arguments: " ++ " ".intercalate words

structure UsageError where
  verb : Option Verb
  misuse : Misuse
  deriving DecidableEq, Repr

def UsageError.line (e : UsageError) : String :=
  let name := match e.verb with
    | none => program
    | some v => s!"{program} {v.name}"
  s!"{name}: error: {e.misuse.message}"

/-- A word of the command line: an argument, the mark after which all words are arguments, or an
option with the value written into it, if it is known at all. -/
inductive Word where
  | plain (word : String)
  | endOfOptions
  | unknown (word : String)
  | known (switch : Switch) (short : Bool) (value : Option String)
  deriving DecidableEq, Repr

def candidates (switches : List Switch) (start : List Char) : List (String × Switch) :=
  (switches.flatMap fun s => s.names.map fun n => (n, s)).filter
    fun c => start.isPrefixOf c.1.toList

def exactly (switches : List Switch) (name : String) : Option Switch :=
  switches.find? fun s => s.names.contains name

def splitValue (word : List Char) : Option (List Char × List Char) :=
  if word.contains '=' then
    some (word.takeWhile (· != '='), (word.dropWhile (· != '=')).drop 1)
  else none

/-- Digits, or digits around a point, after a minus; the end of a line may follow. -/
def isNegativeNumber : List Char → Bool
  | '-' :: t =>
      let t := if t.getLast? = some '\n' then t.dropLast else t
      let whole := t.takeWhile Text.isDigit
      match t.dropWhile Text.isDigit with
      | [] => !whole.isEmpty
      | '.' :: ds => !ds.isEmpty && ds.all Text.isDigit
      | _ => false
  | _ => false

def abbreviated (switches : List Switch) (word : List Char) : Except Misuse (Option Word) :=
  match word with
  | '-' :: '-' :: _ =>
      let (start, value) := match splitValue word with
        | some (name, value) => (name, some (String.ofList value))
        | none => (word, none)
      match candidates switches start with
      | [] => .ok none
      | [(_, s)] => .ok (some (.known s false value))
      | many => .error (.ambiguous (String.ofList word) (many.map Prod.fst))
  | c :: d :: rest =>
      match exactly switches (String.ofList [c, d]) with
      | some s => .ok (some (.known s true (some (String.ofList rest))))
      | none => .ok none
  | _ => .ok none

def isShort : List Char → Bool
  | '-' :: '-' :: _ => false
  | _ => true

def classify (switches : List Switch) (word : String) : Except Misuse Word :=
  match word.toList with
  | '-' :: c :: rest =>
      let cs := '-' :: c :: rest
      match exactly switches word with
      | some s => .ok (.known s (isShort cs) none)
      | none =>
          match (splitValue cs).bind fun (name, value) =>
              (exactly switches (String.ofList name)).map fun s => (name, s, value) with
          | some (name, s, value) => .ok (.known s (isShort name) (some (String.ofList value)))
          | none => do
              match ← abbreviated switches cs with
              | some w => return w
              | none =>
                  if isNegativeNumber cs || cs.contains ' ' then return .plain word
                  else return .unknown word
  | _ => .ok (.plain word)

def classifyAll (switches : List Switch) : List String → Except Misuse (List (String × Word))
  | [] => .ok []
  | word :: words =>
      if word = "--" then .ok ((word, .endOfOptions) :: words.map fun w => (w, .plain w))
      else do
        let w ← classify switches word
        let ws ← classifyAll switches words
        return (word, w) :: ws

/-- A flag with a value written into it: with one hyphen, the value may hold more flags, of which
there is only the one for help. -/
def flagValue (s : Switch) (short : Bool) (value : String) : Except Misuse Unit :=
  if short && value != "" then
    let rest := if s = help then value.toList.dropWhile (· == 'h') else value.toList
    if rest.isEmpty then .ok () else .error (.extraValue s (String.ofList rest))
  else .error (.extraValue s value)

inductive Halt where
  | misused (what : Misuse)
  | asked (switch : Switch)
  deriving DecidableEq, Repr

/-- The value that is written into an option. The mark that ends the options is no value. -/
def written (value : String) : Option String := if value = "--" then none else some value

structure Taken where
  given : List (Switch × Option String)
  extra : List String
  deriving DecidableEq, Repr

namespace Taken

def nothing : Taken := ⟨[], []⟩

def withOption (t : Taken) (s : Switch) (value : Option String) : Taken :=
  { t with given := (s, value) :: t.given }

def withExtra (t : Taken) (word : String) : Taken := { t with extra := word :: t.extra }

/-- Of an option given more than once the last one counts. -/
def option? (t : Taken) (s : Switch) : Option (Option String) :=
  (t.given.reverse.find? fun g => g.1 == s).map Prod.snd

def has (t : Taken) (s : Switch) : Bool := (t.option? s).isSome

def value? (t : Taken) (s : Switch) : Option String := (t.option? s).join

end Taken

def readOptions : List (String × Word) → Except Halt Taken
  | [] => .ok .nothing
  | (_, .known s short (some value)) :: rest =>
      if s.takesValue then do return (← readOptions rest).withOption s (written value)
      else do
        (flagValue s short value).mapError .misused
        throw (.asked s)
  | (_, .known s _ none) :: rest =>
      if s.takesValue then
        match rest with
        | (value, .plain _) :: rest => do return (← readOptions rest).withOption s (some value)
        | _ => .error (.misused (.noValue s))
      else if s = help then .error (.asked s)
      else do return (← readOptions rest).withOption s none
  | (word, _) :: rest => do return (← readOptions rest).withExtra word

def readProgram : List (String × Word) → Except Halt (List String × List String)
  | (_, .known s short value) :: _ => do
      match value with
      | some value => (flagValue s short value).mapError .misused
      | none => pure ()
      throw (.asked s)
  | (word, .unknown _) :: rest => do
      let (extra, line) ← readProgram rest
      return (word :: extra, line)
  | rest => .ok ([], rest.map Prod.fst)

inductive Request where
  | version
  | help (verb : Option Verb)
  | misused (error : UsageError)
  | perform (verb : Verb) (options : Taken)
  deriving DecidableEq, Repr

def Request.ofHalt (verb : Option Verb) : Halt → Request
  | .misused what => .misused ⟨verb, what⟩
  | .asked s => if s = showVersion then .version else .help verb

/-- What a command asks for, when `extra` words stood before it. -/
def Request.ofVerb (verb : Verb) (extra words : List String) : Request :=
  match (classifyAll verb.switches words).mapError Halt.misused >>= readOptions with
  | .error halt => .ofHalt (some verb) halt
  | .ok taken =>
      match extra ++ taken.extra with
      | [] => .perform verb taken
      | unwanted => .misused ⟨none, .unrecognized unwanted⟩

def Request.ofWords (words : List String) : Request :=
  match (classifyAll programSwitches words).mapError Halt.misused >>= readProgram with
  | .error halt => .ofHalt none halt
  | .ok (extra, line) =>
      match line with
      | [] => .misused ⟨none, .noCommand⟩
      | ["--"] => .misused ⟨none, .noCommand⟩
      | name :: words =>
          match Verb.ofName? name with
          | none => .misused ⟨none, .unknownCommand name⟩
          | some verb => .ofVerb verb extra words

end ScriptSplit.Command
