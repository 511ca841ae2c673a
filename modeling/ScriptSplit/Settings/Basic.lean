import ScriptSplit.Path
import ScriptSplit.Settings.Value
import ScriptSplit.Split
import ScriptSplit.Text.Blank
import ScriptSplit.Text.Identifier
import ScriptSplit.Text.LowerCase

namespace ScriptSplit

structure Settings extends Options where
  inputPath : Path
  localsOut : Path
  mainOut : Path
  deriving DecidableEq, Repr

inductive Field where
  | localsName
  | entryName
  | dialect
  | legacyScoping
  | inputPath
  | localsOut
  | mainOut
  deriving DecidableEq, Repr

def Field.all : List Field :=
  [.localsName, .entryName, .dialect, .legacyScoping, .inputPath, .localsOut, .mainOut]

def Field.name : Field → String
  | .localsName => "locals_name"
  | .entryName => "entry_name"
  | .dialect => "dialect"
  | .legacyScoping => "legacy_scoping"
  | .inputPath => "input_path"
  | .localsOut => "locals_out"
  | .mainOut => "main_out"

inductive Flaw where
  | notText
  | notIdentifier (given : String)
  | notDialect (given : String)
  | unclearBoolean
  | notBoolean
  | notPath
  deriving DecidableEq, Repr

def Flaw.type : Flaw → String
  | .notText => "string_type"
  | .notIdentifier _ => "value_error"
  | .notDialect _ => "value_error"
  | .unclearBoolean => "bool_parsing"
  | .notBoolean => "bool_type"
  | .notPath => "path_type"

def Flaw.message : Flaw → String
  | .notText => "Input should be a valid string"
  | .notIdentifier given => s!"Value error, '{given}' is not a valid identifier"
  | .notDialect given =>
      s!"Value error, Unknown dialect: '{given}'. Supported dialects: ['typescript', 'tsx']"
  | .unclearBoolean => "Input should be a valid boolean, unable to interpret input"
  | .notBoolean => "Input should be a valid boolean"
  | .notPath => "Input is not a valid path for <class 'pathlib.Path'>"

namespace Value

def asText : Value → Except Flaw String
  | .text s => .ok s
  | _ => .error .notText

/-- A name may hold dollar signs anywhere, and blanks around it are dropped. -/
def asName (v : Value) : Except Flaw String := do
  let given ← v.asText
  let name := Text.trim given.toList
  if Text.isIdentifier (name.map fun c => if c = '$' then '_' else c) then
    return String.ofList name
  else throw (.notIdentifier given)

def asDialect (v : Value) : Except Flaw Dialect := do
  let given ← v.asText
  let name := String.ofList (Text.trim (Text.lower given.toList))
  match Dialect.ofName? name with
  | some d => return d
  | none => throw (.notDialect name)

def yesWords : List String := ["1", "true", "t", "yes", "y", "on"]

def noWords : List String := ["0", "false", "f", "no", "n", "off"]

/-- A word for a Boolean, in whatever ASCII letters. -/
def wordBool (s : String) : Except Flaw Bool :=
  let word := String.ofList (s.toList.map Char.toLower)
  if yesWords.contains word then .ok true
  else if noWords.contains word then .ok false
  else .error .unclearBoolean

def numberBool (i : Int) : Except Flaw Bool :=
  if i = 1 then .ok true else if i = 0 then .ok false else .error .unclearBoolean

def isWord (i : Int) : Bool := -Int.pow 2 63 ≤ i && i < Int.pow 2 63

/-- A number that is not a whole one of 64 bits is no word for a Boolean at all. The least of them
does not count where it is written as a fraction. -/
def asBool : Value → Except Flaw Bool
  | .bool b => .ok b
  | .int i => if isWord i then numberBool i else .error .notBoolean
  | .fraction (some i) => if isWord i ∧ i ≠ -Int.pow 2 63 then numberBool i else .error .notBoolean
  | .text s => wordBool s
  | _ => .error .notBoolean

def asPath : Value → Except Flaw Path
  | .text s => .ok (Path.ofString s)
  | _ => .error .notPath

end Value

structure Given where
  localsName : Option Value
  entryName : Option Value
  dialect : Option Value
  legacyScoping : Option Value
  inputPath : Option Value
  localsOut : Option Value
  mainOut : Option Value

def Given.nothing : Given := ⟨none, none, none, none, none, none, none⟩

def Given.ofFields (fields : List (String × Value)) : Given where
  localsName := Value.lookup fields Field.localsName.name
  entryName := Value.lookup fields Field.entryName.name
  dialect := Value.lookup fields Field.dialect.name
  legacyScoping := Value.lookup fields Field.legacyScoping.name
  inputPath := Value.lookup fields Field.inputPath.name
  localsOut := Value.lookup fields Field.localsOut.name
  mainOut := Value.lookup fields Field.mainOut.name

namespace Settings

def default : Settings where
  localsName := "__locals__"
  entryName := "app"
  dialect := .typescript
  legacy := false
  inputPath := ⟨.relative, ["in", "in.ts"]⟩
  localsOut := ⟨.relative, ["out", "locals.ts"]⟩
  mainOut := ⟨.relative, ["out", "main.ts"]⟩

def field {α : Type} (f : Field) (d : α) (read : Value → Except Flaw α) (v : Option Value) :
    Except (Field × Flaw) α :=
  match v with
  | none => .ok d
  | some v => (read v).mapError fun flaw => (f, flaw)

def flawOf {ε α : Type} : Except ε α → List ε
  | .ok _ => []
  | .error e => [e]

/-- Settings from given values, or every flaw in the order of the fields. -/
def ofGiven (g : Given) : Except (List (Field × Flaw)) Settings :=
  let localsName := field .localsName default.localsName Value.asName g.localsName
  let entryName := field .entryName default.entryName Value.asName g.entryName
  let dialect := field .dialect default.dialect Value.asDialect g.dialect
  let legacy := field .legacyScoping default.legacy Value.asBool g.legacyScoping
  let inputPath := field .inputPath default.inputPath Value.asPath g.inputPath
  let localsOut := field .localsOut default.localsOut Value.asPath g.localsOut
  let mainOut := field .mainOut default.mainOut Value.asPath g.mainOut
  match localsName, entryName, dialect, legacy, inputPath, localsOut, mainOut with
  | .ok localsName, .ok entryName, .ok dialect, .ok legacy, .ok inputPath, .ok localsOut,
    .ok mainOut =>
      .ok { localsName, entryName, dialect, legacy, inputPath, localsOut, mainOut }
  | _, _, _, _, _, _, _ =>
      .error (flawOf localsName ++ flawOf entryName ++ flawOf dialect ++ flawOf legacy ++
        flawOf inputPath ++ flawOf localsOut ++ flawOf mainOut)

end Settings

end ScriptSplit
