/-!
# Arguments

Reading the arguments of a command line, one level at a time. A level has options, which
are marks or take a value, and either operands or words that lead to the next level. An
option is given by its name behind two hyphens or by its letter behind one; letters may
stand together, and a value may be attached. Behind two hyphens alone there are only
operands.

A value that is an argument of its own is looked at when the next argument comes, unless this
leads to the next level: then it is looked at when that level has been read. So help can be
asked for behind a value that is not accepted.
-/

namespace GatewayConsole

variable {σ τ : Type}

/-! ## Forms -/

/-- What an option does to the record of a command line. Either kind may be refused. -/
inductive OptionEffect (σ : Type)
  | mark (apply : σ → Option σ)
  | value (apply : String → σ → Option σ)

structure OptionForm (σ : Type) where
  name : String
  letter : Option Char
  effect : OptionEffect σ

structure ArgumentLevel (σ : Type) where
  options : List (OptionForm σ)
  commands : List String
  operand : String → σ → Option σ
  tellsVersion : Bool

namespace OptionForm

def mark (name : String) (letter : Option Char) (isSet : σ → Bool) (set : σ → σ) :
    OptionForm σ :=
  ⟨name, letter, .mark fun record => if isSet record then none else some (set record)⟩

def value {α : Type} (name : String) (letter : Option Char) (read : String → Option α)
    (get : σ → Option α) (set : α → σ → σ) : OptionForm σ :=
  ⟨name, letter, .value fun text record =>
    if (get record).isSome then none else (read text).map fun value => set value record⟩

def within (form : OptionForm σ) (get : τ → σ) (set : σ → τ → τ) : OptionForm τ :=
  { name := form.name
    letter := form.letter
    effect := match form.effect with
      | .mark apply => .mark fun record => (apply (get record)).map (set · record)
      | .value apply => .value fun text record => (apply text (get record)).map (set · record) }

end OptionForm

/-! ## Reading -/

/-- How far an argument gets: it is refused, it asks for help or for the version, it is
complete, or its value is to follow. -/
inductive ArgumentStep (σ : Type)
  | refused
  | help
  | version
  | complete (record : σ)
  | needsValue (apply : String → Option σ)

/-- What a level of a command line was read as. Help may be asked for on the words behind.
There is no record in front of a word when the last value there is not accepted. -/
inductive LevelReading (σ : Type)
  | refused
  | help (topic : List String)
  | version
  | finished (record : σ)
  | command (word : String) (rest : List String) (record : Option σ)

/-- What may come next: anything, the value of an option, or only operands. There is no
record behind a value that is not accepted. -/
inductive Expectation (σ : Type)
  | anything (record : Option σ)
  | value (apply : String → Option σ)
  | operands (record : σ)

namespace ArgumentLevel

def stepOf : Option σ → ArgumentStep σ
  | some record => .complete record
  | none => .refused

def readName (level : ArgumentLevel σ) (text : List Char) (record : σ) : ArgumentStep σ :=
  let name := String.ofList (text.takeWhile (· != '='))
  let attached := (text.dropWhile (· != '=')).tail?.map String.ofList
  if name == "help" then if attached.isNone then .help else .refused
  else if name == "version" && level.tellsVersion then
    if attached.isNone then .version else .refused
  else
    match level.options.find? (·.name == name) with
    | none => .refused
    | some form =>
        match form.effect, attached with
        | .mark apply, none => stepOf (apply record)
        | .mark _, some _ => .refused
        | .value apply, some value => stepOf (apply value record)
        | .value apply, none => .needsValue (apply · record)

/-- Read options given by their letters. What follows the letter of an option with a value
is its value; an equals sign between them counts for nothing. -/
def readLetters (level : ArgumentLevel σ) : List Char → σ → ArgumentStep σ
  | [], record => .complete record
  | letter :: rest, record =>
      if letter == 'h' then .help
      else if letter == 'V' && level.tellsVersion then .version
      else
        match level.options.find? (·.letter == some letter) with
        | none => .refused
        | some form =>
            match form.effect, rest with
            | .mark apply, rest =>
                match apply record with
                | some record => level.readLetters rest record
                | none => .refused
            | .value apply, [] => .needsValue (apply · record)
            | .value apply, '=' :: value => stepOf (apply (String.ofList value) record)
            | .value apply, value => stepOf (apply (String.ofList value) record)

def isValue (argument : String) : Bool :=
  argument.toList.head? != some '-' || argument == "-"

def read (level : ArgumentLevel σ) (expected : Expectation σ) : List String → LevelReading σ
  | [] =>
      match expected with
      | .anything (some record) | .operands record => .finished record
      | _ => .refused
  | argument :: rest =>
      let goOn (step : ArgumentStep σ) : LevelReading σ :=
        match step with
        | .refused => .refused
        | .help => .help []
        | .version => .version
        | .complete record => level.read (.anything (some record)) rest
        | .needsValue apply => level.read (.value apply) rest
      match expected with
      | .value apply =>
          if isValue argument then level.read (.anything (apply argument)) rest else .refused
      | .operands record =>
          match level.operand argument record with
          | some record => level.read (.operands record) rest
          | none => .refused
      | .anything record? =>
          if level.commands.contains argument then .command argument rest record?
          else if !level.commands.isEmpty && argument == "help" then .help rest
          else
            match record?, argument.toList with
            | none, _ => .refused
            | some record, ['-', '-'] => level.read (.operands record) rest
            | some record, '-' :: '-' :: text => goOn (level.readName text record)
            | some record, '-' :: letter :: letters =>
                goOn (level.readLetters (letter :: letters) record)
            | some record, _ => goOn (stepOf (level.operand argument record))

def readAll (level : ArgumentLevel σ) (initial : σ) (arguments : List String) :
    LevelReading σ :=
  level.read (.anything (some initial)) arguments

end ArgumentLevel
end GatewayConsole
