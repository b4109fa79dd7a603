import Recon.Cli.Invocation
import Recon.Text.Lines

/-! Reading the words of a command line. The program and each of its commands are levels of their own: a
level knows its options and the words that it takes in place, and reads its words one by one. An option's
value may come with it or as the next word; a value that came as a word is looked at when the next option
or word in place begins, or when the level ends. -/
namespace Recon.Cli

/-- A word of a command line by its form. -/
inductive Word where
  /-- Two hyphens: what follows is taken as it stands. -/
  | escape
  /-- A name after two hyphens, with what follows its first equals sign. -/
  | long (name : List Char) (value : Option (List Char))
  /-- Letters after one hyphen. -/
  | short (letters : List Char)
  | plain
deriving DecidableEq, Repr

namespace Word

/-- A single hyphen and the empty word are plain. -/
def ofText : List Char → Word
  | ['-','-'] => .escape
  | '-' :: '-' :: cs =>
    match Text.splitOnce '=' cs with
    | none => .long cs none
    | some (name,value) => .long name (some value)
  | ['-'] => .plain
  | '-' :: cs => .short cs
  | _ => .plain

end Word

/-- Why a command line is not carried out. -/
inductive UsageError where
  | helpRequested
  | versionRequested
  /-- There is no command and nothing else either. -/
  | nothingGiven
  | missingCommand
  | unknownCommand
  | unknownArgument
  /-- An option without its value, or a path that is empty. -/
  | missingValue
  /-- A value for an option that takes none. -/
  | surplusValue
  | invalidValue
  /-- An option given twice, or two that exclude each other. -/
  | conflict
  | missingArgument
deriving DecidableEq, Repr

/-- Asking for help or for the version is no failure. -/
def UsageError.exitCode : UsageError → Nat
  | .helpRequested | .versionRequested => 0
  | _ => 2

/-- Where a value belongs. -/
inductive Slot where
  | settingsFile | tool | template | pipelineFile | project | target | option | timeout
deriving DecidableEq, Repr

/-- What an option does. -/
inductive Effect where
  | verbose | help | version
  | takes (slot : Slot)
deriving DecidableEq, Repr

structure OptionRule where
  letter : Option Char
  name : String
  effect : Effect

/-- The rules of a level: the commands that it knows, its options, and the slot of its word in place. -/
structure Level where
  commands : List String := []
  options : List OptionRule
  inPlace : Option Slot := none

namespace Level

/-- Options that every level knows. -/
def common : List OptionRule :=
  [⟨some 'v',"verbose",.verbose⟩,⟨some 'c',"config",.takes .settingsFile⟩,⟨some 'h',"help",.help⟩]

/-- Options that name what is scanned. -/
def subject : List OptionRule :=
  [⟨some 'p',"project",.takes .project⟩,⟨some 't',"target",.takes .target⟩]

def program : Level where
  commands := ["tools","pipelines","pipeline","scan","help"]
  options := common ++ [⟨some 'V',"version",.version⟩]

def listing : Level := ⟨[],common,none⟩

def pipeline : Level where
  options := common ++ subject ++ [⟨some 'f',"file",.takes .pipelineFile⟩]
  inPlace := some .template

def scan : Level where
  options := common ++ subject ++ [⟨some 'o',"option",.takes .option⟩,⟨none,"timeout",.takes .timeout⟩]
  inPlace := some .tool

def effectOfName? (l : Level) (name : List Char) : Option Effect :=
  (l.options.find? (·.name.toList == name)).map (·.effect)

def effectOfLetter? (l : Level) (letter : Char) : Option Effect :=
  (l.options.find? (·.letter == some letter)).map (·.effect)

end Level

/-- The values that a level has taken. -/
structure Given where
  verbosity : Nat := 0
  settingsFile : Option String := none
  tool : Option String := none
  template : Option String := none
  pipelineFile : Option String := none
  project : Option UInt64 := none
  target : Option String := none
  options : List (String × String) := []
  timeout : Option String := none

namespace Given

/-- A value for a slot that may be filled once. -/
def once {α : Type} (old : Option α) (new : Except UsageError α) : Except UsageError (Option α) :=
  if old.isSome then .error .conflict else new.map some

def path (s : String) : Except UsageError String := if s.isEmpty then .error .missingValue else .ok s

def projectId (s : String) : Except UsageError UInt64 :=
  ((Text.readSignedBelow? UInt64.size s.toList).map UInt64.ofNat).elim (.error .invalidValue) .ok

/-- Puts a value into its slot. Only options of a scan may be given more than once. -/
def put (g : Given) (slot : Slot) (s : String) : Except UsageError Given :=
  match slot with
  | .settingsFile => (once g.settingsFile (path s)).map fun v => { g with settingsFile := v }
  | .tool => (once g.tool (.ok s)).map fun v => { g with tool := v }
  | .template => (once g.template (.ok s)).map fun v => { g with template := v }
  | .pipelineFile => (once g.pipelineFile (path s)).map fun v => { g with pipelineFile := v }
  | .project => (once g.project (projectId s)).map fun v => { g with project := v }
  | .target => (once g.target (.ok s)).map fun v => { g with target := v }
  | .timeout => (once g.timeout (.ok s)).map fun v => { g with timeout := v }
  | .option =>
    match readOption? s with
    | none => .error .invalidValue
    | some o => .ok { g with options := g.options ++ [o] }

/-- What an option without a value does. -/
def raise (g : Given) : Effect → Except UsageError Given
  | .verbose => .ok { g with verbosity := min (g.verbosity + 1) 255 }
  | .help => .error .helpRequested
  | .version => .error .versionRequested
  | .takes _ => .error .missingValue

end Given

/-- A level while its words are read. -/
structure Reading where
  given : Given := {}
  /-- A slot whose value has not been looked at yet, with the value if there is one. -/
  pending : Option (Slot × Option String) := none
  /-- Whether words are taken as they stand. -/
  escaped : Bool := false
  /-- Whether the word in place has been seen. -/
  placed : Bool := false

namespace Reading

/-- Looks at the pending value. -/
def settle (r : Reading) : Except UsageError Reading :=
  match r.pending with
  | none => .ok r
  | some (_,none) => .error .missingValue
  | some (slot,some s) => (r.given.put slot s).map fun g => { r with given := g, pending := none }

/-- The slot that the next word belongs to, when it can only be a value. -/
def awaits (r : Reading) : Option Slot :=
  match r.pending with
  | some (slot,none) => if r.escaped then none else some slot
  | _ => none

/-- A value that comes with its option. -/
def put (r : Reading) (slot : Slot) (cs : List Char) : Except UsageError Reading :=
  r.settle.bind fun r => (r.given.put slot (String.ofList cs)).map fun g => { r with given := g }

/-- An option whose value is to come. -/
def await (r : Reading) (slot : Slot) : Except UsageError Reading :=
  r.settle.map fun r => { r with pending := some (slot,none) }

def raise (r : Reading) (e : Effect) : Except UsageError Reading :=
  r.settle.bind fun r => (r.given.raise e).map fun g => { r with given := g }

/-- An option by its name. -/
def long (l : Level) (r : Reading) (name : List Char) (value : Option (List Char)) : Except UsageError Reading :=
  match l.effectOfName? name,value with
  | none,_ => .error .unknownArgument
  | some (.takes slot),some value => r.put slot value
  | some (.takes slot),none => r.await slot
  | some _,some _ => .error .surplusValue
  | some e,none => r.raise e

/-- Options by their letters; one that takes a value takes the rest, less an equals sign in front. -/
def short (l : Level) : List Char → Reading → Except UsageError Reading
  | [],r => .ok r
  | c :: cs,r =>
    match l.effectOfLetter? c with
    | none => .error .unknownArgument
    | some (.takes slot) =>
      match cs with
      | [] => r.await slot
      | '=' :: value => r.put slot value
      | value => r.put slot value
    | some e => (r.raise e).bind (short l cs)

/-- A word in place. Where commands are expected it is none of them, or comes after the escape. -/
def place (l : Level) (r : Reading) (s : String) : Except UsageError Reading :=
  match l.inPlace with
  | some slot =>
    if r.placed then .error .unknownArgument
    else r.settle.map fun r => { r with pending := some (slot,some s), placed := true }
  | none =>
    if l.commands.isEmpty || (r.escaped && l.commands.contains s) then .error .unknownArgument
    else .error .unknownCommand

def word (l : Level) (r : Reading) (s : String) : Except UsageError Reading :=
  if r.escaped then r.place l s
  else match Word.ofText s.toList with
    | .escape => .ok { r with escaped := true }
    | .long name value => r.long l name value
    | .short letters => short l letters r
    | .plain =>
      match r.awaits with
      | some slot => .ok { r with pending := some (slot,some s) }
      | none => r.place l s

/-- The words up to a command, and the command with the words after it. -/
def words (l : Level) : Reading → List String → Except UsageError (Reading × Option (String × List String))
  | r,[] => .ok (r,none)
  | r,s :: rest =>
    if !r.escaped && r.awaits.isNone && l.commands.contains s then .ok (r,some (s,rest))
    else (r.word l s).bind fun r => words l r rest

/-- The end of a level: what it was given, with the settings file of the environment if it was given
none. A path that is empty is an error in either place. -/
def close (environment : Option String) (r : Reading) : Except UsageError (Given × Option String) :=
  r.settle.bind fun r =>
    match r.given.settingsFile,environment with
    | none,some path => (Given.path path).map fun path => (r.given,some path)
    | _,_ => .ok (r.given,none)

end Reading

/-- The words after a command. -/
def readLevel (l : Level) (environment : Option String) (words : List String) : Except UsageError Given :=
  (Reading.words l {} words).bind fun (r,_) => (r.close environment).map (·.1)

namespace Given

def required {α : Type} (a : Option α) : Except UsageError α := a.elim (.error .missingArgument) .ok

/-- A pipeline has a name or a file, never both. -/
def source (g : Given) : Except UsageError PipelineSource :=
  match g.template,g.pipelineFile with
  | some _,some _ => .error .conflict
  | some name,none => .ok (.template name)
  | none,some path => .ok (.file path)
  | none,none => .error .missingArgument

def pipelineRequest (g : Given) : Except UsageError PipelineRequest := do
  let source ← g.source
  let project ← required g.project
  let target ← required g.target
  return ⟨source,project,target⟩

def scanRequest (g : Given) : Except UsageError ScanRequest := do
  let tool ← required g.tool
  let project ← required g.project
  let target ← required g.target
  return ⟨tool,project,target,g.options,g.timeout⟩

end Given

/-- Help on a command, which is named by one word at most. -/
def helpOn : List String → UsageError
  | [] => .helpRequested
  | [s] => if Level.program.commands.contains s then .helpRequested else .unknownCommand
  | _ => .unknownCommand

/-- A command with its words: what the level was given and the task. -/
def readCommand (environment : Option String) (command : String) (words : List String) :
    Except UsageError (Given × Task) :=
  match command with
  | "tools" => (readLevel .listing environment words).map fun g => (g,.listTools)
  | "pipelines" => (readLevel .listing environment words).map fun g => (g,.listTemplates)
  | "pipeline" =>
    (readLevel .pipeline environment words).bind fun g => g.pipelineRequest.map fun r => (g,.pipeline r)
  | "scan" => (readLevel .scan environment words).bind fun g => g.scanRequest.map fun r => (g,.scan r)
  | _ => .error (helpOn words)

/-- What the words ask for; `environment` names a settings file where the words do not. What is given
after the command counts before what is given in front of it. -/
def readArguments (environment : Option String) (words : List String) : Except UsageError Invocation :=
  (Reading.words .program {} words).bind fun (r,command) =>
    match command with
    | none =>
      (r.close environment).bind fun (g,path) =>
        if g.verbosity = 0 && g.settingsFile.isNone && path.isNone then .error .nothingGiven
        else .error .missingCommand
    | some (command,words) =>
      (readCommand environment command words).bind fun (inner,task) =>
        (r.close environment).map fun (outer,path) =>
          { verbosity := if inner.verbosity = 0 then outer.verbosity else inner.verbosity
            settingsFile := (inner.settingsFile.or outer.settingsFile).or path
            task := task }

end Recon.Cli
