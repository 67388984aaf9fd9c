import ScenarioCheck.Cli.Switch
import ScenarioCheck.Project.Path
import ScenarioCheck.Text.Digit
import ScenarioCheck.Text.Quoted

/-! Reading the arguments of the command line. A switch may be cut as long as it stays unique, its
value may stand behind it or be attached, and letters may share one dash. All paths stand next to
each other; a lone double dash makes everything behind it a path. -/
namespace ScenarioCheck.Cli

inductive Format where
  | terminal
  | json
  deriving DecidableEq, Inhabited, Repr

def Format.ofName? (text : String) : Option Format :=
  if text = "terminal" then some .terminal else if text = "json" then some .json else none

structure Options where
  paths : List Path := []
  config? : Option Path := none
  format : Format := .terminal
  output? : Option Path := none
  isPlain : Bool := false
  listsSteps : Bool := false
  isVerbose : Bool := false
  deriving DecidableEq, Inhabited, Repr

inductive Misuse where
  | ambiguous (text : String) (spellings : List String)
  | noValue (s : Switch)
  | needlessValue (s : Switch) (value : String)
  | unknownFormat (value : String)
  | unknown (texts : List String)
  deriving DecidableEq, Repr

def Misuse.message : Misuse → String
  | .ambiguous text spellings =>
    "ambiguous option: " ++ text ++ " could match " ++ ", ".intercalate spellings
  | .noValue s => "argument " ++ s.shown ++ ": expected one argument"
  | .needlessValue s value =>
    "argument " ++ s.shown ++ ": ignored explicit argument " ++ Text.quoted value
  | .unknownFormat value =>
    "argument --format: invalid choice: " ++ Text.quoted value ++
      " (choose from 'terminal', 'json')"
  | .unknown texts => "unrecognized arguments: " ++ " ".intercalate texts

inductive Halt where
  | help
  | misuse (fault : Misuse)
  deriving DecidableEq, Repr

/-! ### Single arguments -/

structure Attached where
  hasSign : Bool
  value : String
  deriving DecidableEq, Repr

inductive Word where
  | plain
  | separator
  /-- Looks like a switch, but there is none of this name. -/
  | stray
  | switch (s : Switch) (isLong : Bool) (attached? : Option Attached)
  deriving DecidableEq, Repr

def cutAtSign (text : List Char) : String × Option String :=
  match text.dropWhile (· ≠ '=') with
  | [] => (String.ofList text, none)
  | _ :: after => (String.ofList (text.takeWhile (· ≠ '=')), some (String.ofList after))

/-- Digits, perhaps with a point before the last ones. A line end behind them does not matter. -/
def isNumber (text : List Char) : Bool :=
  let body := if text.getLast? = some '\n' then text.dropLast else text
  let after := body.dropWhile Text.isDigit
  match after with
  | [] => !body.isEmpty
  | '.' :: more => !more.isEmpty && more.all Text.isDigit
  | _ => false

/-- The long spellings that start with a text. -/
def completionsOf (text : String) : List (String × Switch) :=
  Switch.spelled.filter fun e => text.toList.isPrefixOf e.1.toList

def Word.ofUnknown (text : String) : Word :=
  if isNumber (text.toList.drop 1) || text.toList.contains ' ' then .plain else .stray

/-- Reads an argument before a lone double dash. -/
def Word.ofText (text : String) : Except Misuse Word :=
  match text.toList with
  | '-' :: second :: rest =>
    let (name, value?) := cutAtSign text.toList
    match Switch.ofSpelling? text, value?.bind fun _ => Switch.ofSpelling? name with
    | some s, _ => .ok (.switch s (second = '-') none)
    | none, some s => .ok (.switch s (second = '-') (value?.map (⟨true, ·⟩)))
    | none, none =>
      if second = '-' then
        match completionsOf name with
        | [] => .ok (.ofUnknown text)
        | [(_, s)] => .ok (.switch s true (value?.map (⟨true, ·⟩)))
        | several => .error (.ambiguous text (several.map (·.1)))
      else match Switch.ofSpelling? (String.ofList ['-', second]) with
        | some s => .ok (.switch s false (some ⟨false, String.ofList rest⟩))
        | none => .ok (.ofUnknown text)
  | _ => .ok .plain

/-- Reads all arguments. Behind a lone double dash all are plain. -/
def wordsOf : List String → Except Misuse (List (String × Word))
  | [] => .ok []
  | text :: rest =>
    if text = "--" then .ok ((text, .separator) :: rest.map (·, .plain))
    else do
      let word ← Word.ofText text
      let words ← wordsOf rest
      return (text, word) :: words

/-! ### Letters that share a dash -/

/-- What one argument with a switch asks for: switches with their values, at most one that waits
for its value, and at most one that is unknown. -/
structure Cluster where
  complete : List (Switch × String) := []
  waiting? : Option Switch := none
  unknown? : Option String := none

/-- Reads a value attached to a switch; behind the letter of a switch without a value it holds more
letters. -/
def readAttached (isLong : Bool) (met : List (Switch × String)) (s : Switch) (hasSign : Bool) :
    List Char → Except Misuse Cluster
  | [] => if s.takesValue then .ok { complete := met ++ [(s, "")] } else .error (.needlessValue s "")
  | c :: rest =>
    let value := String.ofList (c :: rest)
    if s.takesValue then .ok { complete := met ++ [(s, value)] }
    else if isLong || hasSign || c = '-' then .error (.needlessValue s value)
    else
      let met := met ++ [(s, "")]
      match Switch.ofSpelling? (String.ofList ['-', c]) with
      | none => .ok { complete := met, unknown? := some (String.ofList ('-' :: c :: rest)) }
      | some next =>
        match rest with
        | [] =>
          .ok (if next.takesValue then { complete := met, waiting? := some next }
            else { complete := met ++ [(next, "")] })
        | '=' :: after => readAttached isLong met next true after
        | d :: after => readAttached isLong met next false (d :: after)

def Cluster.ofSwitch (s : Switch) (isLong : Bool) : Option Attached → Except Misuse Cluster
  | some attached => readAttached isLong [] s attached.hasSign attached.value.toList
  | none => .ok (if s.takesValue then { waiting? := some s } else { complete := [(s, "")] })

/-! ### All arguments -/

inductive Stretch where
  | before
  | inside
  | behind
  deriving DecidableEq, Repr

/-- What has been read of the arguments. A switch that waits for its value keeps those that share
its dash from taking effect. -/
structure Reading where
  options : Options := {}
  stretch : Stretch := .before
  unknown : List String := []
  waiting? : Option (List (Switch × String) × Switch) := none

namespace Reading

def apply (o : Options) : Switch × String → Except Halt Options
  | (.help, _) => .error .help
  | (.config, value) => .ok { o with config? := some (.ofText value) }
  | (.output, value) => .ok { o with output? := some (.ofText value) }
  | (.noColor, _) => .ok { o with isPlain := true }
  | (.listSteps, _) => .ok { o with listsSteps := true }
  | (.verbose, _) => .ok { o with isVerbose := true }
  | (.format, value) =>
    match Format.ofName? value with
    | some format => .ok { o with format }
    | none => .error (.misuse (.unknownFormat value))

def applyAll (o : Options) (switches : List (Switch × String)) : Except Halt Options :=
  switches.foldlM apply o

def step (r : Reading) (text : String) (word : Word) : Except Halt Reading :=
  match r.waiting? with
  | some (met, s) =>
    if word = .plain then do
      let options ← applyAll r.options (met ++ [(s, text)])
      return { r with options, waiting? := none }
    else .error (.misuse (.noValue s))
  | none =>
    let later := if r.stretch = .before then .before else .behind
    match word with
    | .plain =>
      .ok (if r.stretch = .behind then { r with unknown := r.unknown ++ [text] }
        else
          { r with
            options := { r.options with paths := r.options.paths ++ [.ofText text] }
            stretch := .inside })
    | .separator =>
      .ok (if r.stretch = .behind then { r with unknown := r.unknown ++ [text] }
        else { r with stretch := .inside })
    | .stray => .ok { r with stretch := later, unknown := r.unknown ++ [text] }
    | .switch s isLong attached? =>
      match Cluster.ofSwitch s isLong attached? with
      | .error fault => .error (.misuse fault)
      | .ok cluster =>
        let r := { r with stretch := later, unknown := r.unknown ++ cluster.unknown?.toList }
        match cluster.waiting? with
        | some next => .ok { r with waiting? := some (cluster.complete, next) }
        | none => do
          let options ← applyAll r.options cluster.complete
          return { r with options }

def finish (r : Reading) : Except Halt Options :=
  match r.waiting?, r.unknown with
  | some (_, s), _ => .error (.misuse (.noValue s))
  | none, [] => .ok r.options
  | none, texts => .error (.misuse (.unknown texts))

end Reading

def Options.ofArguments (arguments : List String) : Except Halt Options :=
  match wordsOf arguments with
  | .error fault => .error (.misuse fault)
  | .ok words => do
    let r ← words.foldlM (fun r (text, word) => r.step text word) ({} : Reading)
    r.finish

end ScenarioCheck.Cli
