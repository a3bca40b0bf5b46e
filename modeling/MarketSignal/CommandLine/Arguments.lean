/-
How the words of a command line are understood. The first word names a command. Each command needs
a fixed number of further words and takes some switches, which may stand anywhere among the words.
A switch may be shortened as long as it stays unambiguous, and its value follows it or is joined to
it with an equals sign. After a double dash nothing is a switch any more.

A word that starts with a dash counts as a switch, known or not, unless it is a number, holds a
blank, or is the dash alone. Whatever is left over, missing or ambiguous makes the line misused.
-/
import MarketSignal.Settings.Basic

namespace MarketSignal

/-! ### Commands and switches -/

/-- The commands. -/
inductive CommandName where
  | list
  | display
  | evaluate
  | predict
  | assignments
  | assign
  | unassign
  | backUp
  | restore
  | lint
deriving DecidableEq, Repr

/-- The switches. -/
inductive Switch where
  | help
  | settingsFile
  | dataFolder
  | store
  | outbox
  | seed
  | values
  | output
  | strict
deriving DecidableEq, Repr

namespace CommandName

/-- The word that names a command. -/
def word : CommandName → String
  | .list => "list"
  | .display => "show"
  | .evaluate => "evaluate"
  | .predict => "predict"
  | .assignments => "assignments"
  | .assign => "assign"
  | .unassign => "unassign"
  | .backUp => "export"
  | .restore => "import"
  | .lint => "lint"

/-- All commands. -/
def all : List CommandName :=
  [.list, .display, .evaluate, .predict, .assignments, .assign, .unassign, .backUp, .restore,
    .lint]

/-- The command that a word names. -/
def ofWord? (word : String) : Option CommandName := all.find? fun command => command.word == word

theorem ofWord?_word (command : CommandName) : ofWord? command.word = some command := by
  cases command <;> decide

/-- How many further words a command needs. -/
def wordCount : CommandName → Nat
  | .display => 1
  | .evaluate => 1
  | .assign => 2
  | .unassign => 1
  | .restore => 1
  | _ => 0

/-- The switches that a command takes besides those that all take. -/
def ownSwitches : CommandName → List Switch
  | .evaluate => [.values]
  | .predict => [.values]
  | .backUp => [.output]
  | .restore => [.strict]
  | _ => []

/-- The switches that a command takes. -/
def switches (command : CommandName) : List Switch :=
  [.help, .settingsFile, .dataFolder, .store, .outbox, .seed] ++ command.ownSwitches

end CommandName

namespace Switch

/-- The name of a switch. -/
def name : Switch → String
  | .help => "--help"
  | .settingsFile => "--config"
  | .dataFolder => "--data-dir"
  | .store => "--primary-store"
  | .outbox => "--sink-url"
  | .seed => "--bootstrap"
  | .values => "--values"
  | .output => "--output"
  | .strict => "--strict"

/-- Whether a switch has a value. -/
def hasValue : Switch → Bool
  | .help => false
  | .strict => false
  | _ => true

/-- Whether a switch takes a value. Only some names choose a record store. -/
def accepts (switch : Switch) (value : String) : Bool :=
  match switch with
  | .store => (StoreKind.ofName? value).isSome
  | _ => true

end Switch

/-! ### Telling words from switches -/

/-- What a part of the command line is. -/
inductive Token where
  | word (text : String)
  | switch (switch : Switch) (value : Option String)
  | unknown
  | divider
deriving DecidableEq, Repr

/-- Why a command line is not carried out. -/
inductive Refusal where
  | misuse
  | help
deriving DecidableEq, Repr

/-- Digits of any script at the start of a text, and the rest. -/
def spanAnyDigits (text : List Char) : List Char × List Char :=
  text.span fun c => (Text.digitValue? c).isSome

/-- Whether a text, but for its dash, is a number: digits, or digits after a point that may have
digits before it. A line feed may follow. -/
def isUnsignedNumber (text : List Char) : Bool :=
  let ends := fun (rest : List Char) => rest = [] ∨ rest = ['\n']
  match spanAnyDigits text with
  | (_, '.' :: rest) =>
    let (after, final) := spanAnyDigits rest
    !after.isEmpty && decide (ends final)
  | (before, rest) => !before.isEmpty && decide (ends rest)

/-- The part of a text before the first equals sign, and the part after it if there is one. -/
def splitAtEquals (text : List Char) : List Char × Option (List Char) :=
  match text.span fun c => c != '=' with
  | (before, _ :: after) => (before, some after)
  | (before, []) => (before, none)

/-- The switches, among those taken, that a name starting with two dashes may stand for: the one of
that name, or all whose names it starts. -/
def candidates (taken : List Switch) (name : List Char) : List Switch :=
  match taken.find? fun switch => switch.name.toList == name with
  | some switch => [switch]
  | none => taken.filter fun switch => name.isPrefixOf switch.name.toList

/-- A part of the command line that is no switch by its form. -/
def tokenOfOther (text : String) : Token :=
  match text.toList with
  | _ :: rest =>
    if isUnsignedNumber rest || text.toList.contains ' ' then .word text else .unknown
  | [] => .word text

/-- A part of the command line that starts with the short form of the help switch. Short switches
can be joined; what cannot be one of them comes too late to matter, unless it reads as a value. -/
def tokenOfShortHelp (more : List Char) : Token :=
  match more.dropWhile fun c => c == 'h' with
  | '=' :: value => .switch .help (some (String.ofList value))
  | '-' :: value => .switch .help (some (String.ofList value))
  | _ => .switch .help none

/-- Tells a word from a switch. -/
def tokenOf (taken : List Switch) (text : String) : Except Refusal Token :=
  match text.toList with
  | '-' :: '-' :: _ =>
    let (name, value) := splitAtEquals text.toList
    match candidates taken name with
    | [switch] => .ok (.switch switch (value.map String.ofList))
    | [] => .ok (tokenOfOther text)
    | _ => .error .misuse
  | '-' :: 'h' :: more => .ok (tokenOfShortHelp more)
  | ['-'] => .ok (.word text)
  | '-' :: _ => .ok (tokenOfOther text)
  | _ => .ok (.word text)

/-- Tells words from switches up to the first double dash; what follows it are words. -/
def tokensOf (taken : List Switch) : List String → Except Refusal (List Token)
  | [] => .ok []
  | "--" :: rest => .ok (.divider :: rest.map .word)
  | text :: rest => do
    let token ← tokenOf taken text
    return token :: (← tokensOf taken rest)

/-! ### Gathering words and switches -/

/-- What a command line holds: words, values of switches with the last one first, and whether
something is left over. A double dash where a word is wanted is a word without text. -/
structure Gathered where
  words : List (Option String)
  values : List (Switch × String)
  surplus : Bool
deriving Repr

namespace Gathered

/-- Nothing. -/
def nothing : Gathered := ⟨[], [], false⟩

/-- Adds a word in front. -/
def withWord (gathered : Gathered) (word : Option String) : Gathered :=
  { gathered with words := word :: gathered.words }

/-- Adds a switch in front. -/
def withSwitch (gathered : Gathered) (switch : Switch) (value : String) : Gathered :=
  { gathered with values := gathered.values ++ [(switch, value)] }

/-- Something is left over. -/
def withSurplus (gathered : Gathered) : Gathered := { gathered with surplus := true }

/-- The value of a switch: the one given last. -/
def value? (gathered : Gathered) (switch : Switch) : Option String :=
  (gathered.values.find? fun entry => entry.1 == switch).map Prod.snd

end Gathered

/-- The value that a switch ends up with, as far as it takes it. -/
def taken (switch : Switch) (value : String) : Except Refusal String :=
  if switch.accepts value then .ok value else .error .misuse

/-- The text of a word that no double dash belongs to. -/
def plainWord (text : String) : Option String := if text = "--" then none else some text

/-- Gathers words and switches, given the switch that waits for its value and how many words are
still wanted. The first double dash belongs to the word beside it. -/
def gather : Option Switch → Nat → List Token → Except Refusal Gathered
  | none, _, [] => .ok .nothing
  | some _, _, [] => .error .misuse
  | some switch, wanted, .word value :: rest => do
    let value ← taken switch value
    return (← gather none wanted rest).withSwitch switch value
  | some _, _, _ :: _ => .error .misuse
  | none, 0, .word _ :: rest => return (← gather none 0 rest).withSurplus
  | none, wanted + 1, .word text :: .divider :: rest =>
    return (← gather none wanted rest).withWord text
  | none, wanted + 1, .word text :: rest =>
    return (← gather none wanted rest).withWord (plainWord text)
  | none, wanted + 1, .divider :: .word text :: rest =>
    return (← gather none wanted rest).withWord text
  | none, wanted, .divider :: rest => return (← gather none wanted rest).withSurplus
  | none, wanted, .unknown :: rest => return (← gather none wanted rest).withSurplus
  | none, _, .switch .help none :: _ => .error .help
  | none, wanted, .switch switch (some value) :: rest =>
    if switch.hasValue then do
      let value ← taken switch value
      return (← gather none wanted rest).withSwitch switch value
    else .error .misuse
  | none, wanted, .switch switch none :: rest =>
    if switch.hasValue then gather (some switch) wanted rest
    else do return (← gather none wanted rest).withSwitch switch ""

/-! ### Invocations -/

/-- What is asked for. A value that is left out or empty is none, and so is the identity in an
assignment if the word for it has no text. -/
inductive Command where
  | list
  | display (id : String)
  | evaluate (id : String) (values : Option String)
  | predict (values : Option String)
  | assignments
  | assign (market : String) (id : Option String)
  | unassign (market : String)
  | backUp (target : Option String)
  | restore (source : String) (strict : Bool)
  | lint
deriving DecidableEq, Repr

/-- A command with the settings that come along with it. -/
structure Invocation where
  command : Command
  settingsFile : Option String
  dataFolder : Option String
  store : Option String
  outbox : Option String
  seed : Option String
deriving DecidableEq, Repr

/-- The command that a name and the words after it make. -/
def CommandName.command? (name : CommandName) (gathered : Gathered) : Option Command :=
  let given := fun switch => (gathered.value? switch).filter fun value => !value.isEmpty
  match name, gathered.words with
  | .list, [] => some .list
  | .display, [some id] => some (.display id)
  | .evaluate, [some id] => some (.evaluate id (given .values))
  | .predict, [] => some (.predict (given .values))
  | .assignments, [] => some .assignments
  | .assign, [some market, id] => some (.assign market id)
  | .unassign, [some market] => some (.unassign market)
  | .backUp, [] => some (.backUp (given .output))
  | .restore, [some source] => some (.restore source (gathered.value? .strict).isSome)
  | .lint, [] => some .lint
  | _, _ => none

/-- Understands a command line behind the word that names the command. -/
def CommandName.invocation (name : CommandName) (words : List String) :
    Except Refusal Invocation := do
  let gathered ← gather none name.wordCount (← tokensOf name.switches words)
  let given := fun switch => (gathered.value? switch).filter fun value => !value.isEmpty
  match gathered.surplus, name.command? gathered with
  | false, some command =>
    return ⟨command, given .settingsFile, given .dataFolder, given .store, given .outbox,
      given .seed⟩
  | _, _ => throw .misuse

/-- Makes a command line misused for what stands before the rest of it. Help that the rest asks for
is still given. -/
def Refusal.unlessHelp {Result : Type} (rest : Except Refusal Result) : Refusal :=
  match rest with
  | .error .help => .help
  | _ => .misuse

/-- Understands a command line. -/
def Invocation.ofWords : List String → Except Refusal Invocation
  | [] => .error .misuse
  | "--" :: _ => .error .misuse
  | first :: rest => do
    match ← tokenOf [.help] first with
    | .word _ =>
      match CommandName.ofWord? first with
      | some name => name.invocation rest
      | none => throw .misuse
    | .switch _ none => throw .help
    | .unknown => throw (Refusal.unlessHelp (ofWords rest))
    | _ => throw .misuse

end MarketSignal
