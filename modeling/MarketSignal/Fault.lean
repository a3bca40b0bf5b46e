/-
Everything that can go wrong, by cause. Each fault has one wording, which notices and answers show.
The first six are the faults of this program's own making: what a document, a draft, a store or an
outbox refuses. The others come from below, from files, exchanges and numbers, and are passed on
unless a rule says otherwise.
-/
import MarketSignal.Json.Reader
import MarketSignal.Json.Literal
import MarketSignal.Text.Utf8

namespace MarketSignal

/-- Why the file system refuses. -/
inductive FileTrouble where
  | absent
  | occupied
  | notFolder
  | folder
  | nameTooLong
  | device
deriving DecidableEq, Repr

/-- The number and the wording of a refusal. -/
def FileTrouble.message : FileTrouble → String
  | .absent => "[Errno 2] No such file or directory"
  | .occupied => "[Errno 17] File exists"
  | .notFolder => "[Errno 20] Not a directory"
  | .folder => "[Errno 21] Is a directory"
  | .nameTooLong => "[Errno 36] File name too long"
  | .device => "[Errno 5] Input/output error"

/-- The causes of failure. -/
inductive Fault where
  /-- A document without the expected shape, and the place of the flaw. -/
  | malformed (path detail : String)
  /-- A document that violates the named schema, and the place of the violation. -/
  | violation (schema path detail : String)
  /-- Something of the given kind is not there. -/
  | notFound (kind : String) (key : Json)
  /-- A store cannot complete a read or a write. -/
  | storage (text : String)
  /-- An outbox cannot deliver; with the status of the answer, if there was one. -/
  | delivery (text : String) (status : Option Int)
  /-- A command is refused. -/
  | refused (text : String)
  /-- A setting is refused. -/
  | setting (text : String)
  /-- A text is not the text of a value. -/
  | misread (misread : Json.Misread)
  /-- A whole number is too long to be written. -/
  | longNumber
  /-- Bytes are not the bytes of a text. -/
  | undecodable (damage : Text.Damage)
  /-- The file system refuses a path. -/
  | file (trouble : FileTrouble) (path : String)
  /-- A path holds the character zero. -/
  | zeroInPath
  /-- An exchange is answered with an error. -/
  | answered (text : String)
  /-- An exchange of the given kind of failure is not answered. -/
  | exchange (kind text : String)
  /-- A source is out of reach. -/
  | unreachable (text : String)
  /-- A value is no object, or no text, where one is needed. -/
  | wrongShape
  /-- A value is of a kind that the operation does not take. -/
  | wrongKind
  /-- A number does not fit. -/
  | tooLarge
  /-- A text or the number that is none stands where a number is needed. -/
  | notNumber
  /-- A name is not in a table. -/
  | absentName (name : Json)

namespace Fault

/-- The wording of a fault. -/
def message : Fault → String
  | .malformed path detail => path ++ ": " ++ detail
  | .violation _ path detail => path ++ ": " ++ detail
  | .notFound kind key => kind ++ " not found: " ++ String.ofList key.shown
  | .storage text => text
  | .delivery text _ => text
  | .refused text => text
  | .setting text => text
  | .misread reason => reason.message
  | .longNumber =>
    "Exceeds the limit (4300 digits) for integer string conversion; use " ++
      "sys.set_int_max_str_digits() to increase the limit"
  | .undecodable damage => damage.message
  | .file trouble path => trouble.message ++ ": " ++ Text.quoted path
  | .zeroInPath => "embedded null byte"
  | .answered text => text
  | .exchange _ text => text
  | .unreachable text => text
  | .wrongShape => "the value has not the expected shape"
  | .wrongKind => "the value is not of the expected kind"
  | .tooLarge => "int too large to convert to float"
  | .notNumber => "the value is not a number"
  | .absentName name => String.ofList name.literal

/-- Whether a fault is of the program's own making, so that a command reports it in one line. -/
def isOwn : Fault → Bool
  | .malformed .. | .violation .. | .notFound .. | .storage _ | .delivery .. | .refused _ => true
  | _ => false

/-- Whether a fault is a store's or an outbox's refusal. -/
def isStorage : Fault → Bool
  | .storage _ | .delivery .. => true
  | _ => false

/-- Whether a fault is a flaw in the shape of a document. -/
def isFormat : Fault → Bool
  | .malformed .. | .violation .. => true
  | _ => false

/-- Whether a fault is a refusal of the file system. -/
def isFile : Fault → Bool
  | .file .. => true
  | _ => false

end Fault

/-- A value that must be shown by itself. -/
def Json.display (value : Json) : Except Fault String :=
  match value.shown? with
  | some text => .ok text
  | none => .error .longNumber

/-- A value that must be spelled out. -/
def Json.spell (value : Json) : Except Fault String :=
  match value.literal? with
  | some text => .ok text
  | none => .error .longNumber

/-- A value that must be written on one line. -/
def Json.writeLine (value : Json) : Except Fault String :=
  if value.hasLongNumber then .error .longNumber else .ok value.line

/-- A value that must be written over several lines. -/
def Json.writePage (value : Json) : Except Fault String :=
  if value.hasLongNumber then .error .longNumber else .ok value.page

/-- A value that must be read from a text. -/
def Json.load (text : String) : Except Fault Json :=
  match Json.read text with
  | .ok value => .ok value
  | .error misread => .error (.misread misread)

/-! ### Values that serve as lists and tables -/

/-- What a value is made of, one after another: items, names or characters. -/
def Json.elements? : Json → Option (List Json)
  | .arr items => some items
  | .obj members => some (members.map fun entry => .str entry.1)
  | .str text => some (text.toList.map fun c => .str (String.singleton c))
  | _ => none

/-- The elements of a value that must have some. -/
def Json.elements (value : Json) : Except Fault (List Json) :=
  match value.elements? with
  | some elements => .ok elements
  | none => .error .wrongKind

/-- The name and the value that a value of two elements makes. -/
def Json.pair (value : Json) : Except Fault (String × Json) := do
  match ← value.elements with
  | [first, second] =>
    if first.isKey then return (← first.display, second) else throw .wrongKind
  | _ => throw .notNumber

/-- A value that serves as an object: an object itself, or the pairs that a value is made of. -/
def Json.asObject (value : Json) : Except Fault (Table Json) := do
  match value with
  | .obj members => return Table.ofEntries members
  | other => return Table.ofEntries (← (← other.elements).mapM Json.pair)

/-- The entry of a table under a value, with its name. Only a text can be the name of an entry; a
list or an object cannot even be looked up. -/
def Table.lookUp {Value : Type} (table : Table Value) (key : Json) :
    Except Fault (Option (String × Value)) :=
  match key with
  | .str name => .ok ((table.get? name).map fun value => (name, value))
  | .arr _ => .error .wrongKind
  | .obj _ => .error .wrongKind
  | _ => .ok none

end MarketSignal
