/-
Forms say what the body of a request must look like. A form is a list of members, each with a shape
and with whether it may be left out; other members are passed over. A body that does not fit has
blemishes, each of a kind and at a place, in the order of the form.
-/
import MarketSignal.Json.Basic

namespace MarketSignal

/-- What a value must look like. -/
inductive ValueShape where
  | anything
  | text
  | object (members : ValueShape)
  | list (items : ValueShape)
  | optional (shape : ValueShape)
deriving DecidableEq, Repr

/-- A member of a form. -/
structure Member where
  name : String
  shape : ValueShape
  required : Bool
deriving DecidableEq, Repr

/-- The members of a body. -/
abbrev Form := List Member

/-- What is wrong with a request. -/
inductive BlemishKind where
  | missing
  | noText
  | noObject
  | noList
  | noForm
  | noFlag
  | noValue
deriving DecidableEq, Repr

/-- The name of a kind of blemish. -/
def BlemishKind.name : BlemishKind → String
  | .missing => "missing"
  | .noText => "string_type"
  | .noObject => "dict_type"
  | .noList => "list_type"
  | .noForm => "model_attributes_type"
  | .noFlag => "bool_parsing"
  | .noValue => "json_invalid"

/-- A blemish and its place, the steps to which are names and numbers. -/
structure Blemish where
  kind : BlemishKind
  place : List Json

/-- The place of the body as a whole. -/
def bodyPlace : List Json := [.str "body"]

/-- The blemishes of a value that must have a shape. -/
def ValueShape.blemishes : ValueShape → List Json → Json → List Blemish
  | .anything, _, _ => []
  | .text, _, .str _ => []
  | .text, place, _ => [⟨.noText, place⟩]
  | .object shape, place, .obj members =>
    members.flatMap fun member => shape.blemishes (place ++ [.str member.1]) member.2
  | .object _, place, _ => [⟨.noObject, place⟩]
  | .list shape, place, .arr items =>
    items.zipIdx.flatMap fun item => shape.blemishes (place ++ [.int item.2]) item.1
  | .list _, place, _ => [⟨.noList, place⟩]
  | .optional _, _, .null => []
  | .optional shape, place, value => shape.blemishes place value

/-- The blemishes of a member of a body. -/
def Member.blemishes (member : Member) (members : List (String × Json)) : List Blemish :=
  let place := bodyPlace ++ [.str member.name]
  match Entries.get? members member.name with
  | some value => member.shape.blemishes place value
  | none => if member.required then [⟨.missing, place⟩] else []

/-- The blemishes of a body, which may be missing altogether. -/
def Form.blemishes (form : Form) (body : Option Json) : List Blemish :=
  match body with
  | none => [⟨.missing, bodyPlace⟩]
  | some (.obj members) => form.flatMap fun member => member.blemishes members
  | some _ => [⟨.noForm, bodyPlace⟩]

/-! ### Flags -/

/-- Texts that mean yes, in any case of the common letters. -/
def yesTexts : List String := ["1", "t", "y", "on", "yes", "true"]

/-- Texts that mean no. -/
def noTexts : List String := ["0", "f", "n", "no", "off", "false"]

/-- The flag that a text means. -/
def flagOfText? (text : String) : Option Bool :=
  let small := text.toLower
  if yesTexts.contains small then some true
  else if noTexts.contains small then some false
  else none

end MarketSignal
