/-
The target of a request: a path and a query. In both, a percent sign and two digits stand for a
byte; the bytes together are text, and those that are no text give a mark of replacement. Single
and double dots among the steps of a path are taken as in a folder before anything else.

A path starts with one slash, whether it is written with none or with several; two slashes at its
start are followed by the name of a host, which is passed over. It is decoded twice: once on the way
to the service and once on its arrival. So a step cannot hold a slash, however it is written.
-/
import MarketSignal.Json.Reader
import MarketSignal.Text.Pieces
import MarketSignal.Text.Utf8

namespace MarketSignal

/-! ### Bytes that may not be text -/

namespace Text

/-- The mark that stands for bytes that belong to no character. -/
def replacementMark : Char := Char.ofNat 0xFFFD

/-- The character of the bytes of one. -/
def characterOfBytes : List Nat → Char
  | [one] => Char.ofNat one
  | [one, two] => Char.ofNat ((one % 32) * 64 + two % 64)
  | [one, two, three] => Char.ofNat ((one % 16) * 4096 + (two % 64) * 64 + three % 64)
  | [one, two, three, four] =>
    Char.ofNat ((one % 8) * 262144 + (two % 64) * 4096 + (three % 64) * 64 + four % 64)
  | _ => replacementMark

/-- The text of bytes, with a mark for each stretch that belongs to no character. The bound is the
number of bytes. -/
def decodeWithMarks : Nat → List Nat → List Char
  | 0, _ => []
  | _, [] => []
  | bound + 1, lead :: rest =>
    match characterForm? lead with
    | none => replacementMark :: decodeWithMarks bound rest
    | some (length, low, high) =>
      let found := continued (length - 1) low high rest
      let after := decodeWithMarks bound (rest.drop found)
      if found = length - 1 then characterOfBytes (lead :: rest.take found) :: after
      else replacementMark :: after

/-- The bytes that a text with percent signs stands for. A percent sign without two digits stands
for itself. -/
def percentBytes : List Char → List Nat
  | [] => []
  | '%' :: high :: low :: rest =>
    match Json.hexValue? high, Json.hexValue? low with
    | some high, some low => (high * 16 + low) :: percentBytes rest
    | _, _ => 0x25 :: percentBytes (high :: low :: rest)
  | c :: rest => (String.singleton c).toUTF8.toList.map UInt8.toNat ++ percentBytes rest

/-- The text that a text with percent signs stands for. -/
def percentDecoded (text : List Char) : List Char :=
  let bytes := percentBytes text
  decodeWithMarks bytes.length bytes

end Text

/-! ### Targets -/

/-- The target of a request: the decoded path, and the names and values of the query in order. -/
structure Target where
  path : String
  query : List (String × String)
deriving DecidableEq, Repr

namespace Target

/-- Takes single and double dots among the steps of a path as in a folder. The start of the path
stays. -/
def withoutDots (path : List Char) : List Char :=
  let steps := Text.pieces '/' path
  if steps.contains ['.'] || steps.contains ['.', '.'] then
    let kept := steps.foldl
      (fun (before : List (List Char)) step =>
        if step = ['.'] then before
        else if step = ['.', '.'] then if before = [[]] then before else before.dropLast
        else before ++ [step])
      []
    List.intercalate ['/'] kept
  else path

/-- A path with one slash at its start and without a host. -/
def withoutHost (path : List Char) : List Char :=
  let behindHost :=
    match path with
    | '/' :: '/' :: rest => rest.dropWhile fun c => c != '/'
    | other => other
  '/' :: behindHost.dropWhile fun c => c == '/'

/-- The decoded path. -/
def decodedPath (path : List Char) : String :=
  let written := withoutDots (withoutHost path)
  String.ofList (Text.percentDecoded (Text.percentDecoded written))

/-- One part of a query. A plus sign stands for a blank. -/
def decodedPart (part : List Char) : String :=
  String.ofList (Text.percentDecoded (part.map fun c => if c = '+' then ' ' else c))

/-- The names and values of a query. A name alone has an empty value. -/
def queryEntries (query : List Char) : List (String × String) :=
  ((Text.pieces '&' query).filter fun part => !part.isEmpty).map fun part =>
    match part.span fun c => c != '=' with
    | (name, _ :: value) => (decodedPart name, decodedPart value)
    | (name, []) => (decodedPart name, "")

/-- Reads a target. What follows a number sign is no part of it. -/
def ofText (text : String) : Target :=
  let whole := text.toList.takeWhile fun c => c != '#'
  match whole.span fun c => c != '?' with
  | (path, _ :: query) => ⟨decodedPath path, queryEntries query⟩
  | (path, []) => ⟨decodedPath path, []⟩

/-- The value under a name of the query: the last one. -/
def value? (target : Target) (name : String) : Option String :=
  (target.query.reverse.find? fun entry => entry.1 == name).map Prod.snd

end Target

end MarketSignal
