import Companions.Json.Reader

/-!
Reading values of a wanted kind: booleans, integers, strings, choices among names, lists, and
records. A record is an object whose members have names and kinds of their own, or a list with the
same values in order. Members that a record does not know are skipped, no member may be given
twice, and some have to be there.
-/

namespace Companions.Json

open Scan

/-- Reads a value of some kind where the values in it may go to the given depth. -/
abbrev Decoder (α : Type) := (depth : Nat) → Scan α

namespace Decoder

variable {α δ : Type}

/-- Fails because the value that comes next is not the wanted one. Scalars are passed. -/
def unwanted (wanted : String) : Scan α := do
  let found : Found ← do
    match ← peekPart with
    | some 'n' => keyword "ull" .null
    | some 't' => keyword "rue" (.boolean true)
    | some 'f' => keyword "alse" (.boolean false)
    | some '"' => do
      advance
      pure (.text (← text))
    | some '[' => pure .list
    | some '{' => pure .object
    | some c =>
      if c = '-' || c.isDigit then
        match ← Numeral.readQuantity with
        | .integer value => pure (.integer value)
        | .float value => pure (.float value)
      else failNext .valueExpected
    | none => failNext .valueExpected
  throw { cause := .wrongType found wanted }

/-- The first byte of the value that comes next. -/
def peekValue : Scan Char := do
  match ← peekPart with
  | some c => return c
  | none => failNext (.ended .value)

/-! ### Scalars -/

/-- A truth value. -/
def boolean : Decoder Bool := fun _ => placed do
  match ← peekValue with
  | 't' => keyword "rue" true
  | 'f' => keyword "alse" false
  | _ => unwanted "a boolean"

/-- A string that messages call `wanted`. -/
def textCalled (wanted : String) : Scan String := placed do
  if (← peekValue) = '"' then
    advance
    text
  else unwanted wanted

/-- A string. -/
def string : Decoder String := fun _ => textCalled "a string"

/-- An integer between two bounds; `wanted` names its kind. -/
def integer (least greatest : Int) (wanted : String) : Decoder Int := fun _ => placed do
  let c ← peekValue
  if c = '-' || c.isDigit then
    match ← Numeral.readQuantity with
    | .integer value =>
      if least ≤ value ∧ value ≤ greatest then return value
      else throw { cause := .outOfRange value wanted }
    | .float value => throw { cause := .wrongType (.float value) wanted }
  else unwanted wanted

/-- A value of any kind. -/
def any : Decoder Value := fun depth => do
  readValue (← stepBudget) depth

/-- `null`, or a value of the kind. -/
def optional (decode : Decoder α) : Decoder (Option α) := fun depth => do
  if (← peekPart) = some 'n' then keyword "ull" none else some <$> decode depth

/-! ### Choices -/

/-- The choice of that name. -/
def choose (choices : List (String × α)) (name : String) : Scan α :=
  match choices.lookup name with
  | some choice => return choice
  | none => throw { cause := .unknownVariant name (choices.map (·.1)) }

/-- The value of a choice that is given as the name of a member: only `null`. -/
def noContent : Scan Unit := placed do
  if (← peekValue) = 'n' then keyword "ull" () else unwanted "unit"

/-- The name of the only member of an object that gives a choice. -/
def choiceName : Scan String := do
  match ← peekPart with
  | none => failNext (.ended .object)
  | some '"' => do
    advance
    text
  | some '}' => failNext .valueExpected
  | some _ => failNext .nameNotText

/-- One of the named choices: its name, or an object that gives it the value `null`. -/
def choice (choices : List (String × α)) : Decoder α := fun depth => do
  match ← peekPart with
  | none => failNext (.ended .value)
  | some '"' => placed do choose choices (← textCalled "a string")
  | some '{' =>
    discard (enter depth)
    let name ← choiceName
    let chosen ← placed (choose choices name)
    colon
    within (.member name) noContent
    match ← peekPart with
    | none => failHere (.ended .object)
    | some '}' =>
      advance
      return chosen
    | some _ => failHere .valueExpected
  | some _ => failNext .valueExpected

/-! ### Lists -/

/-- The items that follow those in `before`, which are in reverse. -/
def items (decode : Scan α) : (budget : Nat) → (before : List α) → Scan (List α)
  | 0, _ => failNext .valueExpected
  | budget + 1, before => do
    if ← moreItems before.isEmpty then
      let item ← within (.item before.length) decode
      items decode budget (item :: before)
    else return before.reverse

/-- A list of values of one kind. -/
def list (decode : Decoder α) : Decoder (List α) := fun depth => placed do
  if (← peekValue) = '[' then
    let depth ← enter depth
    enclosed (do items (decode depth) (← stepBudget) []) closeList
  else unwanted "a sequence"

/-! ### Records -/

/-- A member of a record, which is read into a draft of it. -/
structure Member (δ : Type) where
  name : String
  isSet : δ → Bool
  read : Decoder (δ → δ)

/-- The member of that name, whose values are of one kind and are put into the draft by `put`. -/
def Member.make {β : Type} (name : String) (isSet : δ → Bool) (decode : Decoder β)
    (put : δ → β → δ) : Member δ :=
  { name, isSet, read := fun depth => (fun value draft => put draft value) <$> decode depth }

/-- A kind of record: what messages call it, its members, and the record a draft becomes, or the
first member that is missing from it. -/
structure Record (δ α : Type) where
  name : String
  members : List (Member δ)
  finish : δ → Except String α

namespace Record

/-- The members of an object, read into a draft. -/
def readNamed (record : Record δ α) (depth : Nat) :
    (budget : Nat) → (first : Bool) → δ → Scan δ
  | 0, _, _ => failNext .valueExpected
  | budget + 1, first, draft => do
    match ← memberName? first with
    | none => return draft
    | some name =>
      match record.members.find? fun m => m.name == name with
      | some member =>
        if member.isSet draft then throw { cause := .repeated name }
        colon
        let change ← within (.member name) (member.read depth)
        readNamed record depth budget false (change draft)
      | none =>
        colon
        within (.member name) (do skipValue (← stepBudget))
        readNamed record depth budget false draft

/-- The members in order, read into a draft from the items of a list, as far as they go. -/
def readOrdered (depth : Nat) : List (Member δ) → (index : Nat) → δ → Scan δ
  | [], _, draft => return draft
  | member :: rest, index, draft => do
    if ← moreItems (index == 0) then
      let change ← within (.item index) (member.read depth)
      readOrdered depth rest (index + 1) (change draft)
    else return draft

/-- What messages call the record when it is given as a list. -/
def listName (record : Record δ α) : String :=
  record.name ++ " with " ++ toString record.members.length ++ " elements"

/-- The record of a draft that was read from a list. -/
def finishList (record : Record δ α) (draft : δ) : Scan α :=
  match record.finish draft with
  | .ok value => return value
  | .error name =>
    throw
      { cause := .wrongLength (record.members.findIdx fun m => m.name == name) record.listName }

/-- The record of a draft that was read from an object. -/
def finishObject (record : Record δ α) (draft : δ) : Scan α :=
  match record.finish draft with
  | .ok value => return value
  | .error name => throw { cause := .missing name }

/-- A record, from an empty draft. -/
def decode (record : Record δ α) (empty : δ) : Decoder α := fun depth => placed do
  match ← peekValue with
  | '[' =>
    let depth ← enter depth
    enclosed (do record.finishList (← readOrdered depth record.members 0 empty)) closeList
  | '{' =>
    let depth ← enter depth
    enclosed
      (do record.finishObject (← record.readNamed depth (← stepBudget) true empty)) closeObject
  | _ => unwanted record.name

end Record

/-- The value at the start of a text. What follows it does not matter. -/
def run (decode : Decoder α) (bytes : List UInt8) : Except Fault α :=
  match decode fullDepth bytes with
  | .ok a _ => .ok a
  | .error fault _ => .error fault

end Decoder

end Companions.Json
