import Companions.Json.Numeral
import Companions.Json.Value

/-!
Reading whole values. Lists and objects that are kept may be nested 127 deep; a value that is only
skipped may be nested to any depth, and its strings need not be Unicode.

Nested readers have a budget of steps. Every second step takes a byte, so twice the bytes that are
left is enough.
-/

namespace Companions.Json

open Scan

/-- The depth at which a text begins: one more than the lists and objects that may be nested. -/
def fullDepth : Nat := 128

/-- The steps that nested readers need for the bytes that are left. -/
def stepBudget : Scan Nat := do
  return 2 * (← get).length + 2

/-- Enters a list or an object, and says how deep the values in it may go. -/
def enter (depth : Nat) : Scan Nat := do
  if depth ≤ 1 then failNext .tooDeep
  else
    advance
    return depth - 1

/-- Passes an opening letter and the rest of its word. -/
def keyword {α : Type} (rest : String) (value : α) : Scan α := do
  advance
  word rest.toList
  return value

/-- The name of the next member of an object, if there is one. -/
def memberName? (first : Bool) : Scan (Option String) :=
  within .unnamed do
    if ← moreMembers first then return some (← text) else return none

/-! ### Any value -/

mutual

/-- A value of any kind. -/
def readValue : (budget depth : Nat) → Scan Value
  | 0, _ => failNext .valueExpected
  | budget + 1, depth => do
    match ← peekPart with
    | none => failNext (.ended .value)
    | some 'n' => keyword "ull" .null
    | some 't' => keyword "rue" (.boolean true)
    | some 'f' => keyword "alse" (.boolean false)
    | some '"' => do
      advance
      return .text (← text)
    | some '[' => do
      let depth ← enter depth
      enclosed (.list <$> readItems budget depth []) closeList
    | some '{' => do
      let depth ← enter depth
      enclosed (.object <$> readMembers budget depth true []) closeObject
    | some c =>
      if c = '-' || c.isDigit then
        match ← Numeral.readQuantity with
        | .integer value => return .integer value
        | .float value => return .float value
      else failNext .valueExpected

/-- The items that follow those in `before`, which are in reverse. -/
def readItems : (budget depth : Nat) → (before : List Value) → Scan (List Value)
  | 0, _, _ => failNext .valueExpected
  | budget + 1, depth, before => do
    if ← moreItems before.isEmpty then
      let item ← within (.item before.length) (readValue budget depth)
      readItems budget depth (item :: before)
    else return before.reverse

/-- The members that follow those in `before`. -/
def readMembers : (budget depth : Nat) → (first : Bool) → (before : List (String × Value)) →
    Scan (List (String × Value))
  | 0, _, _, _ => failNext .valueExpected
  | budget + 1, depth, first, before => do
    match ← memberName? first with
    | none => return before
    | some name =>
      colon
      let value ← within (.member name) (readValue budget depth)
      readMembers budget depth false (setMember name value before)

end

/-! ### Skipped values -/

mutual

/-- Passes a value of any kind. -/
def skipValue : (budget : Nat) → Scan Unit
  | 0 => failNext .valueExpected
  | budget + 1 => do
    match ← peekPart with
    | none => failNext (.ended .value)
    | some 'n' => keyword "ull" ()
    | some 't' => keyword "rue" ()
    | some 'f' => keyword "alse" ()
    | some '"' => do
      advance
      skipText ((← get).length + 1)
    | some '[' => do
      advance
      skipItems budget true
    | some '{' => do
      advance
      skipMembers budget true
    | some c =>
      if c = '-' || c.isDigit then discard (Numeral.read .badNumber) else failNext .valueExpected

/-- Passes the rest of a list. -/
def skipItems : (budget : Nat) → (first : Bool) → Scan Unit
  | 0, _ => failNext .valueExpected
  | budget + 1, first => do
    match ← peekPart with
    | none => failNext (.ended .list)
    | some ']' => advance
    | some c =>
      if !first then
        if c = ',' then advance else failNext .listEndExpected
      skipValue budget
      skipItems budget false

/-- Passes the rest of an object. -/
def skipMembers : (budget : Nat) → (first : Bool) → Scan Unit
  | 0, _ => failNext .valueExpected
  | budget + 1, first => do
    match ← peekPart with
    | none => failNext (.ended .object)
    | some '}' => advance
    | some c =>
      if !first then
        if c = ',' then advance else failNext .objectEndExpected
      match ← peekPart with
      | none => failNext (.ended .object)
      | some '"' =>
        advance
        skipText ((← get).length + 1)
      | some _ => failNext .nameNotText
      colon
      skipValue budget
      skipMembers budget false

end

end Companions.Json
