import Companions.Json.Fault

/-!
The small parts of JSON: blanks, words, strings and the marks between values. A scan goes through
the bytes that are left, and a failure keeps those that were left when it arose.
-/

namespace Companions.Json

/-- Reading from the bytes that are left. -/
abbrev Scan := EStateM Fault (List UInt8)

namespace Scan

variable {α : Type}

/-! ### Failures -/

/-- Fails where the scan stands. -/
def failHere (cause : Cause) : Scan α := do
  throw { cause, left := some (← get).length }

/-- Fails at the byte that comes next. -/
def failNext (cause : Cause) : Scan α := do
  throw { cause, left := some ((← get).length - 1) }

/-- Gives a failure without a place the one where it is caught. -/
def placed (x : Scan α) : Scan α := fun bytes =>
  match x bytes with
  | .ok a bytes => .ok a bytes
  | .error fault bytes =>
    .error (if fault.left.isNone then { fault with left := some bytes.length } else fault) bytes

/-- Reads a value that one step leads to. -/
def within (step : Step) (x : Scan α) : Scan α := fun bytes =>
  match x bytes with
  | .ok a bytes => .ok a bytes
  | .error fault bytes => .error { fault with path := step :: fault.path } bytes

/-- Reads a body and then passes its end. The end is passed after a failure too, which then goes
before a failure at the end. -/
def enclosed (body : Scan α) (close : Scan Unit) : Scan α := fun bytes =>
  match body bytes with
  | .ok a bytes => (do close; return a) bytes
  | .error fault bytes =>
    match close bytes with
    | .ok _ bytes => .error fault bytes
    | .error _ bytes => .error fault bytes

/-! ### Bytes -/

/-- The next byte as the character of that code. -/
def peek : Scan (Option Char) := do
  return (← get).head?.map fun b => Char.ofNat b.toNat

/-- Goes past one byte. -/
def advance : Scan Unit :=
  modify List.tail

/-- The next byte, passing it. -/
def next? : Scan (Option Char) := do
  let found ← peek
  advance
  return found

/-- The bytes that may stand between the parts of a text. -/
def isBlank (b : UInt8) : Bool :=
  b == 32 || b == 10 || b == 9 || b == 13

/-- The next byte after blanks. -/
def peekPart : Scan (Option Char) := do
  modify (List.dropWhile isBlank)
  peek

/-- Passes the given characters. -/
def word : List Char → Scan Unit
  | [] => pure ()
  | c :: rest => do
    match ← next? with
    | none => failHere (.ended .value)
    | some d => if c = d then word rest else failHere .badWord

/-! ### Strings -/

/-- The value of a hexadecimal digit. -/
def hexDigit? (b : UInt8) : Option Nat :=
  let n := b.toNat
  if 48 ≤ n ∧ n ≤ 57 then some (n - 48)
  else if 65 ≤ n ∧ n ≤ 70 then some (n - 55)
  else if 97 ≤ n ∧ n ≤ 102 then some (n - 87)
  else none

/-- The value of hexadecimal digits. -/
def hexValue? (digits : List UInt8) : Option Nat :=
  digits.foldlM (fun value b => (hexDigit? b).map (16 * value + ·)) 0

/-- A code unit of four hexadecimal digits. -/
def codeUnit : Scan Nat := do
  let bytes ← get
  set (bytes.drop 4)
  if bytes.length < 4 then failHere (.ended .text)
  else match hexValue? (bytes.take 4) with
    | some value => return value
    | none => failHere .badEscape

/-- Passes one character between the halves of a surrogate pair. -/
def pairMark (c : Char) : Scan Unit := do
  match ← next? with
  | none => failHere (.ended .text)
  | some d => if c = d then pure () else failHere .pairUnfinished

/-- The character of one code unit, or of a pair of surrogates. -/
def codeUnits : Scan Char := do
  let high ← codeUnit
  if 0xDC00 ≤ high ∧ high ≤ 0xDFFF then failHere .loneSurrogate
  else if high < 0xD800 ∨ 0xDBFF < high then return Char.ofNat high
  else
    pairMark '\\'
    pairMark 'u'
    let low ← codeUnit
    if 0xDC00 ≤ low ∧ low ≤ 0xDFFF then
      return Char.ofNat (0x10000 + (high - 0xD800) * 0x400 + (low - 0xDC00))
    else failHere .loneSurrogate

/-- The character that an escape with a single letter stands for. -/
def escapeOf? : Char → Option Char
  | '"' => some '"'
  | '\\' => some '\\'
  | '/' => some '/'
  | 'b' => some '\x08'
  | 'f' => some '\x0c'
  | 'n' => some '\n'
  | 'r' => some '\r'
  | 't' => some '\t'
  | _ => none

/-- The character of an escape whose backslash has been passed. -/
def escape : Scan Char := do
  match ← next? with
  | none => failHere (.ended .text)
  | some 'u' => codeUnits
  | some letter =>
    match escapeOf? letter with
    | some c => return c
    | none => failHere .badEscape

/-- The bytes up to the closing quote, behind those in `before`, which are in reverse. -/
def textBytes : (budget : Nat) → (before : List UInt8) → Scan (List UInt8)
  | 0, _ => failHere (.ended .text)
  | budget + 1, before => do
    match ← get with
    | [] => failHere (.ended .text)
    | b :: rest =>
      set rest
      if b = 34 then return before.reverse
      else if b = 92 then
        let c ← escape
        textBytes budget ((String.utf8EncodeChar c).reverse ++ before)
      else if b < 32 then failHere .controlCharacter
      else textBytes budget (b :: before)

/-- How many bytes from a place on make up whole characters. -/
def unicodeBytes (bytes : ByteArray) : (budget place : Nat) → Nat
  | 0, _ => 0
  | budget + 1, place =>
    match bytes.utf8DecodeChar? place with
    | some c => c.utf8Size + unicodeBytes bytes budget (place + c.utf8Size)
    | none => 0

/-- A string whose opening quote has been passed. Once it is complete its bytes have to be Unicode;
the place of a failure is as far before the end of the string as the first of its bytes that is not
part of a character is before the last. -/
def text : Scan String := do
  let bytes ← textBytes ((← get).length + 1) []
  let all := ByteArray.mk bytes.toArray
  match String.fromUTF8? all with
  | some text => return text
  | none =>
    let after := bytes.length - unicodeBytes all bytes.length 0
    throw { cause := .notUnicode, left := some ((← get).length + after) }

/-- Passes the rest of a string. What its escapes stand for does not matter. -/
def skipText : (budget : Nat) → Scan Unit
  | 0 => failHere (.ended .text)
  | budget + 1 => do
    match ← get with
    | [] => failHere (.ended .text)
    | b :: rest =>
      if b = 34 then set rest
      else if b = 92 then
        set rest
        match ← next? with
        | none => failHere (.ended .text)
        | some 'u' => discard codeUnit
        | some letter => if (escapeOf? letter).isNone then failHere .badEscape
        skipText budget
      else if b < 32 then failHere .controlCharacter
      else
        set rest
        skipText budget

/-! ### Lists and objects -/

/-- Whether a list goes on; passes the comma before the next item. -/
def moreItems (first : Bool) : Scan Bool := do
  match ← peekPart with
  | none => failNext (.ended .list)
  | some ']' => return false
  | some c =>
    if first then return true
    else if c = ',' then
      advance
      match ← peekPart with
      | none => failNext (.ended .value)
      | some ']' => failNext .trailingComma
      | some _ => return true
    else failNext .listEndExpected

/-- Whether an object goes on; passes the comma before the next name and its opening quote. -/
def moreMembers (first : Bool) : Scan Bool := do
  match ← peekPart with
  | none => failNext (.ended .object)
  | some '}' => return false
  | some c =>
    if first then
      if c = '"' then do advance; return true else failNext .nameNotText
    else if c = ',' then
      advance
      match ← peekPart with
      | none => failNext (.ended .value)
      | some '"' => do advance; return true
      | some '}' => failNext .trailingComma
      | some _ => failNext .nameNotText
    else failNext .objectEndExpected

/-- Passes the colon after a name. -/
def colon : Scan Unit := do
  match ← peekPart with
  | none => failNext (.ended .object)
  | some ':' => advance
  | some _ => failNext .colonExpected

/-- Passes the end of a list. -/
def closeList : Scan Unit := do
  match ← peekPart with
  | none => failNext (.ended .list)
  | some ']' => advance
  | some ',' =>
    advance
    match ← peekPart with
    | some ']' => failNext .trailingComma
    | _ => failNext .trailingCharacters
  | some _ => failNext .trailingCharacters

/-- Passes the end of an object. -/
def closeObject : Scan Unit := do
  match ← peekPart with
  | none => failNext (.ended .object)
  | some '}' => advance
  | some ',' => failNext .trailingComma
  | some _ => failNext .trailingCharacters

end Scan

end Companions.Json
