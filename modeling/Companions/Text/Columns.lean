import Companions.Text.Emoji
import Companions.Text.Width

/-!
How many columns a text takes on a terminal. That is the sum over its characters, but for those that
are drawn together: emoji joined with others, with a skin tone or with a selector, the Arabic
ligature of lam and alef, and ligatures of several other scripts. A text is read from its end, and
what a character adds depends on its `Context`, which is what is known of the text after it.
-/

namespace Companions.Text

/-! ### Letters that make ligatures -/

/-- Code points without a column at which Arabic letters do not join. -/
def joiningBreakSpans : List (Nat × Nat) := [
  (1541, 1541), (2192, 2193), (2274, 2274), (2494, 2494), (2519, 2519), (2878, 2878), (2903, 2903),
  (3006, 3006), (3031, 3031), (3264, 3264), (3266, 3266), (3271, 3272), (3274, 3275), (3285, 3286),
  (3390, 3390), (3406, 3406), (3415, 3415), (3535, 3535), (3551, 3551), (4448, 4607), (5909, 5909),
  (5940, 5940), (6158, 6158), (6965, 6965), (6971, 6971), (6973, 6973), (6979, 6980), (7082, 7082),
  (7154, 7155), (8204, 8205), (8293, 8297), (12334, 12335), (12644, 12644), (43258, 43258),
  (43347, 43347), (43456, 43456), (55216, 55238), (55243, 55291), (65440, 65440), (65520, 65528),
  (70080, 70080), (70082, 70083), (70197, 70197), (70462, 70462), (70477, 70477), (70487, 70487),
  (70584, 70584), (70594, 70594), (70597, 70597), (70599, 70601), (70607, 70607), (70609, 70609),
  (70832, 70832), (70845, 70845), (71087, 71087), (71350, 71350), (71984, 71984), (71997, 71997),
  (71999, 71999), (72001, 72001), (72324, 72329), (73030, 73030), (73474, 73474), (73537, 73537),
  (94192, 94193), (119141, 119142), (119149, 119154), (917504, 917504), (917506, 917535),
  (917632, 917759), (918000, 921599)]

/-- Whether an Arabic ligature reaches over the character. -/
def isTransparent (c : Char) : Bool :=
  charWidth c == 0 && !inSpans joiningBreakSpans c.toNat

/-- Whether every other ligature reaches over the character: invisible combining marks. -/
def isInvisibleMark (c : Char) : Bool :=
  inSpans [(0x34F, 0x34F), (0x17B4, 0x17B5), (0x180B, 0x180D), (0x180F, 0x180F),
    (0xFE00, 0xFE0F), (0xE0100, 0xE01EF)] c.toNat

/-- Whether the Arabic letter has the form of a lam. -/
def isLam (c : Char) : Bool :=
  inSpans [(0x644, 0x644), (0x6B5, 0x6B8), (0x76A, 0x76A), (0x8A6, 0x8A6), (0x8C7, 0x8C7)] c.toNat

/-- Whether the Arabic letter has the form of an alef. -/
def isAlef (c : Char) : Bool :=
  inSpans [(0x622, 0x623), (0x625, 0x625), (0x627, 0x627), (0x671, 0x673), (0x675, 0x675),
    (0x773, 0x774), (0x870, 0x882)] c.toNat

/-- Whether the Khmer letter has a form below another letter. -/
def hasKhmerSubscript (c : Char) : Bool :=
  inSpans [(0x1780, 0x1782), (0x1784, 0x1787), (0x1789, 0x178C), (0x178E, 0x1793),
    (0x1795, 0x1798), (0x179B, 0x179D), (0x17A0, 0x17A0), (0x17A2, 0x17A2), (0x17A7, 0x17A7),
    (0x17AB, 0x17AC), (0x17AF, 0x17AF)] c.toNat

/-- Whether the Tifinagh letter is a consonant. -/
def isTifinaghConsonant (c : Char) : Bool :=
  inSpans [(0x2D31, 0x2D65), (0x2D6F, 0x2D6F)] c.toNat

/-- Whether the character is one of the quotation marks that come narrow and wide. -/
def isCurlyQuote (c : Char) : Bool :=
  inSpans [(0x2018, 0x2019), (0x201C, 0x201D)] c.toNat

/-! ### What is known of the text after a character -/

/-- What the text after a character starts with, as far as it can be drawn together with what stands
before. The names of letters stand for the letters themselves; joined things have a zero-width
joiner in front. -/
inductive Follower where
  | nothing
  | lineFeed
  | emoji
  | skinTone
  | flagLetter
  | flagLetters
  | joinedEmoji
  | joinedKeycap
  | joinedFlagLetter
  | joinedFlag
  | joinedFlagAndLetter
  /-- The end of a tagged flag, after so many tag letters and tag digits have been read. -/
  | joinedTags (letters digits : Nat)
  | kiratE
  | kiratAi
  | alef
  | lamed
  | bugineseYa
  | bugineseIYa
  | tifinagh
  | tifinaghJoiner
  | lisuTone
  | orkhonI
  | khmerLetter
deriving Repr, DecidableEq

namespace Follower

/-- Whether it is the end of a ligature of letters. -/
def isLetter : Follower → Bool
  | alef | lamed | bugineseYa | bugineseIYa | tifinagh | tifinaghJoiner | lisuTone | orkhonI
  | khmerLetter => true
  | _ => false

/-- What a character begins that stands before something unrelated. -/
def ofChar (c : Char) : Follower :=
  if c = '\n' then lineFeed
  else if c.toNat ≤ 0xA0 then nothing
  else if c.toNat = 0x5DC then lamed
  else if isAlef c then alef
  else if hasKhmerSubscript c then khmerLetter
  else if c.toNat = 0x1A10 then bugineseYa
  else if isTifinaghConsonant c then tifinagh
  else if c.toNat = 0xA4FC ∨ c.toNat = 0xA4FD then lisuTone
  else if c.toNat = 0x10C03 then orkhonI
  else if c.toNat = 0x16D67 then kiratE
  else if c.toNat = 0x16D68 then kiratAi
  else if isFlagLetter c then flagLetter
  else if isSkinTone c then skinTone
  else if isEmoji c then emoji
  else nothing

end Follower

/-- What is known of the text after a character: what it starts with, and what stands in between, a
zero-width joiner or the selectors of a picture, of narrow text or of a wide quotation mark. -/
structure Context where
  follower : Follower := .nothing
  joined : Bool := false
  picture : Bool := false
  narrow : Bool := false
  wide : Bool := false
deriving Repr, DecidableEq

namespace Context

/-- The context that a follower makes. -/
def of (follower : Follower) : Context :=
  { follower }

/-- The context without its picture selector, for a character that has no picture form. What was to
be changed is lost, except that ligatures of letters reach over selectors. -/
def unpictured (t : Context) : Context :=
  if t.follower.isLetter then { t with picture := false } else if t.picture then {} else t

/-- The context without the other selectors, for a character that they do not change. -/
def unselected (t : Context) : Context :=
  if t.follower.isLetter then { t with narrow := false, wide := false }
  else if t.narrow || t.wide then {}
  else t

/-- The context before a selector. -/
def selected? (t : Context) (c : Char) : Option Context :=
  let kept : Context := if t.follower.isLetter then t else {}
  if c.toNat = 0xFE0F then
    some (if t.follower = .joinedEmoji ∨ t.follower = .joinedKeycap then { t with picture := true }
      else { kept with picture := true })
  else if c.toNat = 0xFE0E then some { kept with narrow := true }
  else if c.toNat = 0xFE01 then some { kept with wide := true }
  else none

/-- What a character adds that a selector changes, and the context before it. -/
def shown? (t : Context) (c : Char) : Option (Int × Context) :=
  if t.picture && hasPictureForm c then
    some (if t.follower = .joinedEmoji ∨ t.follower = .joinedKeycap then 0 else 2, of .emoji)
  else if t.narrow && hasNarrowForm c then some (1, {})
  else if t.wide && isCurlyQuote c then some (2, {})
  else none

/-- What a character adds to the tags of a flag, and the context before it. -/
def tagged? (letters digits : Nat) (c : Char) : Option (Int × Context) :=
  if 0xE0061 ≤ c.toNat ∧ c.toNat ≤ 0xE007A ∧ digits = 0 ∧ letters < 6 then
    some (0, of (.joinedTags (letters + 1) 0))
  else if 0xE0030 ≤ c.toNat ∧ c.toNat ≤ 0xE0039 ∧ digits < 3 ∧ (digits = 0 → letters < 5) then
    some (0, of (.joinedTags letters (digits + 1)))
  else if c.toNat = 0x1F3F4 ∧ (digits = 3 ∨ (digits = 0 ∧ 3 ≤ letters)) then some (0, of .emoji)
  else none

/-- What a character adds that is drawn together with its follower, and the context before it. Both
together take the columns that the follower alone has been given, and what is added here. -/
def ligature? (t : Context) (c : Char) : Option (Int × Context) :=
  let joiner := c.toNat = 0x200D
  match t.follower with
  | .nothing | .lineFeed | .joinedKeycap => none
  | .emoji => if joiner then some (0, of .joinedEmoji) else none
  | .skinTone =>
    if isModifierBase c then some (0, of .emoji)
    else if joiner then some (0, of .joinedEmoji)
    else none
  | .flagLetter => if isFlagLetter c then some (1, of .flagLetters) else none
  | .flagLetters =>
    if isFlagLetter c then some (1, of .flagLetters)
    else if joiner then some (0, of .joinedEmoji)
    else none
  | .joinedEmoji =>
    if c.toNat = 0x20E3 then some (0, of .joinedKeycap)
    else if isFlagLetter c then some (1, of .joinedFlagLetter)
    else if isSkinTone c then some (0, of .skinTone)
    else if c.toNat = 0xE007F then some (0, of (.joinedTags 0 0))
    else if isEmoji c then some (0, of .emoji)
    else none
  | .joinedFlagLetter => if isFlagLetter c then some (-1, of .joinedFlag) else none
  | .joinedFlag =>
    if isFlagLetter c then some (3, of .joinedFlagAndLetter)
    else if joiner then some (0, of .joinedEmoji)
    else none
  | .joinedFlagAndLetter =>
    if isFlagLetter c then some (-1, of .joinedFlag)
    else if joiner then some (0, of .joinedEmoji)
    else none
  | .joinedTags letters digits => tagged? letters digits c
  | .kiratE =>
    if c.toNat = 0x16D63 ∨ c.toNat = 0x16D69 then some (0, {})
    else if c.toNat = 0x16D67 then some (0, of .kiratAi)
    else if c.toNat = 0x16D68 then some (1, of .kiratE)
    else none
  | .kiratAi => if c.toNat = 0x16D63 then some (0, {}) else none
  | .alef =>
    if isLam c then some (0, {}) else if isTransparent c then some (0, of .alef) else none
  | .lamed => if t.joined ∧ c.toNat = 0x5D0 then some (0, {}) else none
  | .bugineseYa => if t.joined ∧ c.toNat = 0x1A17 then some (0, of .bugineseIYa) else none
  | .bugineseIYa => if c.toNat = 0x1A15 then some (0, {}) else none
  | .tifinagh =>
    if c.toNat = 0x2D7F then some (1, of .tifinaghJoiner)
    else if t.joined && isTifinaghConsonant c then some (0, {})
    else none
  | .tifinaghJoiner => if isTifinaghConsonant c then some (-1, {}) else none
  | .lisuTone => if 0xA4F8 ≤ c.toNat ∧ c.toNat ≤ 0xA4FB then some (0, {}) else none
  | .orkhonI => if t.joined ∧ c.toNat = 0x10C32 then some (0, {}) else none
  | .khmerLetter => if c.toNat = 0x17D2 then some (-1, {}) else none

/-- The context before an invisible character that a ligature reaches over. -/
def reached? (t : Context) (c : Char) : Option Context :=
  if t.follower.isLetter && t.follower != .alef then
    if c.toNat = 0x200D then some { t with joined := true }
    else if isInvisibleMark c then some t
    else none
  else none

/-- What a character adds where nothing is known after it, and the context before it. -/
def alone (c : Char) : Int × Context :=
  (charWidth c, of (Follower.ofChar c))

/-- What a character adds to the columns of the text after it, and the context before it. -/
def add (t : Context) (c : Char) : Int × Context :=
  match t.shown? c with
  | some result => result
  | none =>
    if c.toNat ≤ 0xA0 then
      if c = '\r' ∧ t.follower = .lineFeed then (0, {}) else alone c
    else
      let t := t.unpictured
      match t.selected? c with
      | some t => (0, t)
      | none =>
        let t := t.unselected
        match t.reached? c with
        | some t => (0, t)
        | none => (t.ligature? c).getD (alone c)

end Context

/-- The columns of a text, and what its start is to a text before it. -/
def columns (cs : List Char) : Int × Context :=
  cs.foldr
    (fun c (total, t) =>
      let (more, t) := t.add c
      (total + more, t))
    (0, {})

/-- Columns taken by a text. -/
def width (text : String) : Nat :=
  (columns text.toList).1.toNat

end Companions.Text
