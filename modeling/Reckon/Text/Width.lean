import Reckon.Text.Grapheme
import Reckon.Text.WidthTable

/-!
# The width of a text

How many columns of a terminal a text takes. A character alone takes one column, or none, or
two; but with what follows it, it may take another number: a variation selector turns a
character into a picture, pictures put together by joiners take no more room than one, and
some letters share a column with the next letter. So the width is found from the end of the
text, and what follows is kept as a `Context`.

* `Ligature`: letters that may share the column of the letter before them.
* `Follower`: what follows a character, as far as it bears on its width.
* `Context`: the follower, and the variation selector before it.
* `alone`: a character with nothing after it.
* `step`: a character with something after it.
* `width`: a whole text.
-/

namespace Reckon.Text

/-- Letters that may share the column of the letter before them. For some of them a joiner
has to stand between the two; `joined` says that it does. -/
inductive Ligature where
  /-- the Arabic letter alef, after lam -/
  | alef
  /-- the Hebrew letter lamed, after alef -/
  | lamed (joined : Bool)
  /-- a Khmer letter that can be written below another one -/
  | coeng
  /-- the Buginese letter ya -/
  | ya (joined : Bool)
  /-- the Buginese vowel i before ya -/
  | vowelYa
  /-- a Tifinagh consonant -/
  | tifinagh (joined : Bool)
  /-- the Tifinagh consonant joiner before a consonant -/
  | tifinaghJoiner
  /-- the Lisu tone letters that can stand below another tone -/
  | lisuTone
  /-- the Old Turkic letter i -/
  | turkicI (joined : Bool)
  deriving DecidableEq

/-- What follows a character. -/
inductive Follower where
  /-- nothing that bears on its width -/
  | plain
  /-- a newline -/
  | lineFeed
  /-- a skin tone -/
  | skinTone
  /-- one half of a flag -/
  | indicator
  /-- several halves of flags -/
  | indicators
  /-- a picture -/
  | picture
  /-- a joiner and a picture -/
  | joined
  /-- the frame of a key, a joiner and a picture -/
  | keycap
  /-- one half of a flag, a joiner and a picture -/
  | joinedIndicator
  /-- whole flags, a joiner and a picture -/
  | joinedFlags
  /-- whole flags and a half, a joiner and a picture -/
  | joinedFlagsHalf
  /-- letters of the name of a region, so many, at the end of a flag with a joiner and a
  picture after it -/
  | tagLetters (n : Nat)
  /-- digits of such a name, so many -/
  | tagDigits (n : Nat)
  /-- a letter that may share a column -/
  | ligature (l : Ligature)
  deriving DecidableEq

/-- What a variation selector asks for. -/
inductive Selector where
  | none | text | picture
  deriving DecidableEq

/-- What follows a character: a variation selector, perhaps, and what comes after it. -/
structure Context where
  /-- what comes after the selector -/
  follower : Follower
  /-- the selector -/
  selector : Selector
  deriving DecidableEq

namespace Context

/-- A context without a selector. -/
def of (f : Follower) : Context := ⟨f, .none⟩

/-- Nothing that bears on the width. -/
def plain : Context := .of .plain

/-- The context after a selector that asks for a picture. Letters that share a column and
joined pictures are still seen through it. -/
def selectPicture (x : Context) : Context :=
  match x.follower with
  | .ligature _ | .joined | .keycap => ⟨x.follower, .picture⟩
  | _ => ⟨.plain, .picture⟩

/-- The context after a selector that asks for text. -/
def selectText (x : Context) : Context :=
  match x.follower with
  | .ligature _ => ⟨x.follower, .text⟩
  | _ => ⟨.plain, .text⟩

/-- The context for a character that no picture can be made of. -/
def dropPicture (x : Context) : Context :=
  match x.selector, x.follower with
  | .picture, .ligature l => .of (.ligature l)
  | .picture, _ => .plain
  | _, _ => x

end Context

/-! ## Letters of the ligatures -/

/-- The letters of the alef group. -/
def isAlef (c : Char) : Bool :=
  Ranges.has [(0x622, 0x623), (0x625, 0x625), (0x627, 0x627), (0x671, 0x673), (0x675, 0x675),
    (0x773, 0x774), (0x870, 0x882)] c.toNat

/-- The letters of the lam group. -/
def isLam (c : Char) : Bool :=
  Ranges.has [(0x644, 0x644), (0x6b5, 0x6b8), (0x76a, 0x76a), (0x8a6, 0x8a6), (0x8c7, 0x8c7)]
    c.toNat

/-- The Khmer letters that can be written below another one. -/
def isCoeng (c : Char) : Bool :=
  Ranges.has [(0x1780, 0x1782), (0x1784, 0x1787), (0x1789, 0x178c), (0x178e, 0x1793),
    (0x1795, 0x1798), (0x179b, 0x179d), (0x17a0, 0x17a0), (0x17a2, 0x17a2), (0x17a7, 0x17a7),
    (0x17ab, 0x17ac), (0x17af, 0x17af)] c.toNat

/-- The consonants of Tifinagh. -/
def isTifinagh (c : Char) : Bool := Ranges.has [(0x2d31, 0x2d65), (0x2d6f, 0x2d6f)] c.toNat

/-- Marks that are not shown, which a ligature other than the Arabic one looks through. -/
def isSeenThrough (c : Char) : Bool :=
  Ranges.has [(0x34f, 0x34f), (0x17b4, 0x17b5), (0x180b, 0x180d), (0x180f, 0x180f),
    (0xfe00, 0xfe0f), (0xe0100, 0xe01ef)] c.toNat

/-- Marks that the joining of Arabic letters looks through. -/
def isTransparent (c : Char) : Bool :=
  Table.zeroWidth.has c.toNat && !Table.joining.has c.toNat

/-! ## One character -/

/-- The columns of a character with nothing after it, and the context that it makes. -/
def alone (c : Char) : Int × Context :=
  let n := c.toNat
  if c = '\ufe0e' then (0, ⟨.plain, .text⟩)
  else if c = '\ufe0f' then (0, ⟨.plain, .picture⟩)
  else if Table.zeroWidth.has n then (0, .plain)
  else if isIndicator c then (1, .of .indicator)
  else if isSkinTone c then (2, .of .skinTone)
  else if Table.picture.has n then (2, .of .picture)
  else if Table.wide.has n then (2, .plain)
  else if isAlef c then (1, .of (.ligature .alef))
  else if c = '\u05dc' then (1, .of (.ligature (.lamed false)))
  else if isCoeng c then (1, .of (.ligature .coeng))
  else if c = '\u17d8' then (3, .plain)
  else if c = '\u1a10' then (1, .of (.ligature (.ya false)))
  else if isTifinagh c then (1, .of (.ligature (.tifinagh false)))
  else if n = 0xa4fc || n = 0xa4fd then (1, .of (.ligature .lisuTone))
  else if n = 0x10c03 then (1, .of (.ligature (.turkicI false)))
  else (1, .plain)

/-- A joiner before a letter of a ligature. -/
def Ligature.join : Ligature → Ligature
  | .lamed _ => .lamed true
  | .ya _ => .ya true
  | .tifinagh _ => .tifinagh true
  | .turkicI _ => .turkicI true
  | l => l

/-- A character before a letter that may share its column. -/
def besideLigature (c : Char) (l : Ligature) : Int × Context :=
  if l ≠ .alef ∧ c = zeroWidthJoiner then (0, .of (.ligature l.join))
  else if l ≠ .alef ∧ isSeenThrough c then (0, .of (.ligature l))
  else
    match l with
    | .alef =>
      if isLam c then (0, .plain)
      else if isTransparent c then (0, .of (.ligature .alef))
      else alone c
    | .lamed joined => if joined && c = '\u05d0' then (0, .plain) else alone c
    | .coeng => if c = '\u17d2' then (-1, .plain) else alone c
    | .ya joined => if joined && c = '\u1a17' then (0, .of (.ligature .vowelYa)) else alone c
    | .vowelYa => if c = '\u1a15' then (0, .plain) else alone c
    | .tifinagh joined =>
      if c = '\u2d7f' then (1, .of (.ligature .tifinaghJoiner))
      else if joined && isTifinagh c then (0, .plain)
      else alone c
    | .tifinaghJoiner => if isTifinagh c then (-1, .plain) else alone c
    | .lisuTone => if 0xa4f8 ≤ c.toNat && c.toNat ≤ 0xa4fb then (0, .plain) else alone c
    | .turkicI joined => if joined && c.toNat = 0x10c32 then (0, .plain) else alone c

/-- A character before a joiner and a picture. -/
def besideJoined (c : Char) : Int × Context :=
  if c = '\u20e3' then (0, .of .keycap)
  else if isIndicator c then (1, .of .joinedIndicator)
  else if isSkinTone c then (0, .of .skinTone)
  else if c.toNat = 0xe007f then (0, .of (.tagLetters 0))
  else if (alone c).2 = .of .picture then (0, .of .picture)
  else alone c

/-- A character before part of the name of a region: up to six letters, or up to three digits
after which up to four letters came. The flag itself ends the name. -/
def besideTag (c : Char) (f : Follower) : Int × Context :=
  let letter := 0xe0061 ≤ c.toNat && c.toNat ≤ 0xe007a
  let digit := 0xe0030 ≤ c.toNat && c.toNat ≤ 0xe0039
  let flag := c.toNat = 0x1f3f4
  match f with
  | .tagLetters n =>
    if letter && n < 6 then (0, .of (.tagLetters (n + 1)))
    else if digit && n ≤ 4 then (0, .of (.tagDigits 1))
    else if flag && 3 ≤ n then (0, .of .picture)
    else alone c
  | .tagDigits n =>
    if digit && n < 3 then (0, .of (.tagDigits (n + 1)))
    else if flag && n = 3 then (0, .of .picture)
    else alone c
  | _ => alone c

/-- A character and what follows it without a selector. -/
def beside (c : Char) (f : Follower) : Int × Context :=
  let joiner := c = zeroWidthJoiner
  match f with
  | .ligature l => besideLigature c l
  | .skinTone =>
    if Table.modifierBase.has c.toNat then (0, .of .picture)
    else if joiner then (0, .of .joined)
    else alone c
  | .indicator => if isIndicator c then (1, .of .indicators) else alone c
  | .indicators =>
    if isIndicator c then (1, .of .indicators) else if joiner then (0, .of .joined) else alone c
  | .picture => if joiner then (0, .of .joined) else alone c
  | .joined => besideJoined c
  | .joinedIndicator => if isIndicator c then (-1, .of .joinedFlags) else alone c
  | .joinedFlags =>
    if isIndicator c then (3, .of .joinedFlagsHalf)
    else if joiner then (0, .of .joined)
    else alone c
  | .joinedFlagsHalf =>
    if isIndicator c then (-1, .of .joinedFlags)
    else if joiner then (0, .of .joined)
    else alone c
  | .tagLetters _ | .tagDigits _ => besideTag c f
  | .plain | .lineFeed | .keycap => alone c

/-- What a character adds to the width of the text after it, and the context that it makes.
The characters up to the no-break space take one column each, but a carriage return takes
none before a newline. -/
def step (c : Char) (x : Context) : Int × Context :=
  if x.selector = .picture && Table.pictureBase.has c.toNat then
    (if x.follower = .joined || x.follower = .keycap then 0 else 2, .of .picture)
  else
    let x := x.dropPicture
    if c.toNat ≤ 0xa0 then
      if c = '\n' then (1, .of .lineFeed)
      else if c = '\r' && x = .of .lineFeed then (0, .plain)
      else (1, .plain)
    else if c = '\ufe0f' then (0, x.selectPicture)
    else if c = '\ufe0e' then (0, x.selectText)
    else if x.selector = .text && Table.textBase.has c.toNat then (1, .plain)
    else beside c x.follower

/-! ## A whole text -/

/-- The width of a text, and the context that it makes for a character before it. -/
def measure (s : Text) : Int × Context :=
  s.foldr (fun c (n, x) => let (m, y) := step c x; (n + m, y)) (0, .plain)

/-- The columns that a text takes. -/
def width (s : Text) : Nat := (measure s).1.toNat

end Reckon.Text
