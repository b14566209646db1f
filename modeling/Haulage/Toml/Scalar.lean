import Haulage.Calendar.Date
import Haulage.Decimal.Binary
import Haulage.Duration

/-! TOML text up to single values: blanks, comments, strings, keys, numbers, dates and
times. Of values other than strings only form and range are checked. -/
namespace Haulage.Toml

/-- The parts that a key may have, and the arrays and tables within each other that a
value may have. -/
def maxDepth : Nat := 80

def isSpace (c : Char) : Bool := c = ' ' || c = '\t'

def skipSpace (cs : List Char) : List Char := cs.dropWhile isSpace

def isControl (c : Char) : Bool := (c.toNat < 0x20 && c ≠ '\t') || c = '\x7f'

/-- What follows a line break, `none` if there is none. -/
def lineBreak? (cs : List Char) : Option (List Char) :=
  match cs with
  | '\n' :: rest | '\r' :: '\n' :: rest => some rest
  | _ => none

/-- What follows the blanks and the comment that a line may end with. -/
def skipComment? (cs : List Char) : Option (List Char) :=
  match skipSpace cs with
  | '#' :: rest =>
    let body := rest.takeWhile (!isControl ·)
    let rest := rest.drop body.length
    if rest = [] ∨ (lineBreak? rest).isSome then some rest else none
  | cs => some cs

/-- Blanks, comments and line breaks, as they may stand within brackets. -/
def skipLines? : (fuel : Nat) → List Char → Option (List Char)
  | 0, _ => none
  | fuel + 1, cs => do
    let cs ← skipComment? cs
    match lineBreak? cs with
    | some rest => skipLines? fuel rest
    | none => some cs

/-- A code point in `count` hexadecimal digits. -/
def readCodePoint? (count : Nat) (cs : List Char) : Option (Char × List Char) := do
  if cs.length < count then none
  else
    let n := ofDigits 16 (← (cs.take count).mapM hexDigit?)
    if n.isValidChar then some (Char.ofNat n, cs.drop count) else none

/-- What a backslash makes of the text behind it. -/
def readEscape? (cs : List Char) : Option (Char × List Char) :=
  match cs with
  | 'b' :: rest => some ('\x08', rest)
  | 't' :: rest => some ('\t', rest)
  | 'n' :: rest => some ('\n', rest)
  | 'f' :: rest => some ('\x0c', rest)
  | 'r' :: rest => some ('\r', rest)
  | 'e' :: rest => some ('\x1b', rest)
  | '"' :: rest => some ('"', rest)
  | '\\' :: rest => some ('\\', rest)
  | 'x' :: rest => readCodePoint? 2 rest
  | 'u' :: rest => readCodePoint? 4 rest
  | 'U' :: rest => readCodePoint? 8 rest
  | _ => none

/-- The rest of a string of one line up to its quote; a backslash escapes in a basic
string and stands for itself in a literal one. -/
def readLine? (quote : Char) : (fuel : Nat) → List Char → Option (List Char × List Char)
  | 0, _ | _, [] => none
  | fuel + 1, c :: rest =>
    if c = quote then some ([], rest)
    else if c = '\\' ∧ quote = '"' then do
      let (e, rest) ← readEscape? rest
      let (s, rest) ← readLine? quote fuel rest
      return (e :: s, rest)
    else if isControl c then none
    else do
      let (s, rest) ← readLine? quote fuel rest
      return (c :: s, rest)

/-- The quotes that end a string of several lines: three, with up to two more that
belong to its text. -/
def closing? (quote : Char) (cs : List Char) : Option (List Char × List Char) :=
  let run := (cs.takeWhile (· = quote)).length
  if 3 ≤ run then some (List.replicate (min run 5 - 3) quote, cs.drop (min run 5)) else none

/-- The text behind blanks and line breaks. -/
def skipBlankLines : List Char → List Char
  | [] => []
  | '\r' :: '\n' :: rest => skipBlankLines rest
  | c :: rest => if isSpace c || c = '\n' then skipBlankLines rest else c :: rest

/-- What follows a backslash that ends a line: all blanks and line breaks there. -/
def joinLines? (cs : List Char) : Option (List Char) :=
  (lineBreak? (skipSpace cs)).map skipBlankLines

/-- The rest of a string of several lines. A line break stays as it is written. -/
def readLines? (quote : Char) : (fuel : Nat) → List Char → Option (List Char × List Char)
  | 0, _ | _, [] => none
  | fuel + 1, c :: rest =>
    match closing? quote (c :: rest) with
    | some result => some result
    | none =>
      if c = '\\' ∧ quote = '"' then
        match joinLines? rest with
        | some rest => readLines? quote fuel rest
        | none => do
          let (e, rest) ← readEscape? rest
          let (s, rest) ← readLines? quote fuel rest
          return (e :: s, rest)
      else if isControl c ∧ (lineBreak? (c :: rest)).isNone then none
      else do
        let (s, rest) ← readLines? quote fuel rest
        return (c :: s, rest)

/-- A string in single or threefold quotes; a line break right behind threefold ones
does not count. -/
def readString? (cs : List Char) : Option (String × List Char) :=
  match cs with
  | a :: b :: c :: rest =>
    if a ≠ '"' ∧ a ≠ '\'' then none
    else do
      let (s, rest) ← if b = a ∧ c = a then
          readLines? a (rest.length + 1) ((lineBreak? rest).getD rest)
        else readLine? a (cs.length) (b :: c :: rest)
      return (String.ofList s, rest)
  | ['"', '"'] | ['\'', '\''] => some ("", [])
  | _ => none

def isBareKey (c : Char) : Bool := Duration.isLetter c || isDigit c || c = '_' || c = '-'

def readKeyPart? (cs : List Char) : Option (String × List Char) :=
  match cs with
  | '"' :: rest => do
    let (s, rest) ← readLine? '"' (rest.length + 1) rest
    return (String.ofList s, rest)
  | '\'' :: rest => do
    let (s, rest) ← readLine? '\'' (rest.length + 1) rest
    return (String.ofList s, rest)
  | _ =>
    let part := cs.takeWhile isBareKey
    if part = [] then none else some (String.ofList part, cs.drop part.length)

/-- The parts of a key between points, with blanks around them; no more than
`maxDepth`. -/
def readKey? (cs : List Char) : Option (List String × List Char) := readParts? maxDepth cs
where
  readParts? : (most : Nat) → List Char → Option (List String × List Char)
    | 0, _ => none
    | most + 1, cs => do
      let (part, cs) ← readKeyPart? (skipSpace cs)
      match skipSpace cs with
      | '.' :: rest => do
        let (parts, rest) ← readParts? most rest
        return (part :: parts, rest)
      | rest => some ([part], rest)

/-- Digits with single underscores between them, at least one. -/
def isDigits (digit : Char → Bool) : List Char → Bool
  | [] => false
  | [c] => digit c
  | c :: '_' :: rest => digit c && isDigits digit rest
  | c :: rest => digit c && isDigits digit rest

def dropSign (cs : List Char) : List Char :=
  match cs with
  | '+' :: rest | '-' :: rest => rest
  | _ => cs

/-- Decimal digits with no zero in front of others. -/
def isWhole (cs : List Char) : Bool :=
  isDigits isDigit cs && (cs.head? ≠ some '0' || cs.length = 1)

/-- An integer between -2^127 and 2^128 in decimal notation, or a smaller one than that
in base 16, 8 or 2. -/
def isInteger (cs : List Char) : Bool :=
  match cs with
  | '0' :: 'x' :: ds => isDigits (fun c => (hexDigit? c).isSome) ds && inRange 16 ds
  | '0' :: 'o' :: ds => isDigits (fun c => '0' ≤ c && c ≤ '7') ds && inRange 8 ds
  | '0' :: 'b' :: ds => isDigits (fun c => c = '0' || c = '1') ds && inRange 2 ds
  | '-' :: ds => isWhole ds && ofDigits 10 (ds.filterMap hexDigit?) ≤ twoTo 127
  | _ => isWhole (dropSign cs) && inRange 10 (dropSign cs)
where
  inRange (base : Nat) (ds : List Char) : Bool := ofDigits base (ds.filterMap hexDigit?) < twoTo 128

/-- The number of these digits times `10 ^ e` does not exceed the binary ones of 64
bits. Only where its order of magnitude is that of the largest one is it looked at. -/
def isFinite (digits : List Nat) (e : Int) : Bool :=
  let digits := digits.dropWhile (· = 0)
  let order := digits.length + e
  digits = [] || order < 309 ||
    (order = 309 &&
      (Binary64.nearest? (ofDigits 10 digits * tenTo e.toNat) (tenTo (-e).toNat)).isSome)

/-- The exponent behind `e`; there may be none. -/
def exponentOf (power : List Char) : Int :=
  let n : Int := ofDigits 10 (power.filterMap digit?)
  if power.contains '-' then -n else n

/-- A whole part with a fraction, an exponent or both; infinity; or no number. -/
def isFloat (cs : List Char) : Bool :=
  let cs := dropSign cs
  let base := cs.takeWhile fun c => c ≠ 'e' ∧ c ≠ 'E'
  let power := cs.drop base.length
  let whole := base.takeWhile (· ≠ '.')
  let places := base.drop whole.length
  cs = "inf".toList || cs = "nan".toList ||
    (isWhole whole && places.tail?.all (isDigits isDigit) &&
      power.tail?.all (fun digits => isDigits isDigit (dropSign digits)) &&
      !(places.isEmpty && power.isEmpty) &&
      isFinite (base.filterMap digit?) (exponentOf power - (places.filterMap digit?).length))

/-- Digits of a fixed count that write a number in a range. -/
def isField (cs : List Char) (width low high : Nat) : Bool :=
  cs.length = width && (natOfText? cs).any fun n => low ≤ n && n ≤ high

def isDate (cs : List Char) : Bool :=
  match natOfText? (cs.take 4), cs.drop 4 with
  | some year, '-' :: a :: b :: '-' :: day =>
    isField [a, b] 2 1 12 &&
      isField day 2 1 (Date.daysInMonth year ((natOfText? [a, b]).getD 0))
  | _, _ => false

/-- Seconds may be left out, and a fraction may follow them. -/
def isTime (cs : List Char) : Bool :=
  isField (cs.take 2) 2 0 23 &&
    (match cs.drop 2 with
    | ':' :: a :: b :: rest =>
      isField [a, b] 2 0 59 &&
        (match rest with
        | [] => true
        | ':' :: c :: d :: rest =>
          isField [c, d] 2 0 60 &&
            (match rest with
            | [] => true
            | '.' :: places => places ≠ [] && places.all isDigit
            | _ => false)
        | _ => false)
    | _ => false)

def isZonedTime (cs : List Char) : Bool :=
  isTime cs ||
    (match cs.reverse with
    | 'Z' :: time | 'z' :: time => isTime time.reverse
    | d :: c :: ':' :: b :: a :: sign :: time =>
      (sign = '+' || sign = '-') && isField [a, b] 2 0 23 && isField [c, d] 2 0 59 &&
        isTime time.reverse
    | _ => false)

/-- A date, a time, or both with `T` or a blank between them. -/
def isDateTime (cs : List Char) : Bool :=
  isTime cs || isDate cs ||
    (isDate (cs.take 10) &&
      (match cs.drop 10 with
      | sep :: time => (sep = 'T' || sep = 't' || sep = ' ') && isZonedTime time
      | [] => false))

def isPlain (c : Char) : Bool := isBareKey c || c = '+' || c = '.' || c = ':'

/-- The text of a plain value; a date and the time behind a blank are one. -/
def takePlain (cs : List Char) : List Char :=
  let first := cs.takeWhile isPlain
  match cs.drop first.length with
  | ' ' :: rest =>
    if isDate first ∧ (rest.head?.any isDigit) then first ++ ' ' :: rest.takeWhile isPlain
    else first
  | _ => first

def readPlain? (cs : List Char) : Option (List Char) :=
  let text := takePlain cs
  if text = "true".toList ∨ text = "false".toList ∨ isInteger text ∨ isFloat text ∨
      isDateTime text then some (cs.drop text.length)
  else none

end Haulage.Toml
