import Haulage.Json.Number

/-! The lexemes of JSON text: punctuation, literals, numbers and strings, how each is
written and how the next one is read. Main statement: `length_next?_lt`, a lexeme takes
at least one character. -/
namespace Haulage

inductive Lexeme where
  | arrayStart | arrayEnd | objectStart | objectEnd | comma | colon
  | null
  | bool (b : Bool)
  | number (n : JsonNumber)
  /-- A string, `none` if it has half a surrogate pair. -/
  | text (s : Option String)
deriving DecidableEq

namespace Lexeme

def isSpace (c : Char) : Bool := c = ' ' || c = '\n' || c = '\r' || c = '\t'

/-- A character within a string: quotes, backslashes and control characters are
escaped. -/
def writeChar (c : Char) : List Char :=
  match c with
  | '"' => ['\\', '"']
  | '\\' => ['\\', '\\']
  | '\x08' => ['\\', 'b']
  | '\x0c' => ['\\', 'f']
  | '\n' => ['\\', 'n']
  | '\r' => ['\\', 'r']
  | '\t' => ['\\', 't']
  | _ => if c.toNat < 0x20 then '\\' :: 'u' :: hexDigits 4 c.toNat else [c]

/-- A string in quotes. Half of a surrogate pair has no character, only an escape. -/
def writeText (s : Option String) : List Char :=
  match s with
  | some s => '"' :: s.toList.flatMap writeChar ++ ['"']
  | none => '"' :: '\\' :: 'u' :: hexDigits 4 0xd800 ++ ['"']

def writeNumber (n : JsonNumber) : List Char :=
  (if n.negative then ['-'] else []) ++ (toString n.whole).toList ++
    (if n.fraction = [] then [] else '.' :: n.fraction.flatMap fun d => (toString d).toList) ++
    match n.exponent with
    | some e => 'e' :: (toString e).toList
    | none => []

def write : Lexeme → List Char
  | arrayStart => ['[']
  | arrayEnd => [']']
  | objectStart => ['{']
  | objectEnd => ['}']
  | comma => [',']
  | colon => [':']
  | null => "null".toList
  | bool b => (if b then "true" else "false").toList
  | number n => writeNumber n
  | text s => writeText s

def isSurrogate (n : Nat) : Bool := 0xd800 ≤ n && n < 0xe000

/-- The characters of code units: surrogates count in pairs, the high half first. -/
def joinUnits? : List Nat → Option (List Char)
  | [] => some []
  | [n] => if isSurrogate n then none else some [Char.ofNat n]
  | n :: m :: rest =>
    if isSurrogate n then
      if n < 0xdc00 ∧ isSurrogate m ∧ 0xdc00 ≤ m then do
        return Char.ofNat (0x10000 + (n - 0xd800) * 0x400 + (m - 0xdc00)) :: (← joinUnits? rest)
      else none
    else do return Char.ofNat n :: (← joinUnits? (m :: rest))

/-- The character that a backslash makes of the next one. -/
def escaped? (c : Char) : Option Char :=
  match c with
  | '"' | '\\' | '/' => some c
  | 'b' => some '\x08'
  | 'f' => some '\x0c'
  | 'n' => some '\n'
  | 'r' => some '\r'
  | 't' => some '\t'
  | _ => none

/-- The code units of a string up to the quote that ends it, and what follows. A
character that is no escape is a unit of its own, whatever its size. -/
def readUnits? : List Char → Option (List Nat × List Char)
  | [] => none
  | '"' :: rest => some ([], rest)
  | '\\' :: 'u' :: a :: b :: c :: d :: rest => do
    let unit := ofDigits 16 (← [a, b, c, d].mapM hexDigit?)
    let (units, rest) ← readUnits? rest
    return (unit :: units, rest)
  | '\\' :: c :: rest => do
    let e ← escaped? c
    let (units, rest) ← readUnits? rest
    return (e.toNat :: units, rest)
  | c :: rest =>
    if c.toNat < 0x20 then none
    else do
      let (units, rest) ← readUnits? rest
      return (c.toNat :: units, rest)

theorem length_readUnits?_lt {cs : List Char} {r : List Nat × List Char}
    (h : readUnits? cs = some r) : r.2.length < cs.length := by
  fun_induction readUnits? cs generalizing r with
  | case1 => simp at h
  | case2 => grind
  | case3 a b c d rest ih =>
    obtain ⟨_, _, h⟩ := Option.bind_eq_some_iff.1 h
    obtain ⟨u, hu, h⟩ := Option.bind_eq_some_iff.1 h
    have := ih hu
    grind
  | case4 c rest _ ih =>
    obtain ⟨_, _, h⟩ := Option.bind_eq_some_iff.1 h
    obtain ⟨u, hu, h⟩ := Option.bind_eq_some_iff.1 h
    have := ih hu
    grind
  | case5 => simp at h
  | case6 c rest _ _ _ _ ih =>
    obtain ⟨u, hu, h⟩ := Option.bind_eq_some_iff.1 h
    have := ih hu
    grind

/-- The digits behind a point, at least one if there is a point. -/
def readFraction? (cs : List Char) : Option (List Nat × List Char) :=
  match cs with
  | '.' :: rest =>
    let (ds, rest) := spanDigits rest
    if ds = [] then none else some (ds, rest)
  | _ => some ([], cs)

/-- The digits of an exponent, at least one. -/
def readPower? (sign : Int) (cs : List Char) : Option (Option Int × List Char) :=
  let (ds, rest) := spanDigits cs
  if ds = [] then none else some (some (sign * ofDigits 10 ds), rest)

/-- An exponent, if `e` or `E` announces one. -/
def readExponent? (cs : List Char) : Option (Option Int × List Char) :=
  match cs with
  | e :: rest =>
    if e = 'e' ∨ e = 'E' then
      match rest with
      | '-' :: rest => readPower? (-1) rest
      | '+' :: rest => readPower? 1 rest
      | _ => readPower? 1 rest
    else some (none, cs)
  | [] => some (none, cs)

/-- Digits with no zero in front of others, and what follows them. -/
def readWhole? (cs : List Char) : Option (Nat × List Char) :=
  match cs with
  | '0' :: rest => some (0, rest)
  | _ =>
    let (ds, rest) := spanDigits cs
    if ds = [] then none else some (ofDigits 10 ds, rest)

def readNumber? (negative : Bool) (cs : List Char) : Option (Lexeme × List Char) := do
  let (whole, cs) ← readWhole? cs
  let (fraction, cs) ← readFraction? cs
  let (exponent, cs) ← readExponent? cs
  return (number { negative, whole, fraction, exponent }, cs)

theorem length_readWhole?_lt {cs : List Char} {r : Nat × List Char}
    (h : readWhole? cs = some r) : r.2.length < cs.length := by
  unfold readWhole? at h
  split at h
  · grind
  · have := @length_spanDigits_lt cs
    grind

theorem length_readFraction?_le {cs : List Char} {r : List Nat × List Char}
    (h : readFraction? cs = some r) : r.2.length ≤ cs.length := by
  unfold readFraction? at h
  split at h
  · next rest => have := length_spanDigits_le rest; grind
  · grind

theorem length_readPower?_le {sign : Int} {cs : List Char} {r : Option Int × List Char}
    (h : readPower? sign cs = some r) : r.2.length ≤ cs.length := by
  have := length_spanDigits_le cs
  unfold readPower? at h
  grind

theorem length_readExponent?_le {cs : List Char} {r : Option Int × List Char}
    (h : readExponent? cs = some r) : r.2.length ≤ cs.length := by
  unfold readExponent? at h
  split at h
  · split at h
    · split at h
      all_goals
        have := length_readPower?_le h
        grind
    · grind
  · grind

/-- The lexeme in front and what follows it; blanks are not expected. -/
def next? (cs : List Char) : Option (Lexeme × List Char) :=
  match cs with
  | [] => none
  | '[' :: rest => some (arrayStart, rest)
  | ']' :: rest => some (arrayEnd, rest)
  | '{' :: rest => some (objectStart, rest)
  | '}' :: rest => some (objectEnd, rest)
  | ',' :: rest => some (comma, rest)
  | ':' :: rest => some (colon, rest)
  | '"' :: rest => do
    let (units, rest) ← readUnits? rest
    return (text ((joinUnits? units).map String.ofList), rest)
  | 'n' :: 'u' :: 'l' :: 'l' :: rest => some (null, rest)
  | 't' :: 'r' :: 'u' :: 'e' :: rest => some (bool true, rest)
  | 'f' :: 'a' :: 'l' :: 's' :: 'e' :: rest => some (bool false, rest)
  | '-' :: rest => readNumber? true rest
  | _ => readNumber? false cs

theorem length_readNumber?_lt {negative : Bool} {cs : List Char} {r : Lexeme × List Char}
    (h : readNumber? negative cs = some r) : r.2.length < cs.length := by
  obtain ⟨w, hw, h⟩ := Option.bind_eq_some_iff.1 h
  obtain ⟨f, hf, h⟩ := Option.bind_eq_some_iff.1 h
  obtain ⟨e, he, h⟩ := Option.bind_eq_some_iff.1 h
  have := length_readWhole?_lt hw
  have := length_readFraction?_le hf
  have := length_readExponent?_le he
  grind

/-- A lexeme takes at least one character. -/
theorem length_next?_lt {cs : List Char} {r : Lexeme × List Char} (h : next? cs = some r) :
    r.2.length < cs.length := by
  unfold next? at h
  split at h
  case h_8 rest =>
    obtain ⟨u, hu, h⟩ := Option.bind_eq_some_iff.1 h
    have := length_readUnits?_lt hu
    grind
  case h_12 rest => have := length_readNumber?_lt h; grind
  case h_13 => exact length_readNumber?_lt h
  all_goals grind

end Lexeme
end Haulage
