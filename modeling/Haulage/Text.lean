/-! Small rules that records and formats share: powers of the two bases that numbers are
written in, blank space, trimming, digits, and cutting a text after a number of UTF-8
bytes. -/
namespace Haulage

/-- Word sizes and limits go by powers of two. -/
def twoTo (n : Nat) : Nat := Nat.pow 2 n

/-- Places behind a point go by powers of ten. -/
def tenTo (n : Nat) : Nat := Nat.pow 10 n

/-- Characters with the Unicode property White_Space. -/
def isBlank (c : Char) : Bool :=
  let n := c.toNat
  (9 ≤ n && n ≤ 13) || n == 0x20 || n == 0x85 || n == 0xa0 || n == 0x1680 ||
    (0x2000 ≤ n && n ≤ 0x200a) || n == 0x2028 || n == 0x2029 || n == 0x202f ||
    n == 0x205f || n == 0x3000

def skipBlank (cs : List Char) : List Char := cs.dropWhile isBlank

def trimBlank (cs : List Char) : List Char :=
  (skipBlank (skipBlank cs).reverse).reverse

def isBlankText (s : String) : Bool := s.toList.all isBlank

/-- The first `n` UTF-8 bytes, `none` if a character straddles that place or the
text is shorter. -/
def bytePrefix? : Nat → List Char → Option (List Char)
  | 0, _ => some []
  | _ + 1, [] => none
  | n + 1, c :: rest =>
    if c.utf8Size ≤ n + 1 then (bytePrefix? (n + 1 - c.utf8Size) rest).map (c :: ·) else none
termination_by _ cs => cs.length

def digit? (c : Char) : Option Nat :=
  if '0' ≤ c ∧ c ≤ '9' then some (c.toNat - '0'.toNat) else none

def isDigit (c : Char) : Bool := (digit? c).isSome

def hexDigit? (c : Char) : Option Nat :=
  if 'a' ≤ c ∧ c ≤ 'f' then some (c.toNat - 'a'.toNat + 10)
  else if 'A' ≤ c ∧ c ≤ 'F' then some (c.toNat - 'A'.toNat + 10)
  else digit? c

def hexChar (n : Nat) : Char := if n < 10 then Char.ofNat (48 + n) else Char.ofNat (87 + n)

/-- `count` lowercase hexadecimal digits, the last ones of `n`. -/
def hexDigits : (count n : Nat) → List Char
  | 0, _ => []
  | count + 1, n => hexDigits count (n / 16) ++ [hexChar (n % 16)]

/-- The number that digit values write in `base`. -/
def ofDigits (base : Nat) (ds : List Nat) : Nat := ds.foldl (fun n d => base * n + d) 0

/-- The digits in front, and what follows them. -/
def spanDigits (cs : List Char) : List Nat × List Char :=
  ((cs.takeWhile isDigit).filterMap digit?, cs.dropWhile isDigit)

theorem length_spanDigits_le (cs : List Char) : (spanDigits cs).2.length ≤ cs.length :=
  (List.dropWhile_sublist _).length_le

theorem length_spanDigits_lt {cs : List Char} (h : (spanDigits cs).1 ≠ []) :
    (spanDigits cs).2.length < cs.length := by
  have split : (cs.takeWhile isDigit).length + (cs.dropWhile isDigit).length = cs.length := by
    rw [← List.length_append, List.takeWhile_append_dropWhile]
  have some : cs.takeWhile isDigit ≠ [] := fun none => h (by simp [spanDigits, none])
  have := List.length_pos_iff.2 some
  simp only [spanDigits]
  omega

/-- A number that fills the whole text, digits only. -/
def natOfText? (cs : List Char) : Option Nat :=
  if cs ≠ [] ∧ cs.all isDigit then some (ofDigits 10 (cs.filterMap digit?)) else none

/-- Decimal digits with zeros in front up to `width` of them. -/
def zeroPadded (width n : Nat) : String :=
  let ds := (toString n).toList
  String.ofList (List.replicate (width - ds.length) '0' ++ ds)

/-- The member of `all` that goes by the name `s`. -/
def named? {α : Type} (all : List α) (name : α → String) (s : String) : Option α :=
  all.find? (name · = s)

/-- Drops `token` from the front, `none` if the text starts otherwise. -/
def dropToken? (token : List Char) (cs : List Char) : Option (List Char) :=
  if token.isPrefixOf cs then some (cs.drop token.length) else none

end Haulage
