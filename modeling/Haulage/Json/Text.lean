import Haulage.Json.Basic
import Haulage.Json.Lexeme

/-! JSON text. Reading goes lexeme by lexeme, with the arrays and objects that are still
open on a stack, so that nesting has no limit; writing puts every element and member on
a line of its own. -/
namespace Haulage

namespace Json

/-- A key, `none` if it has half a surrogate pair. -/
abbrev Key := Option String

/-- The object of these members, if all keys can be told. -/
def ofMembers (members : List (Key × Json)) : Json :=
  match members.mapM fun (key, j) => key.map (·, j) with
  | some members => object members
  | none => unreadable

/-- An array or object around the value being read; what stands in it already, last one
first. -/
inductive Frame where
  | array (before : List Json)
  | object (before : List (Key × Json)) (key : Key)

/-- How far reading is: what may come next, and what is still open around it. -/
inductive Reading where
  | value (outer : List Frame)
  /-- The first element of an array, or its end. -/
  | element (outer : List Frame)
  /-- The first key of an object, or its end. -/
  | member (outer : List Frame)
  | key (before : List (Key × Json)) (outer : List Frame)
  /-- The colon behind a key. -/
  | colon (before : List (Key × Json)) (key : Key) (outer : List Frame)
  /-- What a value leaves open: a comma or an end. -/
  | done (j : Json) (outer : List Frame)

namespace Reading

/-- The lexeme is a value or begins one. -/
def begin? (outer : List Frame) : Lexeme → Option Reading
  | .null => some (done .null outer)
  | .bool b => some (done (.bool b) outer)
  | .number n => some (done (.number n) outer)
  | .text (some s) => some (done (.text s) outer)
  | .text none => some (done .unreadable outer)
  | .arrayStart => some (element outer)
  | .objectStart => some (member outer)
  | _ => none

/-- One lexeme further, `none` if it may not stand here. -/
def step? : Reading → Lexeme → Option Reading
  | value outer, l => begin? outer l
  | element outer, .arrayEnd => some (done (.array []) outer)
  | element outer, l => begin? (.array [] :: outer) l
  | member outer, .objectEnd => some (done (.object []) outer)
  | member outer, .text k => some (colon [] k outer)
  | key before outer, .text k => some (colon before k outer)
  | colon before k outer, .colon => some (value (.object before k :: outer))
  | done j (.array before :: outer), .comma => some (value (.array (j :: before) :: outer))
  | done j (.array before :: outer), .arrayEnd =>
    some (done (.array (j :: before).reverse) outer)
  | done j (.object before k :: outer), .comma => some (key ((k, j) :: before) outer)
  | done j (.object before k :: outer), .objectEnd =>
    some (done (ofMembers ((k, j) :: before).reverse) outer)
  | _, _ => none

def run? (r : Reading) (cs : List Char) : Option Reading :=
  match cs with
  | [] => some r
  | c :: rest =>
    if Lexeme.isSpace c then run? r rest
    else match h : Lexeme.next? (c :: rest) with
      | none => none
      | some (l, tail) =>
        have : tail.length ≤ rest.length := Nat.le_of_lt_succ (Lexeme.length_next?_lt h)
        match r.step? l with
        | some r => run? r tail
        | none => none
termination_by cs.length

end Reading

/-- The value that the whole text is. -/
def ofText? (s : String) : Option Json :=
  match (Reading.value []).run? s.toList with
  | some (.done j []) => some j
  | _ => none

/-- A new line, two blanks in for each level. -/
def lineBreak (level : Nat) : List Char := '\n' :: List.replicate (2 * level) ' '

/-- Parts on lines of their own between brackets; without parts the brackets alone. -/
def block (opening closing : Lexeme) (level : Nat) : List (List Char) → List Char
  | [] => opening.write ++ closing.write
  | first :: rest =>
    opening.write ++ lineBreak (level + 1) ++ first ++
      rest.flatMap (fun part => Lexeme.comma.write ++ lineBreak (level + 1) ++ part) ++
      lineBreak level ++ closing.write

mutual

/-- The text of a value that stands `level` deep. -/
def write (level : Nat) : Json → List Char
  | null => Lexeme.null.write
  | bool b => (Lexeme.bool b).write
  | number n => (Lexeme.number n).write
  | text s => (Lexeme.text (some s)).write
  | array elements => block .arrayStart .arrayEnd level (writeElements (level + 1) elements)
  | object members => block .objectStart .objectEnd level (writeMembers (level + 1) members)
  | unreadable => (Lexeme.text none).write

def writeElements (level : Nat) : List Json → List (List Char)
  | [] => []
  | j :: rest => write level j :: writeElements level rest

def writeMembers (level : Nat) : List (String × Json) → List (List Char)
  | [] => []
  | (key, j) :: rest =>
    ((Lexeme.text (some key)).write ++ Lexeme.colon.write ++ ' ' :: write level j) ::
      writeMembers level rest

end

def toText (j : Json) : String := String.ofList (j.write 0)

instance : ToString Json := ⟨toText⟩

end Json
end Haulage
