import Haulage.Json.Number

/-! JSON values, as text gives them: objects keep the order of their members and the
keys that are written twice. A *document* is a value whose every part can be told: all
numbers finite, no half of a surrogate pair, no deeper than `Json.maxDepth`. -/
namespace Haulage

inductive Json where
  | null
  | bool (b : Bool)
  | number (n : JsonNumber)
  | text (s : String)
  | array (elements : List Json)
  | object (members : List (String × Json))
  /-- What can only be passed over: a string with half a surrogate pair, or an object
  with such a key. -/
  | unreadable

namespace Json

instance : Inhabited Json := ⟨null⟩

def ofInt (n : Int) : Json := number (.ofInt n)

/-- The value of a member, the last one if the key is written twice. -/
def get? (j : Json) (key : String) : Option Json :=
  match j with
  | object members => (members.reverse.find? (·.1 = key)).map (·.2)
  | _ => none

/-- Values within values that a document may have. -/
def maxDepth : Nat := 127

/-- The last member of each key, in order. -/
def lastMembers (members : List (String × Json)) : List (String × Json) :=
  members.foldr (fun m kept => if kept.any (·.1 = m.1) then kept else m :: kept) []

mutual

/-- The document that a value is at `depth` values within others: of members that share
a key the last one counts. -/
def documentAt? (depth : Nat) : Json → Option Json
  | null => some null
  | bool b => some (bool b)
  | number n => if n.isFinite then some (number n) else none
  | text s => some (text s)
  | array elements =>
    if depth < maxDepth then (elementsAt? (depth + 1) elements).map array else none
  | object members =>
    if depth < maxDepth then (membersAt? (depth + 1) members).map (object <| lastMembers ·)
    else none
  | unreadable => none

def elementsAt? (depth : Nat) : List Json → Option (List Json)
  | [] => some []
  | j :: rest => do return (← documentAt? depth j) :: (← elementsAt? depth rest)

def membersAt? (depth : Nat) : List (String × Json) → Option (List (String × Json))
  | [] => some []
  | (key, j) :: rest => do return (key, ← documentAt? depth j) :: (← membersAt? depth rest)

end

def document? (j : Json) : Option Json := documentAt? 0 j

end Json
end Haulage
