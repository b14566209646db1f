import Haulage.SortedMap

/-! Messages about fields, collected so that all problems are reported together.
Fields stand in code-point order, the messages of one field in the order in which
they were added. -/
namespace Haulage

/-- Field names with the messages about them. -/
structure FieldErrors where
  messages : SortedMap String (List String) := .empty
deriving DecidableEq

namespace FieldErrors

def empty : FieldErrors := {}

instance : Inhabited FieldErrors := ⟨empty⟩

/-- Puts messages behind those the field already has. -/
def addAll (e : FieldErrors) (field : String) (texts : List String) : FieldErrors :=
  ⟨e.messages.upsert field fun old => old.getD [] ++ texts⟩

def add (e : FieldErrors) (field text : String) : FieldErrors := e.addAll field [text]

def addIf (e : FieldErrors) (condition : Bool) (field text : String) : FieldErrors :=
  if condition then e.add field text else e

def single (field text : String) : FieldErrors := empty.add field text

/-- Merges another collection, each field renamed. -/
def appendAs (rename : String → String) (e other : FieldErrors) : FieldErrors :=
  other.messages.entries.foldl (fun e (field, texts) => e.addAll (rename field) texts) e

def append (e other : FieldErrors) : FieldErrors := appendAs id e other

/-- Merges another collection with its fields placed under `path` (`address.city`). -/
def appendUnder (e : FieldErrors) (path : String) (other : FieldErrors) : FieldErrors :=
  appendAs (fun field => path ++ "." ++ field) e other

def isEmpty (e : FieldErrors) : Bool := e.messages.entries.isEmpty

def get? (e : FieldErrors) (field : String) : Option (List String) := e.messages.get? field

def toPairs (e : FieldErrors) : List (String × String) :=
  e.messages.entries.flatMap fun (field, texts) => texts.map (field, ·)

def size (e : FieldErrors) : Nat := e.toPairs.length

def toText (e : FieldErrors) : String :=
  "; ".intercalate (e.toPairs.map fun (field, text) => field ++ ": " ++ text)

instance : ToString FieldErrors := ⟨toText⟩

end FieldErrors
end Haulage
