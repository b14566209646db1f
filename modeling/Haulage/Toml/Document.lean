import Haulage.Toml.Scalar

/-! TOML documents (TOML 1.1): keys with values, under headers of tables and of arrays of
tables. A document is refused for one fault of form, and for a key or a table that is
defined twice. -/
namespace Haulage.Toml

/-- How a table came about, which decides what may still be added to it. -/
inductive TableOrigin where
  /-- By a header of its own. -/
  | header
  /-- By the header of a table within it. -/
  | implied
  /-- By a key with points. -/
  | dotted
  /-- In braces; nothing can be added to it. -/
  | inline
deriving DecidableEq

inductive Node where
  | text (s : String)
  /-- A number, truth value, date or time. -/
  | plain
  | list
  | table (origin : TableOrigin) (members : List (String × Node))
  /-- An array of tables; the members are those of its last one. -/
  | tables (last : List (String × Node))

/-- Keys and what they stand for. -/
abbrev Members := List (String × Node)

namespace Members

def set (ms : Members) (key : String) (n : Node) : Members :=
  if ms.any (·.1 = key) then ms.map fun m => if m.1 = key then (key, n) else m
  else ms ++ [(key, n)]

/-- Defines a key. Points in it lead through tables, none of which may have a header unless
it is the last of an array, into one that keys with points have made. -/
def define? (value : Node) (origin : TableOrigin) : List String → Members → Option Members
  | [], _ => none
  | [key], ms =>
    if (ms.lookup key).isSome ∨ origin = .implied then none else some (ms ++ [(key, value)])
  | key :: path, ms =>
    match ms.lookup key with
    | none => (define? value .dotted path []).map fun inner => ms.set key (.table .dotted inner)
    | some (.table origin inner) =>
      if origin = .dotted ∨ origin = .implied then
        (define? value origin path inner).map fun inner => ms.set key (.table origin inner)
      else none
    | some (.tables inner) =>
      (define? value .implied path inner).map fun inner => ms.set key (.tables inner)
    | some _ => none

/-- Changes the table that a header names, `none` if a key on the way is no table. Tables
on the way are made where there are none. -/
def within? (f : Option Node → Option Node) : List String → Members → Option Members
  | [], _ => none
  | [key], ms => (f (ms.lookup key)).map (ms.set key)
  | key :: path, ms =>
    match ms.lookup key with
    | none => (within? f path []).map fun inner => ms.set key (.table .implied inner)
    | some (.table .inline _) => none
    | some (.table origin inner) =>
      (within? f path inner).map fun inner => ms.set key (.table origin inner)
    | some (.tables inner) => (within? f path inner).map fun inner => ms.set key (.tables inner)
    | some _ => none

/-- The header of a table: one that has none yet. -/
def openTable? (path : List String) (ms : Members) : Option Members :=
  within? (fun
    | none => some (.table .header [])
    | some (.table .implied inner) => some (.table .header inner)
    | some _ => none) path ms

/-- The header of one more table of an array. -/
def openElement? (path : List String) (ms : Members) : Option Members :=
  within? (fun
    | none | some (.tables _) => some (.tables [])
    | some _ => none) path ms

/-- Defines a key under a header; the empty header is that of the document. -/
def defineUnder? (header key : List String) (value : Node) (ms : Members) : Option Members :=
  if header = [] then define? value .header key ms
  else within? (fun
    | some (.table origin inner) => (define? value .header key inner).map (.table origin)
    | some (.tables inner) => (define? value .header key inner).map .tables
    | _ => none) header ms

end Members

mutual

def readValue? : (fuel depth : Nat) → List Char → Option (Node × List Char)
  | 0, _, _ => none
  | fuel + 1, depth, cs =>
    match cs with
    | '[' :: rest =>
      if depth = 0 then none else (readElements? fuel (depth - 1) rest).map (.list, ·)
    | '{' :: rest =>
      if depth = 0 then none
      else (readMembers? fuel (depth - 1) [] rest).map fun (ms, rest) => (.table .inline ms, rest)
    | '"' :: _ | '\'' :: _ => (readString? cs).map fun (s, rest) => (.text s, rest)
    | _ => (readPlain? cs).map (.plain, ·)

/-- What follows the elements of an array and its bracket. -/
def readElements? : (fuel depth : Nat) → List Char → Option (List Char)
  | 0, _, _ => none
  | fuel + 1, depth, cs => do
    match ← skipLines? (cs.length + 1) cs with
    | ']' :: rest => some rest
    | cs =>
      let (_, cs) ← readValue? fuel depth cs
      match ← skipLines? (cs.length + 1) cs with
      | ',' :: rest => readElements? fuel depth rest
      | ']' :: rest => some rest
      | _ => none

/-- The members of an inline table after `before`, and what follows its brace. -/
def readMembers? : (fuel depth : Nat) → (before : Members) → List Char →
    Option (Members × List Char)
  | 0, _, _, _ => none
  | fuel + 1, depth, before, cs => do
    match ← skipLines? (cs.length + 1) cs with
    | '}' :: rest => some (before, rest)
    | cs =>
      let (key, cs) ← readKey? cs
      let cs ← dropToken? ['='] cs
      let (value, cs) ← readValue? fuel depth (skipSpace cs)
      let ms ← before.define? value .header key
      match ← skipLines? (cs.length + 1) cs with
      | ',' :: rest => readMembers? fuel depth ms rest
      | '}' :: rest => some (ms, rest)
      | _ => none

end

/-- The document so far, and the header that keys stand under. -/
structure Draft where
  root : Members
  header : List String

namespace Draft

/-- The header, the key with its value, or the nothing that a line begins with. -/
def readStatement? (d : Draft) (cs : List Char) : Option (Draft × List Char) :=
  match cs with
  | '[' :: '[' :: rest => do
    let (path, rest) ← readKey? rest
    return (⟨← d.root.openElement? path, path⟩, ← dropToken? [']', ']'] rest)
  | '[' :: rest => do
    let (path, rest) ← readKey? rest
    return (⟨← d.root.openTable? path, path⟩, ← dropToken? [']'] rest)
  | [] | '#' :: _ | '\n' :: _ | '\r' :: _ => some (d, cs)
  | _ => do
    let (key, rest) ← readKey? cs
    let rest ← dropToken? ['='] rest
    let (value, rest) ← readValue? (rest.length + 1) maxDepth (skipSpace rest)
    return (⟨← d.root.defineUnder? d.header key value, d.header⟩, rest)

def run? : (fuel : Nat) → Draft → List Char → Option Members
  | 0, _, _ => none
  | fuel + 1, d, cs => do
    let (d, cs) ← d.readStatement? (skipSpace cs)
    match ← skipComment? cs with
    | [] => some d.root
    | cs => run? fuel d (← lineBreak? cs)

end Draft

/-- The keys of a document. A byte order mark in front is passed over. -/
def document? (s : String) : Option Members :=
  let cs := match s.toList with
    | '\ufeff' :: rest => rest
    | cs => cs
  Draft.run? (cs.length + 1) ⟨[], []⟩ cs

end Haulage.Toml
