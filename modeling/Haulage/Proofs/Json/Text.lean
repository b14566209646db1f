import Haulage.Json.Text
import Haulage.Proofs.Json.Lexeme

/-! A JSON value is read from its own text, and is a document as it stands, if it has integers
for numbers and writes no key twice. -/
namespace Haulage

/-- Where what is written of each element is read as what `f` makes of it, so is a list. -/
theorem mapM_written {α β γ : Type} {write : α → β} {read : β → Option γ} {f : α → γ}
    (reads : ∀ a, read (write a) = some (f a)) (as : List α) :
    (as.map write).mapM read = some (as.map f) := by
  induction as with
  | nil => rfl
  | cons a rest ih => simp [reads, ih]

theorem JsonNumber.toInt?_ofInt (n : Int) : (ofInt n).toInt? = some n := by
  have whole : ¬ (decide (n < 0) = true ∧ n.natAbs = 0) := by
    rw [decide_eq_true_eq]
    omega
  have value : (if decide (n < 0) = true then -(n.natAbs : Int) else n.natAbs) = n := by
    simp only [decide_eq_true_eq]
    omega
  rw [ofInt, toInt?, if_pos ⟨rfl, rfl, whole⟩, value]

namespace Json

/-- Integers of 64 bits for numbers, no key twice in an object, every text readable, and no more
than `height` arrays and objects within each other. -/
inductive Plain : Nat → Json → Prop
  | null {h : Nat} : Plain h .null
  | bool {h : Nat} (b : Bool) : Plain h (.bool b)
  | int {h : Nat} (n : Int) : -(twoTo 63 : Int) ≤ n → n < twoTo 64 → Plain h (.ofInt n)
  | text {h : Nat} (s : String) : Plain h (.text s)
  | array {h : Nat} {elements : List Json} : (∀ j ∈ elements, Plain h j) →
      Plain (h + 1) (.array elements)
  | object {h : Nat} {members : List (String × Json)} : (∀ m ∈ members, Plain h m.2) →
      (members.map (·.1)).Nodup → Plain (h + 1) (.object members)

theorem Plain.mono {j : Json} {h h' : Nat} (plain : Plain h j) (le : h ≤ h') : Plain h' j := by
  induction plain generalizing h' with
  | null => exact .null
  | bool b => exact .bool b
  | int n low high => exact .int n low high
  | text s => exact .text s
  | array _ ih =>
    obtain ⟨k, rfl⟩ := Nat.exists_eq_add_of_le le
    rw [Nat.add_right_comm]
    exact .array fun j mem => ih j mem (Nat.le_add_right _ k)
  | object _ distinct ih =>
    obtain ⟨k, rfl⟩ := Nat.exists_eq_add_of_le le
    rw [Nat.add_right_comm]
    exact .object (fun m mem => ih m mem (Nat.le_add_right _ k)) distinct

namespace Reading
variable {r r' : Reading} {l : Lexeme} {rest : List Char} {outer : List Frame}

theorem run?_lexeme {cs : List Char} (next : Lexeme.next? cs = some (l, rest))
    (step : r.step? l = some r') : r.run? cs = r'.run? rest := by
  cases cs with
  | nil => contradiction
  | cons c more =>
    rw [run?, Lexeme.isSpace_of_next? next, if_neg Bool.false_ne_true]
    split
    · next unread =>
      rw [next] at unread
      contradiction
    · next found =>
      rw [next] at found
      obtain ⟨rfl, rfl⟩ := Prod.mk.inj (Option.some.inj found)
      simp only [step]

theorem run?_write (next : ∀ rest, Lexeme.next? (l.write ++ rest) = some (l, rest))
    (step : r.step? l = some r') : r.run? (l.write ++ rest) = r'.run? rest :=
  run?_lexeme (next rest) step

theorem run?_blank {c : Char} (blank : Lexeme.isSpace c = true) : r.run? (c :: rest) = r.run? rest := by
  rw [run?, blank, if_pos rfl]

theorem run?_lineBreak (level : Nat) : r.run? (lineBreak level ++ rest) = r.run? rest := by
  rw [lineBreak, List.cons_append, run?_blank rfl]
  induction 2 * level with
  | zero => rfl
  | succ n ih => rw [List.replicate_succ, List.cons_append, run?_blank rfl, ih]

/-- A value may come next, within `outer`. Where the first element of an array is expected the
array may end instead. -/
def Expects (r : Reading) (outer : List Frame) : Prop :=
  ∀ l, l ≠ .arrayEnd → r.step? l = begin? outer l

theorem expects_value : (value outer).Expects outer := fun _ _ => rfl

theorem expects_element : (element outer).Expects (.array [] :: outer) := by
  intro l other
  cases l <;> first | rfl | contradiction

end Reading

/-- What may follow a value: an end, a comma or a line break. -/
def Follows (rest : List Char) : Prop := ∀ c ∈ rest.head?, c = ',' ∨ c = '\n'

theorem follows_nil : Follows [] := by simp [Follows]

theorem Follows.endsNumber {rest : List Char} (follows : Follows rest) :
    Lexeme.EndsNumber rest := by
  intro c mem
  rcases follows c mem with rfl | rfl <;> decide

/-- A text is read as a value wherever one is expected. -/
def ReadsAs (cs : List Char) (j : Json) : Prop :=
  ∀ {r : Reading} {outer : List Frame} {rest : List Char}, r.Expects outer → Follows rest →
    r.run? (cs ++ rest) = (Reading.done j outer).run? rest

theorem readsAs_lexeme {l : Lexeme} {j : Json} (other : l ≠ .arrayEnd)
    (next : ∀ {rest}, Follows rest → Lexeme.next? (l.write ++ rest) = some (l, rest))
    (begins : ∀ outer, Reading.begin? outer l = some (.done j outer)) : ReadsAs l.write j :=
  fun expects follows =>
    Reading.run?_lexeme (next follows) ((expects l other).trans (begins _))

section Write
variable {r : Reading} {rest : List Char} {outer : List Frame} {level : Nat}

theorem follows_lineBreak : Follows (lineBreak level ++ rest) := by
  intro c mem
  exact .inr (Option.some.inj mem).symm

/-- The parts of a block behind its first one, and what follows them. -/
def furtherParts (level : Nat) (parts : List (List Char)) (rest : List Char) : List Char :=
  parts.flatMap (fun part => Lexeme.comma.write ++ lineBreak (level + 1) ++ part) ++
    (lineBreak level ++ rest)

theorem follows_furtherParts (parts : List (List Char)) :
    Follows (furtherParts level parts rest) := by
  cases parts with
  | nil => exact follows_lineBreak
  | cons part more =>
    intro c mem
    exact .inl (Option.some.inj mem).symm

theorem furtherParts_cons (part : List Char) (more : List (List Char)) :
    furtherParts level (part :: more) rest = Lexeme.comma.write ++
      (lineBreak (level + 1) ++ (part ++ furtherParts level more rest)) := by
  simp only [furtherParts, List.flatMap_cons, List.append_assoc]

theorem block_cons (opening closing : Lexeme) (first : List Char) (more : List (List Char)) :
    block opening closing level (first :: more) ++ rest = opening.write ++
      (lineBreak (level + 1) ++ (first ++ furtherParts level more (closing.write ++ rest))) := by
  simp only [block, furtherParts, List.append_assoc]

/-- The elements behind the first one, with those before them on the stack. -/
theorem run?_furtherElements {elements : List Json}
    (reads : ∀ j ∈ elements, ReadsAs (j.write (level + 1)) j) (j : Json) (before : List Json) :
    (Reading.done j (.array before :: outer)).run?
        (furtherParts level (writeElements (level + 1) elements) (Lexeme.arrayEnd.write ++ rest)) =
      (Reading.done (.array ((j :: before).reverse ++ elements)) outer).run? rest := by
  induction elements generalizing j before with
  | nil =>
    rw [List.append_nil]
    exact (Reading.run?_lineBreak level).trans (Reading.run?_write (fun _ => rfl) rfl)
  | cons next more ih =>
    obtain ⟨here, there⟩ := List.forall_mem_cons.1 reads
    rw [writeElements, furtherParts_cons, Reading.run?_write (fun _ => rfl) rfl,
      Reading.run?_lineBreak, here Reading.expects_value (follows_furtherParts _), ih there]
    simp

theorem readsAs_array {elements : List Json}
    (reads : ∀ j ∈ elements, ReadsAs (j.write (level + 1)) j) :
    ReadsAs ((Json.array elements).write level) (.array elements) := by
  intro r outer rest expects follows
  have opens : r.step? .arrayStart = some (.element outer) := expects _ nofun
  rw [write]
  cases elements with
  | nil =>
    rw [writeElements, block, List.append_assoc, Reading.run?_write (fun _ => rfl) opens,
      Reading.run?_write (fun _ => rfl) rfl]
  | cons first more =>
    obtain ⟨here, there⟩ := List.forall_mem_cons.1 reads
    rw [writeElements, block_cons, Reading.run?_write (fun _ => rfl) opens,
      Reading.run?_lineBreak, here Reading.expects_element (follows_furtherParts _),
      run?_furtherElements there]
    simp

/-- A key and its value, where a key is expected. -/
theorem run?_member {cs : List Char} {j : Json} {before : List (Key × Json)} (key : String)
    (asks : ∀ k, r.step? (.text k) = some (.colon before k outer)) (reads : ReadsAs cs j)
    (follows : Follows rest) :
    r.run? (((Lexeme.text (some key)).write ++ Lexeme.colon.write ++ ' ' :: cs) ++ rest) =
      (Reading.done j (.object before (some key) :: outer)).run? rest := by
  rw [List.append_assoc, List.append_assoc,
    Reading.run?_write (Lexeme.next?_text key) (asks _),
    Reading.run?_write (fun _ => rfl) rfl, List.cons_append, Reading.run?_blank rfl,
    reads Reading.expects_value follows]

/-- The members behind the first one. -/
theorem run?_furtherMembers {members : List (String × Json)}
    (reads : ∀ m ∈ members, ReadsAs (m.2.write (level + 1)) m.2) (j : Json) (k : Key)
    (before : List (Key × Json)) :
    (Reading.done j (.object before k :: outer)).run?
        (furtherParts level (writeMembers (level + 1) members) (Lexeme.objectEnd.write ++ rest)) =
      (Reading.done (ofMembers (((k, j) :: before).reverse ++
        members.map fun (key, j) => (some key, j))) outer).run? rest := by
  induction members generalizing j k before with
  | nil =>
    rw [List.map_nil, List.append_nil]
    exact (Reading.run?_lineBreak level).trans (Reading.run?_write (fun _ => rfl) rfl)
  | cons next more ih =>
    obtain ⟨here, there⟩ := List.forall_mem_cons.1 reads
    rw [writeMembers, furtherParts_cons, Reading.run?_write (fun _ => rfl) rfl,
      Reading.run?_lineBreak, run?_member next.1 (fun _ => rfl) here (follows_furtherParts _),
      ih there]
    simp

theorem ofMembers_map_some (members : List (String × Json)) :
    ofMembers (members.map fun (key, j) => (some key, j)) = .object members := by
  have known : (members.map fun (key, j) => ((some key : Key), j)).mapM
      (fun (key, j) => key.map (·, j)) = some (members.map id) := by
    refine mapM_written (fun m => ?_) members
    rfl
  rw [ofMembers, known, List.map_id]

theorem readsAs_object {members : List (String × Json)}
    (reads : ∀ m ∈ members, ReadsAs (m.2.write (level + 1)) m.2) :
    ReadsAs ((Json.object members).write level) (.object members) := by
  intro r outer rest expects follows
  have opens : r.step? .objectStart = some (.member outer) := expects _ nofun
  rw [write]
  cases members with
  | nil =>
    rw [writeMembers, block, List.append_assoc, Reading.run?_write (fun _ => rfl) opens,
      Reading.run?_write (fun _ => rfl) rfl]
  | cons first more =>
    obtain ⟨here, there⟩ := List.forall_mem_cons.1 reads
    rw [writeMembers, block_cons, Reading.run?_write (fun _ => rfl) opens,
      Reading.run?_lineBreak, run?_member first.1 (fun _ => rfl) here (follows_furtherParts _),
      run?_furtherMembers there, ← ofMembers_map_some]
    rfl

theorem Plain.readsAs {h : Nat} {j : Json} (plain : Plain h j) (level : Nat) :
    ReadsAs (j.write level) j := by
  induction plain generalizing level with
  | null => exact readsAs_lexeme (l := .null) nofun (fun _ => rfl) (fun _ => rfl)
  | bool b =>
    exact readsAs_lexeme (l := .bool b) nofun (fun _ => by cases b <;> rfl) (fun _ => rfl)
  | int n _ _ =>
    exact readsAs_lexeme (l := .number (.ofInt n)) nofun
      (fun follows => Lexeme.next?_number ⟨rfl, rfl⟩ follows.endsNumber) (fun _ => rfl)
  | text s =>
    exact readsAs_lexeme (l := .text (some s)) nofun (fun _ => Lexeme.next?_text s _)
      (fun _ => rfl)
  | array _ ih => exact readsAs_array fun j mem => ih j mem (level + 1)
  | object _ _ ih => exact readsAs_object fun m mem => ih m mem (level + 1)

end Write

/-- A plain value is read from its text. -/
theorem Plain.ofText?_toText {h : Nat} {j : Json} (plain : Plain h j) :
    ofText? j.toText = some j := by
  have read : (Reading.value []).run? (j.write 0) = some (.done j []) := by
    rw [← List.append_nil (j.write 0), plain.readsAs 0 Reading.expects_value follows_nil,
      Reading.run?]
  rw [ofText?, toText, String.toList_ofList, read]

theorem elementsAt?_eq {depth : Nat} {elements : List Json}
    (documents : ∀ j ∈ elements, documentAt? depth j = some j) :
    elementsAt? depth elements = some elements := by
  induction elements with
  | nil => rfl
  | cons j rest ih =>
    obtain ⟨here, there⟩ := List.forall_mem_cons.1 documents
    rw [elementsAt?, here, ih there]
    rfl

theorem membersAt?_eq {depth : Nat} {members : List (String × Json)}
    (documents : ∀ m ∈ members, documentAt? depth m.2 = some m.2) :
    membersAt? depth members = some members := by
  induction members with
  | nil => rfl
  | cons m rest ih =>
    obtain ⟨here, there⟩ := List.forall_mem_cons.1 documents
    rw [membersAt?, here, ih there]
    rfl

theorem lastMembers_of_nodup {members : List (String × Json)}
    (distinct : (members.map (·.1)).Nodup) : lastMembers members = members := by
  induction members with
  | nil => rfl
  | cons m rest ih =>
    obtain ⟨fresh, distinct⟩ := List.nodup_cons.1 distinct
    have unknown : rest.any (·.1 = m.1) = false := by
      simp only [List.any_eq_false, decide_eq_true_eq]
      exact fun other mem same => fresh (List.mem_map.2 ⟨other, mem, same⟩)
    rw [lastMembers, List.foldr_cons, ← lastMembers, ih distinct, unknown]
    rfl

/-- A plain value is a document, wherever it is not too deep. -/
theorem Plain.documentAt?_eq {h depth : Nat} {j : Json} (plain : Plain h j)
    (shallow : depth + h ≤ maxDepth) : documentAt? depth j = some j := by
  induction plain generalizing depth with
  | null => rfl
  | bool b => rfl
  | int n low high =>
    have finite : (JsonNumber.ofInt n).isFinite = true := by
      simp [JsonNumber.isFinite, JsonNumber.toWord?, JsonNumber.toInt?_ofInt, low, high]
    rw [ofInt, documentAt?, finite, if_pos rfl]
  | text s => rfl
  | array _ ih =>
    have inner : depth < maxDepth := by omega
    rw [documentAt?, if_pos inner, elementsAt?_eq fun j mem => ih j mem (by omega), Option.map_some]
  | object _ distinct ih =>
    have inner : depth < maxDepth := by omega
    rw [documentAt?, if_pos inner, membersAt?_eq fun m mem => ih m mem (by omega), Option.map_some,
      lastMembers_of_nodup distinct]

theorem Plain.document?_eq {h : Nat} {j : Json} (plain : Plain h j) (shallow : h ≤ maxDepth) :
    document? j = some j :=
  plain.documentAt?_eq (by omega)

end Json
end Haulage
