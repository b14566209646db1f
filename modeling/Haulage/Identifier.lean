import Haulage.Text

/-! Record identifiers: 128-bit numbers, typed by the kind of record they name so that
one cannot stand for another. New ones come from a supply that the caller owns. -/
namespace Haulage

structure Uuid where
  number : Nat
  number_lt : number < twoTo 128
deriving DecidableEq

namespace Uuid

instance : Inhabited Uuid := ⟨⟨0, by decide⟩⟩

/-- The last 128 bits of a number. -/
def ofNat (n : Nat) : Uuid := ⟨n % twoTo 128, Nat.mod_lt _ (by decide)⟩

/-- The identifier of version 4 with these 122 bits, the last ones of a number. -/
def version4 (bits : Nat) : Uuid :=
  ofNat (bits / twoTo 74 * twoTo 80 + 4 * twoTo 76 + bits / twoTo 62 % twoTo 12 * twoTo 64 + 2 * twoTo 62 +
    bits % twoTo 62)

instance : Ord Uuid := ⟨compareOn number⟩

instance : Std.TransOrd Uuid := inferInstanceAs (Std.TransCmp (compareOn number))

instance : Std.LawfulEqOrd Uuid where
  eq_of_compare {a b} h := by
    have : a.number = b.number := Std.compare_eq_iff_eq.1 h
    cases a; cases b; simp_all

/-- Lowercase, in groups of 8, 4, 4, 4 and 12 digits. -/
def toText (u : Uuid) : String :=
  String.ofList <|
    hexDigits 8 (u.number / twoTo 96) ++ '-' :: hexDigits 4 (u.number / twoTo 80) ++
    '-' :: hexDigits 4 (u.number / twoTo 64) ++ '-' :: hexDigits 4 (u.number / twoTo 48) ++
    '-' :: hexDigits 12 u.number

instance : ToString Uuid := ⟨toText⟩

/-- Exactly 32 hexadecimal digits. -/
def ofHex? (cs : List Char) : Option Uuid := do
  let ds ← cs.mapM hexDigit?
  if ds.length = 32 then some (ofNat (ofDigits 16 ds)) else none

/-- The hyphens out of the grouped form. -/
def ungroup? (cs : List Char) : Option (List Char) :=
  if cs.length = 36 ∧ [8, 13, 18, 23].all (cs[·]? = some '-') then
    some (cs.take 8 ++ (cs.drop 9).take 4 ++ (cs.drop 14).take 4 ++
      (cs.drop 19).take 4 ++ cs.drop 24)
  else none

/-- Bare digits, or the grouped form as it is, in braces or after `urn:uuid:`; digits
and letters in either case. -/
def ofText? (s : String) : Option Uuid :=
  let cs := s.toList
  if cs.length = 32 then ofHex? cs
  else if cs.length = 36 then (ungroup? cs).bind ofHex?
  else match cs with
    | '{' :: rest => if rest.getLast? = some '}' then (ungroup? rest.dropLast).bind ofHex? else none
    | _ =>
      if (cs.take 9).map Char.toLower = "urn:uuid:".toList then (ungroup? (cs.drop 9)).bind ofHex?
      else none

end Uuid

/-- The kinds of records that carry an identifier. -/
inductive Entity where
  | shipment | lineItem | invoice | dimensions | address | sit | carrier | performance | grouping
deriving DecidableEq

structure Id (entity : Entity) where
  uuid : Uuid
deriving DecidableEq

namespace Id
variable {entity : Entity}

instance : Inhabited (Id entity) := ⟨⟨default⟩⟩

instance : Ord (Id entity) := ⟨compareOn uuid⟩

instance : Std.TransOrd (Id entity) := inferInstanceAs (Std.TransCmp (compareOn uuid))

instance : Std.LawfulEqOrd (Id entity) where
  eq_of_compare {a b} h := by
    have : a.uuid = b.uuid := Std.compare_eq_iff_eq.1 h
    cases a; cases b; simp_all

instance : ToString (Id entity) := ⟨fun id => id.uuid.toText⟩

def ofText? (s : String) : Option (Id entity) := (Uuid.ofText? s).map (⟨·⟩)

end Id

abbrev ShipmentId := Id .shipment
abbrev LineItemId := Id .lineItem
abbrev InvoiceId := Id .invoice
abbrev DimensionsId := Id .dimensions
abbrev AddressId := Id .address
abbrev SitId := Id .sit
abbrev CarrierId := Id .carrier
abbrev PerformanceId := Id .performance
abbrev GroupingId := Id .grouping

/-- Identifiers not in use yet, in the order in which they are taken. -/
abbrev IdSupply := Nat → Uuid

end Haulage
