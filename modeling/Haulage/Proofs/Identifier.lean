import Haulage.Identifier
import Haulage.Proofs.Text.Numeral

/-! The text of an identifier is read as that identifier. -/
namespace Haulage

namespace Uuid

theorem ungroup?_groups {a b c d e : List Char} (ha : a.length = 8) (hb : b.length = 4)
    (hc : c.length = 4) (hd : d.length = 4) (he : e.length = 12) :
    ungroup? (a ++ '-' :: b ++ '-' :: c ++ '-' :: d ++ '-' :: e) =
      some (a ++ b ++ c ++ d ++ e) := by
  simp (disch := omega) [ungroup?, List.getElem?_append, List.drop_append,
    List.drop_of_length_le, ha, hb, hc, hd, he, List.getElem?_cons_zero]

theorem ofNat_number (u : Uuid) : ofNat u.number = u := by
  simp only [ofNat, Nat.mod_eq_of_lt u.number_lt]

theorem ofHex?_hexDigits (u : Uuid) : ofHex? (hexDigits 32 u.number) = some u := by
  obtain ⟨ds, read, length, value⟩ := mapM_hexDigit?_hexDigits 32 u.number
  have fits : u.number % 16 ^ 32 = u.number := Nat.mod_eq_of_lt u.number_lt
  rw [ofHex?, read]
  show (if ds.length = 32 then some (ofNat (ofDigits 16 ds)) else none) = some u
  rw [if_pos length, value, fits, ofNat_number]

theorem ofText?_toText (u : Uuid) : ofText? u.toText = some u := by
  have digits : hexDigits 8 (u.number / twoTo 96) ++ hexDigits 4 (u.number / twoTo 80) ++
      hexDigits 4 (u.number / twoTo 64) ++ hexDigits 4 (u.number / twoTo 48) ++
      hexDigits 12 u.number = hexDigits 32 u.number := by
    have next (count more k : Nat) : hexDigits count (u.number / 16 ^ (k + more)) ++
        hexDigits more (u.number / 16 ^ k) = hexDigits (count + more) (u.number / 16 ^ k) := by
      rw [Nat.pow_add, ← Nat.div_div_eq_div_mul, hexDigits_append]
    have last := hexDigits_append 20 12 u.number
    rw [← next 16 4 12, ← next 12 4 16, ← next 8 4 20] at last
    exact last
  have groups := ungroup?_groups (length_hexDigits 8 (u.number / twoTo 96))
    (length_hexDigits 4 (u.number / twoTo 80)) (length_hexDigits 4 (u.number / twoTo 64))
    (length_hexDigits 4 (u.number / twoTo 48)) (length_hexDigits 12 u.number)
  rw [digits] at groups
  have length : u.toText.toList.length = 36 := by
    simp [toText]
  rw [ofText?, if_neg (by omega), if_pos length]
  rw [toText, String.toList_ofList, groups, Option.bind_some, ofHex?_hexDigits]

end Uuid

theorem Id.ofText?_toText {e : Entity} (id : Id e) : Id.ofText? id.uuid.toText = some id := by
  rw [Id.ofText?, Uuid.ofText?_toText, Option.map_some]

end Haulage
