import Haulage.Json.Lexeme
import Haulage.Proofs.Text.Numeral

/-! A lexeme that is written is the next one to be read: strings with whatever characters they
have, and numbers without point and exponent. -/
namespace Haulage.Lexeme

theorem readUnits?_unit {a b c d : Char} {ds : List Nat}
    (digits : [a, b, c, d].mapM hexDigit? = some ds) (rest : List Char) :
    readUnits? ('\\' :: 'u' :: a :: b :: c :: d :: rest) =
      (readUnits? rest).map fun (units, rest) => (ofDigits 16 ds :: units, rest) := by
  rw [readUnits?, digits]
  cases readUnits? rest <;> rfl

theorem readUnits?_escape {c e : Char} (short : c ≠ 'u') (escape : escaped? c = some e)
    (rest : List Char) :
    readUnits? ('\\' :: c :: rest) =
      (readUnits? rest).map fun (units, rest) => (e.toNat :: units, rest) := by
  rw [readUnits?, escape]
  · cases readUnits? rest <;> rfl
  · exact fun _ _ _ _ _ same _ => short same

theorem readUnits?_plain {c : Char} (quote : c ≠ '"') (backslash : c ≠ '\\')
    (plain : ¬ c.toNat < 0x20) (rest : List Char) :
    readUnits? (c :: rest) =
      (readUnits? rest).map fun (units, rest) => (c.toNat :: units, rest) := by
  rw [readUnits?, if_neg plain]
  · cases readUnits? rest <;> rfl
  · exact quote
  · exact fun _ _ _ _ _ same _ => backslash same
  · exact fun _ _ same _ => backslash same

/-- A written character is read as one unit. -/
theorem readUnits?_writeChar (c : Char) (rest : List Char) :
    readUnits? (writeChar c ++ rest) =
      (readUnits? rest).map fun (units, rest) => (c.toNat :: units, rest) := by
  unfold writeChar
  split
  case h_8 quote backslash _ _ _ _ _ =>
    split
    · next control =>
      obtain ⟨ds, digits, -, value⟩ := mapM_hexDigit?_hexDigits 4 c.toNat
      rw [Nat.mod_eq_of_lt (by omega)] at value
      have read := readUnits?_unit digits rest
      rw [value] at read
      exact read
    · next plain => exact readUnits?_plain quote backslash plain rest
  all_goals exact readUnits?_escape (by decide) rfl rest

theorem readUnits?_flatMap_writeChar (cs rest : List Char) :
    readUnits? (cs.flatMap writeChar ++ '"' :: rest) = some (cs.map Char.toNat, rest) := by
  induction cs with
  | nil => rfl
  | cons c more ih =>
    rw [List.flatMap_cons, List.append_assoc, readUnits?_writeChar, ih]
    rfl

theorem isSurrogate_toNat (c : Char) : isSurrogate c.toNat = false := by
  have valid : c.toNat < 0xd800 ∨ 0xdfff < c.toNat ∧ c.toNat < 0x110000 := c.valid
  simp [isSurrogate]
  omega

/-- Characters are no surrogates, so each of them is joined from its own unit. -/
theorem joinUnits?_map_toNat (cs : List Char) : joinUnits? (cs.map Char.toNat) = some cs := by
  induction cs with
  | nil => rfl
  | cons c more ih =>
    cases more with
    | nil => simp [joinUnits?, isSurrogate_toNat]
    | cons d more =>
      rw [List.map_cons, List.map_cons, joinUnits?, if_neg (by simp [isSurrogate_toNat]),
        ← List.map_cons, ih]
      simp

theorem next?_text (s : String) (rest : List Char) :
    next? ((text (some s)).write ++ rest) = some (.text (some s), rest) := by
  have text : (text (some s)).write ++ rest =
      '"' :: (s.toList.flatMap writeChar ++ '"' :: rest) := by simp [write, writeText]
  rw [text, next?, readUnits?_flatMap_writeChar]
  simp [joinUnits?_map_toNat]

/-- What follows a number without point and exponent. -/
def EndsNumber (rest : List Char) : Prop :=
  ∀ c ∈ rest.head?, isDigit c = false ∧ c ≠ '.' ∧ c ≠ 'e' ∧ c ≠ 'E'

theorem EndsNumber.endsDigits {rest : List Char} (ends : EndsNumber rest) : EndsDigits rest :=
  fun c mem => (ends c mem).1

theorem readWhole?_append {n : Nat} {rest : List Char} (ends : EndsDigits rest) :
    readWhole? ((toString n).toList ++ rest) = some (n, rest) := by
  have numeral := isNumeral_toString n
  have read := numeral.spanDigits_append ends
  obtain ⟨c, more, text⟩ := List.exists_cons_of_ne_nil numeral.nonempty
  by_cases zero : c = '0'
  · subst zero
    obtain ⟨rfl, rfl⟩ := eq_zero_of_toString text
    rfl
  · have digits : (toString n).toList.filterMap digit? ≠ [] := by
      rw [← List.length_pos_iff, numeral.length_filterMap]
      exact List.length_pos_iff.2 numeral.nonempty
    rw [text, List.cons_append] at read ⊢
    rw [readWhole?, read]
    · simp only [← text, digits, if_false, numeral.value]
    · exact fun _ same => zero (List.cons.inj same).1

theorem readFraction?_of_ends {rest : List Char} (ends : EndsNumber rest) :
    readFraction? rest = some ([], rest) := by
  cases rest with
  | nil => rfl
  | cons c more =>
    rw [readFraction?]
    exact fun _ same => (ends c rfl).2.1 (List.cons.inj same).1

theorem readExponent?_of_ends {rest : List Char} (ends : EndsNumber rest) :
    readExponent? rest = some (none, rest) := by
  cases rest with
  | nil => rfl
  | cons c more =>
    obtain ⟨-, -, lower, upper⟩ := ends c rfl
    simp [readExponent?, lower, upper]

theorem readNumber?_append {n : Nat} {negative : Bool} {rest : List Char} (ends : EndsNumber rest) :
    readNumber? negative ((toString n).toList ++ rest) =
      some (.number ⟨negative, n, [], none⟩, rest) := by
  simp only [readNumber?, readWhole?_append ends.endsDigits, readFraction?_of_ends ends,
    readExponent?_of_ends ends, Option.bind_eq_bind, Option.bind_some, pure]

theorem next?_digit {c : Char} (digit : isDigit c = true) (cs : List Char) :
    next? (c :: cs) = readNumber? false (c :: cs) := by
  have other (d : Char) (no : isDigit d = false) : c ≠ d := by
    rintro rfl
    rw [digit] at no
    contradiction
  rw [next?]
  · nofun
  all_goals exact fun _ same => other _ rfl (List.cons.inj same).1

theorem next?_number {n : JsonNumber} (whole : n.fraction = [] ∧ n.exponent = none)
    {rest : List Char} (ends : EndsNumber rest) :
    next? ((number n).write ++ rest) = some (.number n, rest) := by
  obtain ⟨negative, whole, fraction, exponent⟩ := n
  obtain ⟨rfl, rfl⟩ := whole
  have text : (number ⟨negative, whole, [], none⟩).write ++ rest =
      (if negative then ['-'] else []) ++ ((toString whole).toList ++ rest) := by
    simp [write, writeNumber]
  rw [text]
  cases negative with
  | true => exact readNumber?_append ends
  | false =>
    obtain ⟨c, more, first⟩ := List.exists_cons_of_ne_nil (isNumeral_toString whole).nonempty
    have digit : isDigit c = true :=
      (isNumeral_toString whole).digits c (first ▸ List.mem_cons_self)
    rw [if_neg Bool.false_ne_true, List.nil_append, first, List.cons_append, next?_digit digit,
      ← List.cons_append, ← first, readNumber?_append ends]

/-- No lexeme begins with a blank. -/
theorem isSpace_of_next? {c : Char} {cs : List Char} {found : Lexeme × List Char}
    (next : next? (c :: cs) = some found) : isSpace c = false := by
  have other (blank : Char) (unread : next? (blank :: cs) = none) : c ≠ blank := by
    rintro rfl
    rw [unread] at next
    contradiction
  simp [isSpace, other ' ' rfl, other '\n' rfl, other '\r' rfl, other '\t' rfl]

end Haulage.Lexeme
