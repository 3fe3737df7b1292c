import Workflow.Json.Reader
import Workflow.Json.Writer

/-! Texts in quotes are read back: what is written for a character, be it an escape or a pair of
them, is read as the character. -/

namespace Workflow.Json

open Text

variable {rules : Rules} {rest : List Char}

theorem hexUnit?_hexDigits {u : Nat} (h : u < 0x10000) :
    hexUnit? (hexDigits 4 u ++ rest) = some (u, rest) := by
  have digit : ∀ n, hexValue? (hexDigit (n % 16)) = some (n % 16) := fun n =>
    hexValue?_hexDigit (Nat.mod_lt n (by decide))
  have value : (((u / 16 / 16 / 16 % 16) * 16 + u / 16 / 16 % 16) * 16 + u / 16 % 16) * 16 +
      u % 16 = u := by omega
  simp [hexDigits, hexUnit?, digit, value]

/-- An escape that stands before another character is read as its unit. -/
theorem readUnit_hexDigits {u : Nat} (h : u < 0x10000) (more : rest ≠ []) (start : List Char) :
    readUnit start (hexDigits 4 u ++ rest) = .ok (u, rest) := by
  obtain ⟨c, others, rfl⟩ := List.exists_cons_of_ne_nil more
  simp [readUnit, hexUnit?_hexDigits h]

/-- No character has the number of half of a surrogate pair. -/
theorem not_surrogate (c : Char) :
    isHighSurrogate c.toNat = false ∧ isLowSurrogate c.toNat = false := by
  have valid : c.toNat < 0xd800 ∨ 0xdfff < c.toNat ∧ c.toNat < 0x110000 := c.valid
  simp only [isHighSurrogate, isLowSurrogate, Bool.and_eq_false_iff, decide_eq_false_iff_not]
  omega

theorem readUnicode_unit {c : Char} (small : c.toNat < 0x10000) (more : rest ≠ [])
    (start : List Char) :
    readUnicode rules start (hexDigits 4 c.toNat ++ rest) = .ok (c, rest) := by
  obtain ⟨high, low⟩ := not_surrogate c
  unfold readUnicode
  rw [readUnit_hexDigits small more]
  simp [bind, Except.bind, pure, Except.pure, ofUnit, high, low]

/-- Two escapes in a row are one character when their units are the halves of a pair. -/
theorem readUnicode_halves {start digits more : List Char} {u w : Nat}
    (first : readUnit start digits = .ok (u, '\\' :: 'u' :: more))
    (high : isHighSurrogate u = true) (long : 4 < more.length)
    (second : readUnit ('u' :: more) more = .ok (w, rest)) (low : isLowSurrogate w = true) :
    readUnicode rules start digits =
      .ok (Char.ofNat (0x10000 + (u - 0xd800) * 0x400 + (w - 0xdc00)), rest) := by
  unfold readUnicode
  rw [first]
  simp only [bind, Except.bind, high, if_true, if_pos long, second, low]
  rfl

theorem readUnicode_pair {c : Char} (large : 0x10000 ≤ c.toNat) (more : rest ≠ [])
    (start : List Char) :
    readUnicode rules start (hexDigits 4 (0xd800 + (c.toNat - 0x10000) / 0x400) ++
        (unitEscape (0xdc00 + (c.toNat - 0x10000) % 0x400) ++ rest)) = .ok (c, rest) := by
  have valid : c.toNat < 0x110000 := by
    have valid : c.toNat < 0xd800 ∨ 0xdfff < c.toNat ∧ c.toNat < 0x110000 := c.valid
    omega
  generalize first : 0xd800 + (c.toNat - 0x10000) / 0x400 = u
  generalize second : 0xdc00 + (c.toNat - 0x10000) % 0x400 = w
  have high : isHighSurrogate u = true := by
    simp only [isHighSurrogate, Bool.and_eq_true, decide_eq_true_eq]
    omega
  have low : isLowSurrogate w = true := by
    simp only [isLowSurrogate, Bool.and_eq_true, decide_eq_true_eq]
    omega
  have long : 4 < (hexDigits 4 w ++ rest).length := by
    have some' := List.length_pos_iff.mpr more
    rw [List.length_append, length_hexDigits]
    omega
  have whole : 0x10000 + (u - 0xd800) * 0x400 + (w - 0xdc00) = c.toNat := by omega
  rw [unitEscape, List.cons_append, List.cons_append, readUnicode_halves
    (readUnit_hexDigits (by omega) (List.cons_ne_nil _ _) start) high long
    (readUnit_hexDigits (by omega) more _) low, whole, Char.ofNat_toNat]

theorem readChars_unit {c : Char} (small : c.toNat < 0x10000) (more : rest ≠ [])
    (start : List Char) (fuel : Nat) :
    readChars rules start (fuel + 1) (unitEscape c.toNat ++ rest) =
      (readChars rules start fuel rest).map fun read => (c :: read.1, read.2) := by
  rw [unitEscape, List.cons_append, List.cons_append, readChars, readUnicode_unit small more]
  rfl

theorem readChars_writtenChar (asciiOnly : Bool) (c : Char) (more : rest ≠ [])
    (start : List Char) (fuel : Nat) :
    readChars rules start (fuel + 1) (writtenChar asciiOnly c ++ rest) =
      (readChars rules start fuel rest).map fun read => (c :: read.1, read.2) := by
  unfold writtenChar
  by_cases quote : c = '"'
  · subst quote
    rfl
  by_cases slash : c = '\\'
  · subst slash
    rfl
  by_cases feed : c = '\n'
  · subst feed
    rfl
  by_cases back : c = '\r'
  · subst back
    rfl
  by_cases tab : c = '\t'
  · subst tab
    rfl
  by_cases erase : c = '\x08'
  · subst erase
    rfl
  by_cases page : c = '\x0c'
  · subst page
    rfl
  simp only [beq_iff_eq, quote, slash, feed, back, tab, erase, page, Bool.or_eq_true, or_self,
    if_false]
  split
  · exact readChars_unit (by omega) more start fuel
  · split
    · rename_i visible _
      rw [List.singleton_append, readChars]
      · rw [if_neg (by omega)]
        rfl
      all_goals simp [quote, slash]
    · split
      · rename_i small
        exact readChars_unit small more start fuel
      · rename_i large
        rw [unitEscape, List.cons_append, List.cons_append, List.cons_append, List.cons_append,
          readChars, List.append_assoc, readUnicode_pair (by omega) more]
        rfl

theorem readChars_written (asciiOnly : Bool) (cs : List Char) (start : List Char) (fuel : Nat)
    (long : cs.length < fuel) :
    readChars rules start fuel (cs.flatMap (writtenChar asciiOnly) ++ '"' :: rest) =
      .ok (cs, rest) := by
  induction cs generalizing fuel with
  | nil =>
      obtain ⟨fuel, rfl⟩ := Nat.exists_eq_succ_of_ne_zero (Nat.ne_zero_of_lt long)
      rfl
  | cons c cs ih =>
      obtain ⟨fuel, rfl⟩ := Nat.exists_eq_succ_of_ne_zero (Nat.ne_zero_of_lt long)
      have more : cs.flatMap (writtenChar asciiOnly) ++ '"' :: rest ≠ [] :=
        List.append_ne_nil_of_right_ne_nil _ (List.cons_ne_nil _ _)
      rw [List.flatMap_cons, List.append_assoc, readChars_writtenChar asciiOnly c more,
        ih fuel (Nat.lt_of_succ_lt_succ long)]
      rfl

theorem length_writtenChar (asciiOnly : Bool) (c : Char) :
    0 < (writtenChar asciiOnly c).length := by
  unfold writtenChar unitEscape
  repeat' split
  all_goals simp

theorem length_le_written (asciiOnly : Bool) (cs : List Char) :
    cs.length ≤ (cs.flatMap (writtenChar asciiOnly)).length := by
  induction cs with
  | nil => exact Nat.le_refl 0
  | cons c cs ih =>
      have first := length_writtenChar asciiOnly c
      rw [List.flatMap_cons, List.length_append, List.length_cons]
      omega

/-- A text in quotes is read back, whatever stands behind it. -/
theorem readText_writtenText (rules : Rules) (asciiOnly : Bool) (s : String) (rest : List Char) :
    ∃ body, writtenText asciiOnly s ++ rest = '"' :: body ∧
      readText rules body = .ok (s, rest) := by
  refine ⟨s.toList.flatMap (writtenChar asciiOnly) ++ '"' :: rest, ?_, ?_⟩
  · simp [writtenText]
  · have long := length_le_written asciiOnly s.toList
    rw [readText, readChars_written asciiOnly s.toList]
    · simp [bind, Except.bind, pure, Except.pure]
    · rw [List.length_append]
      omega

end Workflow.Json
