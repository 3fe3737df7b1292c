import Workflow.Text.Utf8

/-! Texts come back from their UTF-8 form: the bytes of a character are read as the character, and
so those of a text as the text. -/

namespace Workflow.Text

variable {bits low high missing b n : Nat}

theorem decodeUtf8_ascii (small : n < 0x80) (rest : List Nat) :
    decodeUtf8 none (n :: rest) = Char.ofNat n :: decodeUtf8 none rest := by
  rw [decodeUtf8, decodeUtf8.start, if_pos small]

theorem decodeUtf8_lead (lead : leadByte? b = some (missing, bits, low, high))
    (large : ¬b < 0x80) (rest : List Nat) :
    decodeUtf8 none (b :: rest) = decodeUtf8 (some ⟨missing, bits, low, high⟩) rest := by
  rw [decodeUtf8, decodeUtf8.start, if_neg large, lead]

theorem decodeUtf8_last (range : low ≤ b ∧ b ≤ high) (rest : List Nat) :
    decodeUtf8 (some ⟨1, bits, low, high⟩) (b :: rest) =
      Char.ofNat (bits * 0x40 + (b - 0x80)) :: decodeUtf8 none rest := by
  simp [decodeUtf8, range]

theorem decodeUtf8_next (range : low ≤ b ∧ b ≤ high) (more : 1 < missing) (rest : List Nat) :
    decodeUtf8 (some ⟨missing, bits, low, high⟩) (b :: rest) =
      decodeUtf8 (some ⟨missing - 1, bits * 0x40 + (b - 0x80), 0x80, 0xbf⟩) rest := by
  simp [decodeUtf8, range, Nat.not_le.mpr more]

/-! The second byte has a range of its own after some first bytes. -/

theorem leadByte?_two (some' : 0x80 ≤ n) (small : n < 0x800) :
    leadByte? (0xc0 + n / 0x40) = some (1, n / 0x40, 0x80, 0xbf) := by
  have range : 0xc2 ≤ 0xc0 + n / 0x40 ∧ 0xc0 + n / 0x40 ≤ 0xdf := by omega
  simp [leadByte?, range]

theorem leadByte?_three (some' : 0x800 ≤ n) (small : n < 0x10000)
    (valid : n < 0xd800 ∨ 0xdfff < n) :
    ∃ low high, leadByte? (0xe0 + n / 0x1000) = some (2, n / 0x1000, low, high) ∧
      low ≤ 0x80 + n / 0x40 % 0x40 ∧ 0x80 + n / 0x40 % 0x40 ≤ high := by
  by_cases first : n / 0x1000 = 0
  · refine ⟨0xa0, 0xbf, by simp [leadByte?, first], by omega, by omega⟩
  by_cases surrogates : n / 0x1000 = 0xd
  · refine ⟨0x80, 0x9f, by simp [leadByte?, surrogates], by omega, by omega⟩
  refine ⟨0x80, 0xbf, ?_, by omega, by omega⟩
  have range : 0xe1 ≤ 0xe0 + n / 0x1000 ∧ 0xe0 + n / 0x1000 ≤ 0xef := by omega
  have below : ¬0xe0 + n / 0x1000 ≤ 0xdf := by omega
  have other : ¬0xe0 + n / 0x1000 = 0xed := by omega
  simp [leadByte?, range, below, other, first]

theorem leadByte?_four (some' : 0x10000 ≤ n) (small : n < 0x110000) :
    ∃ low high, leadByte? (0xf0 + n / 0x40000) = some (3, n / 0x40000, low, high) ∧
      low ≤ 0x80 + n / 0x1000 % 0x40 ∧ 0x80 + n / 0x1000 % 0x40 ≤ high := by
  by_cases first : n / 0x40000 = 0
  · refine ⟨0x90, 0xbf, by simp [leadByte?, first], by omega, by omega⟩
  by_cases last : n / 0x40000 = 4
  · refine ⟨0x80, 0x8f, by simp [leadByte?, last], by omega, by omega⟩
  refine ⟨0x80, 0xbf, ?_, by omega, by omega⟩
  have range : 0xf1 ≤ 0xf0 + n / 0x40000 ∧ 0xf0 + n / 0x40000 ≤ 0xf3 := by omega
  have below : ¬0xf0 + n / 0x40000 ≤ 0xdf ∧ ¬0xf0 + n / 0x40000 ≤ 0xef ∧
      ¬0xf0 + n / 0x40000 = 0xe0 ∧ ¬0xf0 + n / 0x40000 = 0xed ∧ ¬0xf0 + n / 0x40000 = 0xf4 := by
    omega
  simp [leadByte?, range, below, first]

/-- The bytes of a character are read as the character, whatever stands behind them. -/
theorem decodeUtf8_char (c : Char) (rest : List Nat) :
    decodeUtf8 none (utf8Char c ++ rest) = c :: decodeUtf8 none rest := by
  have valid : c.toNat < 0xd800 ∨ 0xdfff < c.toNat ∧ c.toNat < 0x110000 := c.valid
  have back : Char.ofNat c.toNat = c := Char.ofNat_toNat c
  unfold utf8Char
  generalize c.toNat = n at valid back
  by_cases one : n < 0x80
  · simp only [one, if_true, List.cons_append, List.nil_append]
    rw [decodeUtf8_ascii one, back]
  by_cases two : n < 0x800
  · simp only [one, two, if_true, if_false, List.cons_append, List.nil_append]
    have whole : n / 0x40 * 0x40 + (0x80 + n % 0x40 - 0x80) = n := by omega
    rw [decodeUtf8_lead (leadByte?_two (by omega) two) (by omega), decodeUtf8_last (by omega),
      whole, back]
  by_cases three : n < 0x10000
  · simp only [one, two, three, if_true, if_false, List.cons_append, List.nil_append]
    obtain ⟨low, high, lead, range⟩ := leadByte?_three (by omega) three (by omega)
    have whole : (n / 0x1000 * 0x40 + (0x80 + n / 0x40 % 0x40 - 0x80)) * 0x40 +
        (0x80 + n % 0x40 - 0x80) = n := by omega
    rw [decodeUtf8_lead lead (by omega), decodeUtf8_next range (by decide),
      decodeUtf8_last (by omega), whole, back]
  · simp only [one, two, three, if_false, List.cons_append, List.nil_append]
    obtain ⟨low, high, lead, range⟩ := leadByte?_four (n := n) (by omega) (by omega)
    have whole : ((n / 0x40000 * 0x40 + (0x80 + n / 0x1000 % 0x40 - 0x80)) * 0x40 +
        (0x80 + n / 0x40 % 0x40 - 0x80)) * 0x40 + (0x80 + n % 0x40 - 0x80) = n := by omega
    rw [decodeUtf8_lead lead (by omega), decodeUtf8_next range (by decide),
      decodeUtf8_next (by omega) (by decide), decodeUtf8_last (by omega), whole, back]

theorem ofUtf8_utf8 (s : String) : ofUtf8 (utf8 s) = s := by
  have read : ∀ cs : List Char, decodeUtf8 none (cs.flatMap utf8Char) = cs := by
    intro cs
    induction cs with
    | nil => rw [List.flatMap_nil, decodeUtf8]
    | cons c cs ih => rw [List.flatMap_cons, decodeUtf8_char, ih]
  rw [ofUtf8, utf8, read, String.ofList_toList]

theorem utf8_lt {s : String} {b : Nat} (mem : b ∈ utf8 s) : b < 0x100 := by
  obtain ⟨c, -, mem⟩ := List.mem_flatMap.mp mem
  have valid : c.toNat < 0xd800 ∨ 0xdfff < c.toNat ∧ c.toNat < 0x110000 := c.valid
  unfold utf8Char at mem
  generalize c.toNat = n at valid mem
  dsimp only at mem
  split at mem
  · simp only [List.mem_singleton] at mem
    omega
  split at mem
  · simp only [List.mem_cons, List.not_mem_nil, or_false] at mem
    omega
  split at mem <;>
    · simp only [List.mem_cons, List.not_mem_nil, or_false] at mem
      omega

end Workflow.Text
