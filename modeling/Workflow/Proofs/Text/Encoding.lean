import Mathlib.Data.List.Chain
import Workflow.Proofs.Text.Utf8
import Workflow.Text.Encoding

/-! Bytes as text in the Unicode encoding that their first bytes tell. They are read just when they
are the bytes of some code points in that encoding, among which halves of surrogate pairs may stand
by themselves; and what is read then is the text of these code points. -/

namespace Workflow.Text

/-- The bytes of a code point in UTF-8, also of half of a surrogate pair. -/
def utf8Point (n : Nat) : List Nat :=
  if n < 0x80 then [n]
  else if n < 0x800 then [0xc0 + n / 0x40, 0x80 + n % 0x40]
  else if n < 0x10000 then [0xe0 + n / 0x1000, 0x80 + n / 0x40 % 0x40, 0x80 + n % 0x40]
  else
    [0xf0 + n / 0x40000, 0x80 + n / 0x1000 % 0x40, 0x80 + n / 0x40 % 0x40, 0x80 + n % 0x40]

def unitsOf (n : Nat) : List Nat :=
  if n < 0x10000 then [n]
  else [0xd800 + (n - 0x10000) / 0x400, 0xdc00 + (n - 0x10000) % 0x400]

def ByteOrder.pair (order : ByteOrder) (u : Nat) : List Nat :=
  match order with
  | .big => [u / 0x100, u % 0x100]
  | .little => [u % 0x100, u / 0x100]

def ByteOrder.quad (order : ByteOrder) (n : Nat) : List Nat :=
  match order with
  | .big => [n / 0x1000000, n / 0x10000 % 0x100, n / 0x100 % 0x100, n % 0x100]
  | .little => [n % 0x100, n / 0x100 % 0x100, n / 0x10000 % 0x100, n / 0x1000000]

def Form.bytesOf : Form → Nat → List Nat
  | .utf8, n => utf8Point n
  | .utf16 order, n => (unitsOf n).flatMap order.pair
  | .utf32 order, n => order.quad n

/-- The first half of a surrogate pair, and the second one right behind it. -/
def Paired (m n : Nat) : Prop := (0xd800 ≤ m ∧ m < 0xdc00) ∧ 0xdc00 ≤ n ∧ n < 0xe000

/-- Some bytes are those of some code points. In units of sixteen bits two halves of a pair are no
code points of their own. -/
structure Form.Spells (form : Form) (points bytes : List Nat) : Prop where
  valid : ∀ n ∈ points, n < 0x110000
  unpaired : ∀ order, form = .utf16 order → points.IsChain fun m n => ¬Paired m n
  same : bytes = points.flatMap form.bytesOf

/-- Some bytes are those of some code points in the encoding that they tell. -/
def Spelled (bytes points : List Nat) : Prop := (formOf bytes).1.Spells points (formOf bytes).2

/-- The text of some code points, with replacement characters for halves of surrogate pairs. -/
def ofPoints (points : List Nat) : String := String.ofList (points.map ofCodePoint)

variable {bytes points units rest tail : List Nat} {n u w i b : Nat} {order : ByteOrder} {s : String}

theorem ofCodePoint_of_half (half : 0xd800 ≤ n ∧ n < 0xe000) : ofCodePoint n = '\ufffd' := by
  simp [ofCodePoint, half]

theorem toNat_ofCodePoint (valid : n < 0x110000) (whole : ¬(0xd800 ≤ n ∧ n < 0xe000)) :
    (ofCodePoint n).toNat = n := by
  have point : n < 0xd800 ∨ 0xdfff < n ∧ n < 0x110000 := by omega
  have value : ofCodePoint n = Char.ofNat n := by simp [ofCodePoint, whole]
  rw [value, Char.ofNat, dif_pos point]
  rfl

theorem halvesReplaced_half {b c : Nat} (second : 0xa0 ≤ b ∧ b < 0xc0) (third : 0x80 ≤ c ∧ c < 0xc0)
    (rest : List Nat) :
    halvesReplaced (0xed :: b :: c :: rest) = 0xef :: 0xbf :: 0xbd :: halvesReplaced rest := by
  simp [halvesReplaced, second, third]

/-- The first byte is left as it is unless half of a surrogate pair stands there. -/
theorem halvesReplaced_cons_cases (b : Nat) (rest : List Nat) :
    (∃ c d tail, b = 0xed ∧ rest = c :: d :: tail ∧ (0xa0 ≤ c ∧ c < 0xc0) ∧
      0x80 ≤ d ∧ d < 0xc0) ∨
    halvesReplaced (b :: rest) = b :: halvesReplaced rest := by
  by_cases lead : b = 0xed
  · subst lead
    match rest with
    | [] => exact .inr rfl
    | [c] => exact .inr rfl
    | c :: d :: tail =>
        by_cases half : (0xa0 ≤ c ∧ c < 0xc0) ∧ 0x80 ≤ d ∧ d < 0xc0
        · exact .inl ⟨c, d, tail, rfl, rfl, half⟩
        · refine .inr ?_
          have plain : (0xa0 ≤ c && c < 0xc0 && 0x80 ≤ d && d < 0xc0) = false := by
            simpa [and_assoc] using half
          rw [halvesReplaced, plain, if_neg Bool.false_ne_true]
  · refine .inr ?_
    rw [halvesReplaced]
    rintro c d tail rfl
    exact absurd rfl lead

theorem halvesReplaced_cons {b : Nat} (other : b ≠ 0xed) (rest : List Nat) :
    halvesReplaced (b :: rest) = b :: halvesReplaced rest :=
  (halvesReplaced_cons_cases b rest).resolve_left fun ⟨_, _, _, lead, _⟩ => other lead

theorem halvesReplaced_point (valid : n < 0x110000) (rest : List Nat) :
    halvesReplaced (utf8Point n ++ rest) = utf8Char (ofCodePoint n) ++ halvesReplaced rest := by
  -- Only half of a pair has three bytes that are replaced; other code points are left as they are.
  by_cases half : 0xd800 ≤ n ∧ n < 0xe000
  · have first : 0xe0 + n / 0x1000 = 0xed := by omega
    have shape : utf8Point n = [0xed, 0x80 + n / 0x40 % 0x40, 0x80 + n % 0x40] := by
      have large : ¬n < 0x80 ∧ ¬n < 0x800 ∧ n < 0x10000 := by omega
      simp only [utf8Point, large, if_true, if_false, first]
    rw [shape, ofCodePoint_of_half half]
    exact halvesReplaced_half (by omega) (by omega) rest
  · have same : utf8Char (ofCodePoint n) = utf8Point n := by
      rw [utf8Char, toNat_ofCodePoint valid half, utf8Point]
    rw [same, utf8Point]
    split
    · exact halvesReplaced_cons (by omega) rest
    split
    · simp only [List.cons_append, List.nil_append]
      rw [halvesReplaced_cons (by omega), halvesReplaced_cons (by omega)]
    split
    · simp only [List.cons_append, List.nil_append]
      rw [(halvesReplaced_cons_cases _ _).resolve_left, halvesReplaced_cons (by omega),
        halvesReplaced_cons (by omega)]
      rintro ⟨c, d, tail, lead, more, second, -⟩
      obtain ⟨rfl, -⟩ := List.cons.inj more
      omega
    · simp only [List.cons_append, List.nil_append]
      rw [halvesReplaced_cons (by omega), halvesReplaced_cons (by omega),
        halvesReplaced_cons (by omega), halvesReplaced_cons (by omega)]

theorem halvesReplaced_points (valid : ∀ n ∈ points, n < 0x110000) :
    halvesReplaced (points.flatMap utf8Point) = utf8 (ofPoints points) := by
  rw [utf8, ofPoints, String.toList_ofList, List.flatMap_map]
  induction points with
  | nil => rfl
  | cons n rest ih =>
      obtain ⟨here, later⟩ := List.forall_mem_cons.mp valid
      rw [List.flatMap_cons, List.flatMap_cons, halvesReplaced_point here, ih later]

variable {missing bits low high place first : Nat}

theorem utf8FaultFrom_lead (lead : leadByte? b = some (missing, bits, low, high))
    (large : ¬b < 0x80) (i : Nat) (rest : List Nat) :
    utf8FaultFrom i none (b :: rest) =
      utf8FaultFrom (i + 1) (some ⟨i, b, ⟨missing, bits, low, high⟩⟩) rest := by
  rw [utf8FaultFrom, if_neg large, lead]

theorem utf8FaultFrom_last (range : low ≤ b ∧ b ≤ high) (i : Nat) (rest : List Nat) :
    utf8FaultFrom i (some ⟨place, first, ⟨1, bits, low, high⟩⟩) (b :: rest) =
      utf8FaultFrom (i + 1) none rest := by
  simp [utf8FaultFrom, range]

theorem utf8FaultFrom_next (range : low ≤ b ∧ b ≤ high) (more : 1 < missing) (i : Nat)
    (rest : List Nat) :
    utf8FaultFrom i (some ⟨place, first, ⟨missing, bits, low, high⟩⟩) (b :: rest) =
      utf8FaultFrom (i + 1) (some ⟨place, first, ⟨missing - 1, 0, 0x80, 0xbf⟩⟩) rest := by
  simp [utf8FaultFrom, range, Nat.not_le.mpr more]

/-- Where no fault is found in a character that has begun, a byte of its range follows. -/
theorem exists_byte_of_begun (top : high < 0xc0)
    (sound : utf8FaultFrom i (some ⟨place, first, ⟨missing, bits, low, high⟩⟩)
      (halvesReplaced bytes) = none) :
    ∃ b tail, bytes = b :: tail ∧ (low ≤ b ∧ b ≤ high) ∧
      halvesReplaced bytes = b :: halvesReplaced tail := by
  cases bytes with
  | nil => cases sound
  | cons b tail =>
      rcases halvesReplaced_cons_cases b tail with
        ⟨c, d, more, rfl, rfl, second, third⟩ | plain
      · -- Half of a surrogate pair begins with a byte past every range.
        rw [halvesReplaced_half second third, utf8FaultFrom, if_neg (by simp; omega)] at sound
        cases sound
      · refine ⟨b, tail, rfl, ?_, plain⟩
        by_contra outside
        rw [plain, utf8FaultFrom, if_neg (by simpa using outside)] at sound
        cases sound

theorem utf8FaultFrom_char (c : Char) (i : Nat) (rest : List Nat) :
    ∃ j, utf8FaultFrom i none (utf8Char c ++ rest) = utf8FaultFrom j none rest := by
  have valid : c.toNat < 0xd800 ∨ 0xdfff < c.toNat ∧ c.toNat < 0x110000 := c.valid
  unfold utf8Char
  generalize c.toNat = n at valid
  by_cases one : n < 0x80
  · exact ⟨i + 1, by simp [one, utf8FaultFrom]⟩
  by_cases two : n < 0x800
  · simp only [one, two, if_true, if_false, List.cons_append, List.nil_append]
    rw [utf8FaultFrom_lead (leadByte?_two (by omega) two) (by omega),
      utf8FaultFrom_last (by omega)]
    exact ⟨_, rfl⟩
  by_cases three : n < 0x10000
  · simp only [one, two, three, if_true, if_false, List.cons_append, List.nil_append]
    obtain ⟨low, high, lead, range⟩ := leadByte?_three (n := n) (by omega) three (by omega)
    rw [utf8FaultFrom_lead lead (by omega), utf8FaultFrom_next range (by decide),
      utf8FaultFrom_last (by omega)]
    exact ⟨_, rfl⟩
  · simp only [one, two, three, if_false, List.cons_append, List.nil_append]
    obtain ⟨low, high, lead, range⟩ := leadByte?_four (n := n) (by omega) (by omega)
    rw [utf8FaultFrom_lead lead (by omega), utf8FaultFrom_next range (by decide),
      utf8FaultFrom_next (by omega) (by decide),
      utf8FaultFrom_last (by omega)]
    exact ⟨_, rfl⟩

theorem utf8Fault?_utf8 (s : String) : utf8Fault? (utf8 s) = none := by
  have sound : ∀ (cs : List Char) (i : Nat), utf8FaultFrom i none (cs.flatMap utf8Char) = none := by
    intro cs
    induction cs with
    | nil => exact fun _ => rfl
    | cons c cs ih =>
        intro i
        obtain ⟨j, same⟩ := utf8FaultFrom_char c i (cs.flatMap utf8Char)
        rw [List.flatMap_cons, same, ih]
  exact sound s.toList 0

/-- The second byte has a range of its own after some first bytes. -/
theorem leadByte?_cases (h : leadByte? b = some (missing, bits, low, high)) :
    0xc2 ≤ b ∧ high < 0xc0 ∧ 0x80 ≤ low ∧
      (missing = 1 ∧ b ≤ 0xdf ∨
        missing = 2 ∧ 0xe0 ≤ b ∧ b ≤ 0xef ∧ (b = 0xe0 → 0xa0 ≤ low) ∧ (b = 0xed → high ≤ 0x9f) ∨
        missing = 3 ∧ 0xf0 ≤ b ∧ b ≤ 0xf4 ∧ (b = 0xf0 → 0x90 ≤ low) ∧ (b = 0xf4 → high ≤ 0x8f)) := by
  simp only [leadByte?, Bool.and_eq_true, decide_eq_true_eq] at h
  split_ifs at h <;>
    · simp only [Option.some.injEq, Prod.mk.injEq] at h
      omega

theorem six_bits (high : Nat) {low : Nat} (small : 0x80 + low < 0xc0) :
    (high * 0x40 + low) / 0x40 = high ∧ (high * 0x40 + low) % 0x40 = low := by
  omega

theorem div_twelve_bits (n : Nat) : n / 0x1000 = n / 0x40 / 0x40 := by
  rw [Nat.div_div_eq_div_mul]

theorem div_eighteen_bits (n : Nat) : n / 0x40000 = n / 0x40 / 0x40 / 0x40 := by
  rw [Nat.div_div_eq_div_mul, Nat.div_div_eq_div_mul]

theorem exists_point_two {c : Nat} (lead : 0xc2 ≤ b ∧ b ≤ 0xdf) (second : 0x80 ≤ c ∧ c < 0xc0) :
    ∃ n < 0x110000, utf8Point n = [b, c] := by
  obtain ⟨p, rfl⟩ := Nat.exists_eq_add_of_le (Nat.le_trans (by decide : 0xc0 ≤ 0xc2) lead.1)
  obtain ⟨q, rfl⟩ := Nat.exists_eq_add_of_le second.1
  obtain ⟨one, last⟩ := six_bits p second.2
  refine ⟨p * 0x40 + q, by omega, ?_⟩
  rw [utf8Point, if_neg (by omega), if_pos (by omega), one, last]

theorem exists_point_three {c d : Nat} (lead : 0xe0 ≤ b ∧ b ≤ 0xef) (short : b = 0xe0 → 0xa0 ≤ c)
    (second : 0x80 ≤ c ∧ c < 0xc0) (third : 0x80 ≤ d ∧ d < 0xc0) :
    ∃ n < 0x110000, utf8Point n = [b, c, d] := by
  obtain ⟨p, rfl⟩ := Nat.exists_eq_add_of_le lead.1
  obtain ⟨q, rfl⟩ := Nat.exists_eq_add_of_le second.1
  obtain ⟨r, rfl⟩ := Nat.exists_eq_add_of_le third.1
  have small : (p * 0x40 + q) * 0x40 + r < 0x10000 := by omega
  have least : 0x800 ≤ (p * 0x40 + q) * 0x40 + r := by omega
  have large : ∀ {n}, n ≤ 0x800 → ¬(p * 0x40 + q) * 0x40 + r < n :=
    fun below => Nat.not_lt.mpr (Nat.le_trans below least)
  obtain ⟨one, last⟩ := six_bits (p * 0x40 + q) third.2
  obtain ⟨two, middle⟩ := six_bits p second.2
  refine ⟨(p * 0x40 + q) * 0x40 + r, Nat.lt_trans small (by decide), ?_⟩
  rw [utf8Point, if_neg (large (by decide)), if_neg (large le_rfl), if_pos small, div_twelve_bits,
    one, two, middle, last]

theorem exists_point_four {c d e : Nat} (lead : 0xf0 ≤ b ∧ b ≤ 0xf4) (short : b = 0xf0 → 0x90 ≤ c)
    (long : b = 0xf4 → c ≤ 0x8f) (second : 0x80 ≤ c ∧ c < 0xc0) (third : 0x80 ≤ d ∧ d < 0xc0)
    (fourth : 0x80 ≤ e ∧ e < 0xc0) : ∃ n < 0x110000, utf8Point n = [b, c, d, e] := by
  obtain ⟨p, rfl⟩ := Nat.exists_eq_add_of_le lead.1
  obtain ⟨q, rfl⟩ := Nat.exists_eq_add_of_le second.1
  obtain ⟨r, rfl⟩ := Nat.exists_eq_add_of_le third.1
  obtain ⟨s, rfl⟩ := Nat.exists_eq_add_of_le fourth.1
  have valid : ((p * 0x40 + q) * 0x40 + r) * 0x40 + s < 0x110000 := by omega
  have least : 0x10000 ≤ ((p * 0x40 + q) * 0x40 + r) * 0x40 + s := by omega
  have large : ∀ {n}, n ≤ 0x10000 → ¬((p * 0x40 + q) * 0x40 + r) * 0x40 + s < n :=
    fun below => Nat.not_lt.mpr (Nat.le_trans below least)
  obtain ⟨one, last⟩ := six_bits ((p * 0x40 + q) * 0x40 + r) fourth.2
  obtain ⟨two, far⟩ := six_bits (p * 0x40 + q) third.2
  obtain ⟨three, near⟩ := six_bits p second.2
  refine ⟨((p * 0x40 + q) * 0x40 + r) * 0x40 + s, valid, ?_⟩
  rw [utf8Point, if_neg (large (by decide)), if_neg (large (by decide)), if_neg (large le_rfl),
    div_eighteen_bits, div_twelve_bits, one, two, three, near, far, last]

/-- Where no fault is found in some bytes, those of a code point stand in front. -/
theorem exists_point (sound : utf8FaultFrom i none (halvesReplaced (b :: rest)) = none) :
    ∃ n tail j, n < 0x110000 ∧ b :: rest = utf8Point n ++ tail ∧
      utf8FaultFrom j none (halvesReplaced tail) = none := by
  rcases halvesReplaced_cons_cases b rest with ⟨c, d, tail, rfl, rfl, second, third⟩ | plain
  · obtain ⟨n, valid, spelled⟩ := exists_point_three (b := 0xed) (c := c) (d := d) (by decide)
      (by omega) (by omega) third
    obtain ⟨j, skipped⟩ := utf8FaultFrom_char (ofCodePoint n) i (halvesReplaced tail)
    rw [← halvesReplaced_point valid, spelled] at skipped
    exact ⟨n, tail, j, valid, by rw [spelled]; rfl, skipped.symm.trans sound⟩
  rw [plain] at sound
  by_cases ascii : b < 0x80
  · refine ⟨b, rest, i + 1, by omega, by simp [utf8Point, ascii], ?_⟩
    rwa [utf8FaultFrom, if_pos ascii] at sound
  cases lead : leadByte? b with
  | none =>
      rw [utf8FaultFrom, if_neg ascii, lead] at sound
      cases sound
  | some found =>
      obtain ⟨missing, bits, low, high⟩ := found
      rw [utf8FaultFrom_lead lead ascii] at sound
      obtain ⟨from', top, floor, ⟨rfl, upto⟩ | ⟨rfl, least, most, short, -⟩ |
        ⟨rfl, least, most, short, long⟩⟩ := leadByte?_cases lead
      · obtain ⟨c, tail, rfl, second, shape⟩ := exists_byte_of_begun top sound
        rw [shape, utf8FaultFrom_last second] at sound
        obtain ⟨n, valid, spelled⟩ := exists_point_two (b := b) (c := c) (by omega) (by omega)
        exact ⟨n, tail, _, valid, by rw [spelled]; rfl, sound⟩
      · obtain ⟨c, tail, rfl, second, shape⟩ := exists_byte_of_begun top sound
        rw [shape, utf8FaultFrom_next second (by decide)] at sound
        obtain ⟨d, tail, rfl, third, shape⟩ := exists_byte_of_begun (by decide) sound
        rw [shape, utf8FaultFrom_last third] at sound
        obtain ⟨n, valid, spelled⟩ := exists_point_three (b := b) (c := c) (d := d) (by omega)
          (by omega) (by omega) (by omega)
        exact ⟨n, tail, _, valid, by rw [spelled]; rfl, sound⟩
      · obtain ⟨c, tail, rfl, second, shape⟩ := exists_byte_of_begun top sound
        rw [shape, utf8FaultFrom_next second (by decide)] at sound
        obtain ⟨d, tail, rfl, third, shape⟩ := exists_byte_of_begun (by decide) sound
        rw [shape, utf8FaultFrom_next third (by decide)] at sound
        obtain ⟨e, tail, rfl, fourth, shape⟩ := exists_byte_of_begun (by decide) sound
        rw [shape, utf8FaultFrom_last fourth] at sound
        obtain ⟨n, valid, spelled⟩ := exists_point_four (b := b) (c := c) (d := d) (e := e)
          (by omega) (by omega) (by omega) (by omega) (by omega) (by omega)
        exact ⟨n, tail, _, valid, by rw [spelled]; rfl, sound⟩

theorem exists_points (sound : utf8FaultFrom i none (halvesReplaced bytes) = none) :
    ∃ points : List Nat, (∀ n ∈ points, n < 0x110000) ∧ bytes = points.flatMap utf8Point := by
  -- By the number of bytes: those of one code point are taken off the front.
  induction length : bytes.length using Nat.strong_induction_on generalizing bytes i with
  | _ k ih =>
      cases bytes with
      | nil => exact ⟨[], by simp, rfl⟩
      | cons b rest =>
          obtain ⟨n, tail, j, valid, shape, sound⟩ := exists_point sound
          have shorter : tail.length < k := by
            have some' : 0 < (utf8Point n).length := by
              unfold utf8Point
              split_ifs <;> exact Nat.succ_pos _
            rw [← length, shape, List.length_append]
            omega
          obtain ⟨points, all, rfl⟩ := ih tail.length shorter sound rfl
          exact ⟨n :: points, List.forall_mem_cons.mpr ⟨valid, all⟩, shape⟩

/-- Bytes are read as UTF-8 just when they are the bytes of some code points. -/
theorem readUtf8_eq_ok_iff :
    readUtf8 bytes = .ok s ↔ ∃ points, Form.utf8.Spells points bytes ∧ s = ofPoints points := by
  have read : ∀ points : List Nat, (∀ n ∈ points, n < 0x110000) →
      readUtf8 (points.flatMap utf8Point) = .ok (ofPoints points) := by
    intro points valid
    rw [readUtf8, halvesReplaced_points valid, utf8Fault?_utf8, ofUtf8_utf8]
  constructor
  · intro found
    have sound : utf8FaultFrom 0 none (halvesReplaced bytes) = none := by
      unfold readUtf8 utf8Fault? at found
      dsimp only at found
      split at found
      · cases found
      · assumption
    obtain ⟨points, valid, rfl⟩ := exists_points sound
    rw [read points valid] at found
    exact ⟨points, ⟨valid, nofun, rfl⟩, (Except.ok.inj found).symm⟩
  · rintro ⟨points, ⟨valid, -, rfl⟩, rfl⟩
    exact read points valid

theorem pair_number {a b : Nat} (order : ByteOrder) (first : a < 0x100) (second : b < 0x100) :
    order.number [a, b] < 0x10000 ∧ order.pair (order.number [a, b]) = [a, b] := by
  cases order <;>
    · simp only [ByteOrder.number, ByteOrder.pair, List.foldl, List.foldr, List.cons.injEq, and_true]
      omega

theorem number_pair (order : ByteOrder) (u : Nat) : order.number (order.pair u) = u := by
  cases order <;>
    · simp only [ByteOrder.number, ByteOrder.pair, List.foldl, List.foldr]
      omega

theorem quad_number {a b c d : Nat} (order : ByteOrder) (first : a < 0x100) (second : b < 0x100)
    (third : c < 0x100) (fourth : d < 0x100) :
    order.quad (order.number [a, b, c, d]) = [a, b, c, d] := by
  cases order <;>
    · simp only [ByteOrder.number, ByteOrder.quad, List.foldl, List.foldr, List.cons.injEq, and_true]
      omega

theorem number_quad (order : ByteOrder) (n : Nat) : order.number (order.quad n) = n := by
  cases order <;>
    · simp only [ByteOrder.number, ByteOrder.quad, List.foldl, List.foldr]
      omega

/-- Bytes are taken by twos just when they are those of some units. -/
theorem units16_eq_ok_iff (whole : ∀ b ∈ bytes, b < 0x100) :
    units16 order i bytes = .ok units ↔
      (∀ u ∈ units, u < 0x10000) ∧ bytes = units.flatMap order.pair := by
  constructor
  · intro found
    fun_induction units16 order i bytes generalizing units with
    | case1 => cases found; exact ⟨by simp, rfl⟩
    | case2 => cases found
    | case3 i a b rest ih =>
        obtain ⟨first, second, later⟩ := by simpa only [List.forall_mem_cons] using whole
        cases taken : units16 order (i + 2) rest with
        | error f => rw [taken] at found; cases found
        | ok us =>
            rw [taken] at found
            cases found
            obtain ⟨small, rfl⟩ := ih later taken
            obtain ⟨here, shape⟩ := pair_number order first second
            exact ⟨List.forall_mem_cons.mpr ⟨here, small⟩, by rw [List.flatMap_cons, shape]; rfl⟩
  · rintro ⟨small, rfl⟩
    clear whole
    induction units generalizing i with
    | nil => rfl
    | cons u rest ih =>
        obtain ⟨here, later⟩ := List.forall_mem_cons.mp small
        have value := number_pair order u
        cases order <;>
          · simp only [ByteOrder.pair, List.flatMap_cons, List.cons_append, List.nil_append]
              at value ih ⊢
            rw [units16, ih later, value]
            rfl

theorem ofUnits_cons (apart : ∀ w, rest.head? = some w → ¬Paired u w) :
    ofUnits (u :: rest) = ofCodePoint u :: ofUnits rest := by
  cases rest with
  | nil => rfl
  | cons w rest =>
      have plain := apart w rfl
      rw [ofUnits, if_neg]
      simpa [Paired, and_assoc] using plain

theorem ofUnits_pair (paired : Paired u w) (rest : List Nat) :
    ofUnits (u :: w :: rest) =
      Char.ofNat (0x10000 + (u - 0xd800) * 0x400 + (w - 0xdc00)) :: ofUnits rest := by
  rw [ofUnits, if_pos]
  simpa [Paired, and_assoc] using paired

/-- The first unit of some code points is a second half just if the first of them is one. -/
theorem paired_head_iff {m : Nat} {points : List Nat} (valid : m < 0x110000)
    (head : ((m :: points).flatMap unitsOf).head? = some w) : Paired u w ↔ Paired u m := by
  rw [List.flatMap_cons, unitsOf] at head
  split at head
  · obtain rfl := Option.some.inj head
    exact Iff.rfl
  · obtain rfl := Option.some.inj head
    unfold Paired
    omega

/-- The units of code points are read as them, unless halves of a pair meet. -/
theorem ofUnits_flatMap (valid : ∀ n ∈ points, n < 0x110000)
    (unpaired : points.IsChain fun m n => ¬Paired m n) :
    ofUnits (points.flatMap unitsOf) = points.map ofCodePoint := by
  induction points with
  | nil => rfl
  | cons n rest ih =>
      obtain ⟨here, later⟩ := List.forall_mem_cons.mp valid
      obtain ⟨next, chain⟩ := List.isChain_cons.mp unpaired
      have inner := ih later chain
      rw [List.flatMap_cons, List.map_cons, ← inner, unitsOf]
      by_cases small : n < 0x10000
      · rw [if_pos small]
        refine ofUnits_cons fun w head paired => ?_
        cases rest with
        | nil => cases head
        | cons m rest =>
            exact next m rfl ((paired_head_iff (later m List.mem_cons_self) head).mp paired)
      · rw [if_neg small]
        have value : 0x10000 + (0xd800 + (n - 0x10000) / 0x400 - 0xd800) * 0x400 +
            (0xdc00 + (n - 0x10000) % 0x400 - 0xdc00) = n := by omega
        have whole : ofCodePoint n = Char.ofNat n := by
          rw [ofCodePoint, if_neg]
          simp
          omega
        rw [List.cons_append, List.cons_append, List.nil_append,
          ofUnits_pair ⟨by omega, by omega⟩, value, whole]

theorem exists_points_of_units (small : ∀ u ∈ units, u < 0x10000) :
    ∃ points : List Nat, (∀ n ∈ points, n < 0x110000) ∧
      (points.IsChain fun m n => ¬Paired m n) ∧ units = points.flatMap unitsOf := by
  fun_induction ofUnits units with
  | case1 => exact ⟨[], by simp, List.isChain_nil, rfl⟩
  | case2 u =>
      have here := small u List.mem_cons_self
      exact ⟨[u], by simpa using Nat.lt_trans here (by decide), List.isChain_singleton u,
        by simp [unitsOf, here]⟩
  | case3 u w rest paired ih =>
      obtain ⟨-, -, later⟩ := by simpa only [List.forall_mem_cons] using small
      obtain ⟨points, valid, chain, rfl⟩ := ih later
      have halves : Paired u w := by simpa [Paired, and_assoc] using paired
      unfold Paired at halves
      obtain ⟨n, value⟩ : ∃ n, n = 0x10000 + (u - 0xd800) * 0x400 + (w - 0xdc00) := ⟨_, rfl⟩
      have first : 0xd800 + (n - 0x10000) / 0x400 = u := by omega
      have second : 0xdc00 + (n - 0x10000) % 0x400 = w := by omega
      refine ⟨n :: points, List.forall_mem_cons.mpr ⟨by omega, valid⟩,
        List.isChain_cons.mpr ⟨fun m _ meet => ?_, chain⟩, ?_⟩
      · unfold Paired at meet
        omega
      · rw [List.flatMap_cons, unitsOf, if_neg (by omega), first, second]
        rfl
  | case4 u w rest plain ih =>
      obtain ⟨here, later⟩ := List.forall_mem_cons.mp small
      obtain ⟨points, valid, chain, shape⟩ := ih later
      -- `u` stands by itself: the next code point is no half that would pair with it.
      have apart : ¬Paired u w := by simpa [Paired, and_assoc] using plain
      refine ⟨u :: points, List.forall_mem_cons.mpr ⟨Nat.lt_trans here (by decide), valid⟩,
        List.isChain_cons.mpr ⟨fun m head meet => apart ?_, chain⟩, ?_⟩
      · cases points with
        | nil => cases head
        | cons m' points =>
            obtain rfl := Option.some.inj head
            have first : ((m' :: points).flatMap unitsOf).head? = some w := by rw [← shape]; rfl
            exact (paired_head_iff (valid m' List.mem_cons_self) first).mpr meet
      · rw [List.flatMap_cons, unitsOf, if_pos here, ← shape]
        rfl

theorem flatMap_unitsOf_lt (valid : ∀ n ∈ points, n < 0x110000) :
    ∀ u ∈ points.flatMap unitsOf, u < 0x10000 := by
  intro u among
  obtain ⟨n, within, here⟩ := List.mem_flatMap.mp among
  have below := valid n within
  unfold unitsOf at here
  split at here <;>
    · simp only [List.mem_cons, List.not_mem_nil, or_false] at here
      omega

/-- Bytes are read in units of sixteen bits just when they are those of some code points. -/
theorem read16_eq_ok_iff (whole : ∀ b ∈ bytes, b < 0x100) :
    read16 order i bytes = .ok s ↔
      ∃ points, (Form.utf16 order).Spells points bytes ∧ s = ofPoints points := by
  constructor
  · intro found
    cases taken : units16 order i bytes with
    | error f => rw [read16, taken] at found; cases found
    | ok us =>
        rw [read16, taken] at found
        obtain rfl := Except.ok.inj found
        obtain ⟨small, rfl⟩ := (units16_eq_ok_iff whole).mp taken
        obtain ⟨points, valid, unpaired, rfl⟩ := exists_points_of_units small
        refine ⟨points, ⟨valid, ?_, List.flatMap_assoc⟩, ?_⟩
        · exact fun _ _ => unpaired
        · rw [ofPoints, ← ofUnits_flatMap valid unpaired]
  · rintro ⟨points, ⟨valid, unpaired, shape⟩, rfl⟩
    have taken : units16 order i bytes = .ok (points.flatMap unitsOf) :=
      (units16_eq_ok_iff whole).mpr
        ⟨flatMap_unitsOf_lt valid, shape.trans List.flatMap_assoc.symm⟩
    rw [read16, taken, Except.map, ofUnits_flatMap valid (unpaired order rfl), ofPoints]

/-- Bytes are taken by fours just when they are those of some code points. -/
theorem chars32_eq_ok_iff {cs : List Char} (whole : ∀ b ∈ bytes, b < 0x100) :
    chars32 order i bytes = .ok cs ↔
      ∃ points : List Nat, (∀ n ∈ points, n < 0x110000) ∧ bytes = points.flatMap order.quad ∧
        cs = points.map ofCodePoint := by
  constructor
  · intro found
    fun_induction chars32 order i bytes generalizing cs with
    | case1 => cases found; exact ⟨[], by simp, rfl, rfl⟩
    | case2 i a b c d rest n valid =>
        rename_i ih
        obtain ⟨first, second, third, fourth, later⟩ := by
          simpa only [List.forall_mem_cons] using whole
        cases taken : chars32 order (i + 4) rest with
        | error f => rw [taken] at found; cases found
        | ok cs =>
            rw [taken] at found
            obtain rfl := Except.ok.inj found
            obtain ⟨points, all, rfl, rfl⟩ := ih later taken
            have shape := quad_number order first second third fourth
            exact ⟨n :: points, List.forall_mem_cons.mpr ⟨valid, all⟩,
              by rw [List.flatMap_cons, shape]; rfl, rfl⟩
    | case3 => cases found
    | case4 => cases found
  · rintro ⟨points, valid, rfl, rfl⟩
    clear whole
    induction points generalizing i with
    | nil => rfl
    | cons n rest ih =>
        obtain ⟨here, later⟩ := List.forall_mem_cons.mp valid
        have value := number_quad order n
        cases order <;>
          · simp only [ByteOrder.quad, List.flatMap_cons, List.cons_append, List.nil_append]
              at value ih ⊢
            rw [chars32, value, if_pos here, ih later]
            rfl

/-- Bytes are read in units of thirty-two bits just when they are those of some code points. -/
theorem read32_eq_ok_iff (whole : ∀ b ∈ bytes, b < 0x100) :
    read32 order i bytes = .ok s ↔
      ∃ points, (Form.utf32 order).Spells points bytes ∧ s = ofPoints points := by
  constructor
  · intro found
    cases taken : chars32 order i bytes with
    | error f => rw [read32, taken] at found; cases found
    | ok cs =>
        rw [read32, taken] at found
        obtain rfl := Except.ok.inj found
        obtain ⟨points, valid, shape, rfl⟩ := (chars32_eq_ok_iff whole).mp taken
        exact ⟨points, ⟨valid, nofun, shape⟩, rfl⟩
  · rintro ⟨points, ⟨valid, -, shape⟩, rfl⟩
    rw [read32, (chars32_eq_ok_iff whole).mpr ⟨points, valid, shape, rfl⟩, Except.map, ofPoints]

theorem Form.read_eq_ok_iff {form : Form} (whole : ∀ b ∈ bytes, b < 0x100) :
    form.read i bytes = .ok s ↔ ∃ points, form.Spells points bytes ∧ s = ofPoints points := by
  cases form with
  | utf8 => exact readUtf8_eq_ok_iff
  | utf16 order => exact read16_eq_ok_iff whole
  | utf32 order => exact read32_eq_ok_iff whole

theorem formOf_suffix (bytes : List Nat) : (formOf bytes).2 <:+ bytes := by
  unfold formOf
  split
  · exact List.drop_suffix _ _
  · exact List.suffix_rfl

/-- Bytes are read just when they are those of some code points in the encoding that they tell,
and the text of these code points is what is read. -/
theorem readBytes_eq_ok_iff (whole : ∀ b ∈ bytes, b < 0x100) :
    readBytes bytes = .ok s ↔ ∃ points, Spelled bytes points ∧ s = ofPoints points := by
  have behind : ∀ b ∈ (formOf bytes).2, b < 0x100 :=
    fun b among => whole b ((formOf_suffix bytes).subset among)
  exact Form.read_eq_ok_iff behind

end Workflow.Text
