import Workflow.Proofs.Text.Decimal
import Workflow.Proofs.Text.Split
import Workflow.Proofs.Text.Utf8
import Workflow.Proofs.Url.Whole
import Workflow.Url.Query

/-! Query parameters come back from their codes: the segments of a query that is made of pairs of
texts are the codes of these pairs, and each is decoded as its pair, whatever the texts are.

Parameters are added to the query of an address: scheme, host, path and fragment stay as they
are, and what is added is decoded as the pairs that the parameters stand for. Parameters that stand
for no pairs leave an address without a query as it is, and one with a query too if all of them are
null; if one of them is an empty list, an empty segment is added to the query. A parameter with an
integer that is too long for a text is refused. -/

namespace Workflow

namespace Url

open Text

/-- The text that stands in a query: a plus sign is a space, and codes stand for bytes in UTF-8. -/
def decoded (cs : List Char) : String := percentRead (cs.map fun c => if c = '+' then ' ' else c)

/-- The pair that a segment stands for: its key and text are parted by the first equals sign. -/
def decodedPair (segment : List Char) : String × String :=
  ((cutAt '=' segment).map decoded decoded)

/-- The pairs that a query stands for, one for each segment that is not empty. -/
def decodedPairs (query : List Char) : List (String × String) :=
  ((splitAtEach '&' query).filter fun segment => !segment.isEmpty).map decodedPair

def isCodeChar (c : Char) : Bool := isSafeByte c.toNat || c == '+' || c == '%'

variable {b : Nat} {c : Char} {s : String} {pairs : List (String × String)}

theorem isSafeByte_lt (safe : isSafeByte b = true) : b < 0x80 := by
  simp only [isSafeByte, Bool.or_eq_true, Bool.and_eq_true, decide_eq_true_eq, beq_iff_eq] at safe
  omega

theorem upperHexDigit_facts {n : Nat} (h : n < 16) :
    hexValue? (upperHexDigit n) = some n ∧ isSafeByte (upperHexDigit n).toNat = true := by
  have all : ∀ m : Fin 16, hexValue? (upperHexDigit m.val) = some m.val ∧
      isSafeByte (upperHexDigit m.val).toNat = true := by decide
  exact all ⟨n, h⟩

theorem toNat_ofNat_safe (safe : isSafeByte b = true) : (Char.ofNat b).toNat = b := by
  have all : ∀ m : Fin 0x80, (Char.ofNat m.val).toNat = m.val := by decide
  exact all ⟨b, isSafeByte_lt safe⟩

/-! What a byte is written as. -/

theorem isCodeChar_encodedByte (byte : b < 0x100) (mem : c ∈ encodedByte b) :
    isCodeChar c = true := by
  unfold encodedByte at mem
  by_cases safe : isSafeByte b = true
  · rw [if_pos safe] at mem
    rw [List.mem_singleton.mp mem, isCodeChar, toNat_ofNat_safe safe, safe]
    rfl
  by_cases space : b = 0x20
  · rw [if_neg safe, if_pos space] at mem
    rw [List.mem_singleton.mp mem]
    rfl
  · rw [if_neg safe, if_neg space, percentCode] at mem
    have high := (upperHexDigit_facts (n := b / 16) (by omega)).2
    have low := (upperHexDigit_facts (n := b % 16) (by omega)).2
    simp only [List.mem_cons, List.not_mem_nil, or_false] at mem
    rcases mem with rfl | rfl | rfl
    · rfl
    · rw [isCodeChar, high]
      rfl
    · rw [isCodeChar, low]
      rfl

theorem isCodeChar_encoded (mem : c ∈ encoded s) : isCodeChar c = true := by
  obtain ⟨b, byte, mem⟩ := List.mem_flatMap.mp mem
  exact isCodeChar_encodedByte (utf8_lt byte) mem

theorem not_mem_encoded (other : isCodeChar c = false) : c ∉ encoded s := fun mem =>
  Bool.false_ne_true (other.symm.trans (isCodeChar_encoded mem))

theorem isCodeChar_encodedPairs (mem : c ∈ encodedPairs pairs) :
    isCodeChar c = true ∨ c = '=' ∨ c = '&' := by
  induction pairs with
  | nil => cases mem
  | cons pair pairs ih =>
      have own : c ∈ encodedPair pair → isCodeChar c = true ∨ c = '=' ∨ c = '&' := by
        intro mem
        rcases List.mem_append.mp mem with key | value
        · exact .inl (isCodeChar_encoded key)
        rcases List.mem_cons.mp value with mark | value
        · exact .inr (.inl mark)
        · exact .inl (isCodeChar_encoded value)
      cases pairs with
      | nil =>
          rw [encodedPairs, List.map_singleton, List.intercalate_singleton] at mem
          exact own mem
      | cons next pairs =>
          rw [encodedPairs, List.map_cons, List.map_cons, List.intercalate_cons_cons] at mem
          rcases List.mem_append.mp mem with front | others
          · rcases List.mem_append.mp front with first | mark
            · exact own first
            · exact .inr (.inr (List.mem_singleton.mp mark))
          · exact ih others

/-! How it is read. -/

theorem percentDecoded_cons (other : c ≠ '%') (rest : List Char) :
    percentDecoded (c :: rest) = utf8Char c ++ percentDecoded rest := by
  rw [percentDecoded]
  rintro a b rest same -
  exact other same

theorem percentDecoded_encodedByte (byte : b < 0x100) (rest : List Char) :
    percentDecoded ((encodedByte b).map (fun c => if c = '+' then ' ' else c) ++ rest) =
      b :: percentDecoded rest := by
  unfold encodedByte
  by_cases safe : isSafeByte b = true
  · have number := toNat_ofNat_safe safe
    have small := isSafeByte_lt safe
    have other : ∀ d : Char, isSafeByte d.toNat = false → Char.ofNat b ≠ d := by
      rintro d reserved rfl
      rw [number, safe] at reserved
      cases reserved
    rw [if_pos safe, List.map_singleton, if_neg (other '+' rfl), List.singleton_append,
      percentDecoded_cons (other '%' rfl), utf8Char]
    simp [number, small]
  by_cases space : b = 0x20
  · subst space
    rfl
  · obtain ⟨high, highSafe⟩ := upperHexDigit_facts (n := b / 16) (by omega)
    obtain ⟨low, lowSafe⟩ := upperHexDigit_facts (n := b % 16) (by omega)
    have plain : ∀ d : Char, isSafeByte d.toNat = true → ¬d = '+' := by
      rintro d safe rfl
      cases safe
    have whole : 16 * (b / 16) + b % 16 = b := Nat.div_add_mod b 16
    rw [if_neg safe, if_neg space, percentCode]
    simp [percentDecoded, plain _ highSafe, plain _ lowSafe, high, low, whole]

theorem decoded_encoded (s : String) : decoded (encoded s) = s := by
  have bytes : ∀ bs : List Nat, (∀ b ∈ bs, b < 0x100) →
      percentDecoded ((bs.flatMap encodedByte).map fun c => if c = '+' then ' ' else c) = bs := by
    intro bs small
    induction bs with
    | nil => rfl
    | cons b bs ih =>
        obtain ⟨first, others⟩ := List.forall_mem_cons.mp small
        rw [List.flatMap_cons, List.map_append, percentDecoded_encodedByte first, ih others]
  rw [decoded, percentRead, encoded, bytes _ fun b mem => utf8_lt mem, ofUtf8_utf8]

theorem decodedPair_encodedPair (pair : String × String) :
    decodedPair (encodedPair pair) = pair := by
  have key : '=' ∉ encoded pair.1 := not_mem_encoded rfl
  rw [decodedPair, encodedPair, cutAt_append key, Prod.map, decoded_encoded, decoded_encoded]

/-- The segments of a query that is made of pairs are what the pairs are written as. -/
theorem splitAtEach_encodedPairs (some' : pairs ≠ []) :
    splitAtEach '&' (encodedPairs pairs) = pairs.map encodedPair := by
  refine splitAtEach_intercalate (by simpa using some') fun part mem => ?_
  obtain ⟨pair, -, rfl⟩ := List.mem_map.mp mem
  intro inside
  rcases List.mem_append.mp inside with key | value
  · exact not_mem_encoded rfl key
  rcases List.mem_cons.mp value with mark | value
  · cases mark
  · exact not_mem_encoded rfl value

theorem encodedPair_ne_nil (pair : String × String) : encodedPair pair ≠ [] :=
  List.append_ne_nil_of_right_ne_nil _ (List.cons_ne_nil _ _)

theorem decodedPairs_encodedPairs (pairs : List (String × String)) :
    decodedPairs (encodedPairs pairs) = pairs := by
  cases pairs with
  | nil => rfl
  | cons pair pairs =>
      have full : ∀ segment ∈ (pair :: pairs).map encodedPair,
          (!segment.isEmpty) = true := by
        intro segment mem
        obtain ⟨pair, -, rfl⟩ := List.mem_map.mp mem
        simp [encodedPair_ne_nil pair]
      rw [decodedPairs, splitAtEach_encodedPairs (List.cons_ne_nil _ _),
        List.filter_eq_self.mpr full, List.map_map]
      exact (List.map_congr_left fun pair _ => decodedPair_encodedPair pair).trans (List.map_id _)

end Url

namespace Value

def isScalar : Value → Bool
  | .bool _ | .int _ | .double _ | .text _ => true
  | _ => false

/-- What a parameter may be: null, a scalar or a list. -/
inductive IsParameter : Value → Prop where
  | null : IsParameter .null
  | scalar {v : Value} (single : v.isScalar = true) : IsParameter v
  | list (vs : List Value) : IsParameter (.list vs)

end Value

namespace Url

open Text

/-- The scalars of a parameter under a key: none for null, one for each element of a list, and one
for a scalar. -/
def scalarsUnder (key : String) : Value → List (String × Value)
  | .null => []
  | .list vs => vs.map (key, ·)
  | v => [(key, v)]

def scalars (params : Table Value) : List (String × Value) :=
  params.flatMap fun (key, v) => scalarsUnder key v

/-- The pairs that parameters stand for: the keys of the scalars, each with the text of its own. -/
def Listed (params : Table Value) (pairs : List (String × String)) : Prop :=
  (scalars params).map (Prod.map id Value.shown) = pairs.map (Prod.map id .ok)

/-- What is written for pairs: a segment for each, none of them empty, decoded as the pair. -/
structure Writes (added : List Char) (pairs : List (String × String)) : Prop where
  segments : splitAtEach '&' added = pairs.map encodedPair
  full : [] ∉ splitAtEach '&' added
  back : decodedPairs added = pairs

variable {u : Url} {address : String} {params : Table Value} {pairs : List (String × String)}
  {v : Value} {q : List Char}

theorem writes_encodedPairs (some' : pairs ≠ []) : Writes (encodedPairs pairs) pairs where
  segments := splitAtEach_encodedPairs some'
  full := by
    rw [splitAtEach_encodedPairs some', List.mem_map]
    rintro ⟨pair, -, empty⟩
    exact encodedPair_ne_nil pair empty
  back := decodedPairs_encodedPairs pairs

theorem textOf_of_long (long : v.hasLong = true) : textOf v = .error .longInteger := by
  rw [textOf, Value.shown_of_long long]
  rfl

theorem textOf_of_short (short : v.hasLong = false) : ∃ s, v.shown = .ok s ∧ textOf v = .ok s := by
  obtain ⟨s, text⟩ := Value.shown_of_short short
  exact ⟨s, text, by rw [textOf, text]; rfl⟩

theorem mapM_textOf_of_short {vs : List Value} (key : String)
    (short : ∀ v ∈ vs, v.hasLong = false) : ∃ texts, vs.mapM textOf = .ok texts ∧
      (vs.map (key, ·)).map (Prod.map id Value.shown) =
        (texts.map (key, ·)).map (Prod.map id .ok) := by
  induction vs with
  | nil => exact ⟨[], rfl, rfl⟩
  | cons v vs ih =>
      obtain ⟨first, others⟩ := List.forall_mem_cons.mp short
      obtain ⟨s, text, told⟩ := textOf_of_short first
      obtain ⟨texts, rest, tells⟩ := ih others
      refine ⟨s :: texts, ?_, List.cons_eq_cons.mpr ⟨congrArg (key, ·) text, tells⟩⟩
      rw [List.mapM_cons, told, rest]
      rfl

theorem mapM_textOf_of_long {vs : List Value} (long : ∃ v ∈ vs, v.hasLong = true) :
    vs.mapM textOf = .error .longInteger := by
  induction vs with
  | nil => obtain ⟨v, mem, -⟩ := long; cases mem
  | cons v vs ih =>
      rw [List.mapM_cons]
      cases first : v.hasLong with
      | true =>
          rw [textOf_of_long first]
          rfl
      | false =>
          have others : ∃ w ∈ vs, w.hasLong = true := by
            obtain ⟨w, mem, large⟩ := long
            rcases List.mem_cons.mp mem with rfl | mem
            · exact nomatch first.symm.trans large
            · exact ⟨w, mem, large⟩
          obtain ⟨s, -, told⟩ := textOf_of_short first
          rw [told, ih others]
          rfl

theorem parameterTexts_of_scalar (single : v.isScalar = true) :
    parameterTexts v = (textOf v).map ([·]) := by
  cases v <;> first | rfl | cases single

theorem scalarsUnder_of_scalar (single : v.isScalar = true) (key : String) :
    scalarsUnder key v = [(key, v)] := by
  cases v <;> first | rfl | cases single

theorem parameterTexts_of_short (known : v.IsParameter) (key : String)
    (short : ∀ s ∈ scalarsUnder key v, s.2.hasLong = false) :
    ∃ texts, parameterTexts v = .ok texts ∧
      (scalarsUnder key v).map (Prod.map id Value.shown) =
        (texts.map (key, ·)).map (Prod.map id .ok) := by
  cases known with
  | null => exact ⟨[], rfl, rfl⟩
  | scalar single =>
      rw [scalarsUnder_of_scalar single] at short ⊢
      obtain ⟨s, text, told⟩ := textOf_of_short (short _ (List.mem_singleton_self _))
      refine ⟨[s], ?_, congrArg (fun made => [(key, made)]) text⟩
      rw [parameterTexts_of_scalar single, told]
      rfl
  | list vs => exact mapM_textOf_of_short key (List.forall_mem_map.mp short)

theorem parameterTexts_of_long (known : v.IsParameter) {key : String}
    (long : ∃ s ∈ scalarsUnder key v, s.2.hasLong = true) :
    parameterTexts v = .error .longInteger := by
  obtain ⟨s, mem, large⟩ := long
  cases known with
  | null => cases mem
  | scalar single =>
      rw [scalarsUnder_of_scalar single, List.mem_singleton] at mem
      rw [mem] at large
      rw [parameterTexts_of_scalar single, textOf_of_long large]
      rfl
  | list vs =>
      obtain ⟨w, own, rfl⟩ := List.mem_map.mp (show s ∈ vs.map (key, ·) from mem)
      exact mapM_textOf_of_long ⟨w, own, large⟩

theorem queryPairs_of_short (known : ∀ p ∈ params, p.2.IsParameter)
    (short : ∀ s ∈ scalars params, s.2.hasLong = false) :
    ∃ pairs, queryPairs params = .ok pairs ∧ Listed params pairs := by
  induction params with
  | nil => exact ⟨[], rfl, rfl⟩
  | cons p params ih =>
      obtain ⟨key, v⟩ := p
      obtain ⟨parameter, parameters⟩ := List.forall_mem_cons.mp known
      rw [scalars, List.flatMap_cons] at short
      obtain ⟨first, others⟩ := List.forall_mem_append.mp short
      obtain ⟨texts, told, tells⟩ := parameterTexts_of_short parameter key first
      obtain ⟨pairs, rest, listed⟩ := ih parameters others
      refine ⟨texts.map (key, ·) ++ pairs, ?_, ?_⟩
      · rw [queryPairs, told, rest]
        rfl
      · rw [Listed, scalars, List.flatMap_cons, List.map_append, List.map_append, tells]
        exact congrArg (_ ++ ·) listed

theorem queryPairs_of_long (known : ∀ p ∈ params, p.2.IsParameter)
    (long : ∃ s ∈ scalars params, s.2.hasLong = true) :
    queryPairs params = .error .longInteger := by
  induction params with
  | nil => obtain ⟨s, mem, -⟩ := long; cases mem
  | cons p params ih =>
      obtain ⟨key, v⟩ := p
      obtain ⟨parameter, parameters⟩ := List.forall_mem_cons.mp known
      by_cases first : ∃ s ∈ scalarsUnder key v, s.2.hasLong = true
      · rw [queryPairs, parameterTexts_of_long parameter first]
        rfl
      · obtain ⟨texts, told, -⟩ := parameterTexts_of_short parameter key fun s mem =>
          Bool.not_eq_true _ ▸ fun large => first ⟨s, mem, large⟩
        obtain ⟨s, mem, large⟩ := long
        rw [scalars, List.flatMap_cons] at mem
        have others := (List.mem_append.mp mem).resolve_left fun mem => first ⟨s, mem, large⟩
        rw [queryPairs, told, ih parameters ⟨s, others, large⟩]
        rfl

/-- A parameter that is not null stands for a scalar, unless it is an empty list. -/
theorem exists_of_scalars (some' : scalars params ≠ []) : ∃ p ∈ params, p.2 ≠ .null := by
  by_contra null
  refine some' (List.flatMap_eq_nil_iff.mpr fun ⟨key, v⟩ mem => ?_)
  obtain rfl : v = .null := by_contra fun full => null ⟨(key, v), mem, full⟩
  rfl

theorem codeChar_kept {c : Char} (code : isCodeChar c = true ∨ c = '=' ∨ c = '&') :
    c ≠ '#' ∧ isDropped c = false := by
  constructor
  · rintro rfl
    rcases code with code | code | code <;> cases code
  · by_contra dropped
    rw [Bool.not_eq_false, isDropped] at dropped
    simp only [Bool.or_eq_true, beq_iff_eq] at dropped
    rcases dropped with (rfl | rfl) | rfl <;> rcases code with code | code | code <;> cases code

/-- An address with another query comes apart as it did, but for the query. -/
theorem split_requeried (splits : split address = .ok u) (same : u.text = address)
    (kept : ∀ c ∈ q, c ∈ u.query ∨ isCodeChar c = true ∨ c = '=' ∨ c = '&') :
    split { u with query := q }.text = .ok { u with query := q } := by
  obtain ⟨rest, after, a⟩ := split_eq_ok_iff.mp splits
  refine (whole_of_split splits same).split (fun mem => ?_) fun c mem => ?_
  · rcases kept '#' mem with own | code
    · exact a.query_plain own
    · exact (codeChar_kept code).1 rfl
  · rcases kept c mem with own | code
    · simpa using (List.mem_filter.mp (a.mem_whole (.inr (.inr (.inl own))))).2
    · exact (codeChar_kept code).2

theorem joinQuery_eq (query : List Char) (pairs : List (String × String)) :
    joinQuery query pairs =
      (if query = [] then [] else query ++ ['&']) ++ encodedPairs pairs := by
  cases query with
  | nil => rfl
  | cons c query => simp [joinQuery]

theorem mem_joinQuery {c : Char} (mem : c ∈ joinQuery u.query pairs) :
    c ∈ u.query ∨ isCodeChar c = true ∨ c = '=' ∨ c = '&' := by
  rw [joinQuery_eq] at mem
  rcases List.mem_append.mp mem with front | added
  · split at front
    · cases front
    rcases List.mem_append.mp front with own | mark
    · exact .inl own
    · exact .inr (.inr (.inr (List.mem_singleton.mp mark)))
  · exact .inr (isCodeChar_encodedPairs added)

/-- Unless all parameters are null an address is written with the query that they make. -/
theorem withQuery_eq (splits : split address = .ok u) (some' : ∃ p ∈ params, p.2 ≠ .null) :
    withQuery address params = (queryPairs params).map fun pairs =>
      { u with query := joinQuery u.query pairs }.text := by
  obtain ⟨⟨key, v⟩, mem, full⟩ := some'
  have counts : (key, v) ∈ params.filter fun (_, v) => !v.isNull := by
    refine List.mem_filter.mpr ⟨mem, ?_⟩
    cases v with
    | null => exact absurd rfl full
    | _ => rfl
  have filled : (params.filter fun (_, v) => !v.isNull).isEmpty = false := by
    cases shape : params.filter fun (_, v) => !v.isNull with
    | nil => rw [shape] at counts; cases counts
    | cons p ps => rfl
  rw [withQuery, filled, if_neg Bool.false_ne_true, splits]
  cases queryPairs params <;> rfl

theorem withQuery_of_null (null : ∀ p ∈ params, p.2 = .null) :
    withQuery address params = .ok address := by
  have none' : (params.filter fun (_, v) => !v.isNull) = [] := by
    refine List.filter_eq_nil_iff.mpr fun ⟨key, v⟩ mem => ?_
    obtain rfl : v = .null := null (key, v) mem
    exact Bool.false_ne_true
  rw [withQuery, none', List.isEmpty_nil, if_pos rfl]

/-- Parameters are added to an address that comes back from its text, and nothing else changes,
except that an empty list, alone or with other parameters that stand for no pairs, adds an empty
segment to a query. They stand for pairs unless an integer among them is too long. -/
theorem parameters_added (splits : split address = .ok u) (same : u.text = address)
    (known : ∀ p ∈ params, p.2.IsParameter) :
    ((∀ s ∈ scalars params, s.2.hasLong = false) → ∃ pairs, Listed params pairs ∧
      (pairs ≠ [] → ∃ result added, withQuery address params = .ok result ∧
        split result = .ok
          { u with query := (if u.query = [] then [] else u.query ++ ['&']) ++ added } ∧
        Writes added pairs) ∧
      (pairs = [] → (u.query = [] ∨ ∀ p ∈ params, p.2 = .null) →
        withQuery address params = .ok address) ∧
      (pairs = [] → u.query ≠ [] → (∃ p ∈ params, p.2 ≠ .null) →
        ∃ result, withQuery address params = .ok result ∧ result ≠ address ∧
          split result = .ok { u with query := u.query ++ ['&'] })) ∧
    ((∃ s ∈ scalars params, s.2.hasLong = true) →
      withQuery address params = .error .longInteger) := by
  refine ⟨fun short => ?_, fun ⟨s, mem, long⟩ => ?_⟩
  · obtain ⟨pairs, made, listed⟩ := queryPairs_of_short known short
    have written : (∃ p ∈ params, p.2 ≠ .null) →
        withQuery address params = .ok { u with query := joinQuery u.query pairs }.text := by
      intro full
      rw [withQuery_eq splits full, made]
      rfl
    refine ⟨pairs, listed, fun some' => ?_, fun none' free => ?_, fun none' own full => ?_⟩
    · have full := exists_of_scalars fun none' => by
        rw [Listed, none'] at listed
        exact some' (List.map_eq_nil_iff.mp listed.symm)
      refine ⟨_, encodedPairs pairs, written full, ?_, writes_encodedPairs some'⟩
      rw [← joinQuery_eq]
      exact split_requeried splits same fun c mem => mem_joinQuery mem
    · by_cases full : ∃ p ∈ params, p.2 ≠ .null
      · rcases free with empty | null
        · rw [written full, none', joinQuery_eq, empty, if_pos rfl, ← same]
          exact congrArg (fun q => Except.ok { u with query := q }.text) empty.symm
        · obtain ⟨p, mem, full⟩ := full
          exact absurd (null p mem) full
      · exact withQuery_of_null fun p mem => by_contra fun other => full ⟨p, mem, other⟩
    · have query : joinQuery u.query pairs = u.query ++ ['&'] := by
        rw [none', joinQuery_eq, if_neg own]
        exact List.append_nil _
      have result := written full
      rw [query] at result
      have back := split_requeried splits same (q := u.query ++ ['&']) fun c mem => by
        rw [← query] at mem
        exact mem_joinQuery mem
      refine ⟨_, result, fun unchanged => ?_, back⟩
      -- The address would have two queries of different length.
      rw [unchanged, splits] at back
      have longer := congrArg (fun u : Url => u.query.length) (Except.ok.inj back)
      simp at longer
  · rw [withQuery_eq splits (exists_of_scalars (List.ne_nil_of_mem mem)),
      queryPairs_of_long known ⟨s, mem, long⟩]
    rfl

theorem Listed.eq {pairs' : List (String × String)} (h : Listed params pairs)
    (h' : Listed params pairs') : pairs = pairs' :=
  (List.map_inj_right fun (key, s) (key', s') same => by
    obtain ⟨rfl, texts⟩ := Prod.mk.inj same
    exact congrArg (key, ·) (Except.ok.inj texts)).mp (h.symm.trans h')

/-- Texts with marks and a list among nulls and empty lists; nulls alone; an empty list alone; an
integer that is too long. -/
theorem parameters_added_before_fragment :
    (∃ result added,
      withQuery "http://h/p?x=1#f"
          [("q", .text "a b&é"), ("n", .list [.int 2, .bool true]), ("skip", .null),
            ("none", .list [])] = .ok result ∧
        split result = .ok
          ⟨"http".toList, "h".toList, "/p".toList, "x=1&".toList ++ added, "f".toList⟩ ∧
        Writes added [("q", "a b&é"), ("n", "2"), ("n", "True")]) ∧
    withQuery "http://h/p?x=1#f" [("skip", .null)] = .ok "http://h/p?x=1#f" ∧
    (∃ result,
      withQuery "http://h/p?x=1#f" [("none", .list [])] = .ok result ∧
        result ≠ "http://h/p?x=1#f" ∧
        split result = .ok
          ⟨"http".toList, "h".toList, "/p".toList, "x=1&".toList, "f".toList⟩) ∧
    withQuery "http://h/p?x=1#f" [("n", .int firstLong)] = .error .longInteger := by
  have splits : split "http://h/p?x=1#f" = .ok
      ⟨"http".toList, "h".toList, "/p".toList, "x=1".toList, "f".toList⟩ := by decide
  refine ⟨?_, ?_, ?_, ?_⟩
  · have known : ∀ p ∈ [("q", Value.text "a b&é"), ("n", .list [.int 2, .bool true]),
        ("skip", .null), ("none", .list [])], p.2.IsParameter := by
      simp only [List.forall_mem_cons]
      exact ⟨.scalar rfl, .list _, .null, .list _, nofun⟩
    obtain ⟨pairs, listed, some', -⟩ := (parameters_added splits (by decide) known).1 (by decide)
    obtain rfl := listed.eq (show Listed _ [("q", "a b&é"), ("n", "2"), ("n", "True")] from rfl)
    exact some' (by decide)
  · have known : ∀ p ∈ [("skip", Value.null)], p.2.IsParameter := List.forall_mem_singleton.mpr .null
    obtain ⟨pairs, listed, -, none', -⟩ :=
      (parameters_added splits (by decide) known).1 (by decide)
    obtain rfl := listed.eq (show Listed _ [] from rfl)
    exact none' rfl (.inr (by simp))
  · have known : ∀ p ∈ [("none", Value.list [])], p.2.IsParameter :=
      List.forall_mem_singleton.mpr (.list _)
    obtain ⟨pairs, listed, -, -, own⟩ := (parameters_added splits (by decide) known).1 (by decide)
    obtain rfl := listed.eq (show Listed _ [] from rfl)
    exact own rfl (by decide) (by simp)
  · have known : ∀ p ∈ [("n", Value.int firstLong)], p.2.IsParameter :=
      List.forall_mem_singleton.mpr (.scalar rfl)
    refine (parameters_added splits (by decide) known).2
      ⟨("n", .int firstLong), List.mem_singleton_self _, ?_⟩
    rw [Value.hasLong, Value.hasInteger, isLong_firstLong]

end Url

end Workflow
