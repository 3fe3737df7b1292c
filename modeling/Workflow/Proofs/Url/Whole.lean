import Workflow.Proofs.Text.Split
import Workflow.Url.Basic

/-! Addresses that are put together from their parts come apart into them again, whatever their
query is, if this holds of one query. -/

namespace Workflow.Url

open Text

variable {u : Url} {cs p q f rest after word : List Char} {c : Char} {url : String}

def tail (q f : List Char) : List Char := marked '?' q ++ marked '#' f

def Follows (cs : List Char) : Prop := ∀ c, cs.head? = some c → c = '?' ∨ c = '#'

theorem follows_tail (q f : List Char) : Follows (tail q f) := by
  intro c first
  cases q with
  | nil =>
      cases f with
      | nil => cases first
      | cons d f => exact .inr (Option.some.inj first).symm
  | cons d q => exact .inl (Option.some.inj first).symm

theorem mem_marked {mark : Char} (mem : c ∈ marked mark p) : c = mark ∨ c ∈ p := by
  cases p with
  | nil => cases mem
  | cons d p => exact List.mem_cons.mp mem

theorem cutAt_marked {mark : Char} (plain : mark ∉ cs) (part : List Char) :
    cutAt mark (cs ++ marked mark part) = (cs, part) := by
  cases part with
  | nil => rw [marked, List.isEmpty_nil, if_pos rfl, List.append_nil, cutAt_of_not_mem plain]
  | cons c part => exact cutAt_append plain (c :: part)

/-- A fragment comes back behind a path without marks and a query without its mark. -/
theorem cutAt_tail (path : '#' ∉ p) (query : '#' ∉ q) (f : List Char) :
    cutAt '#' (p ++ tail q f) = (p ++ marked '?' q, f) := by
  have plain : '#' ∉ p ++ marked '?' q := by
    intro mem
    rcases List.mem_append.mp mem with inside | inside
    · exact path inside
    rcases mem_marked inside with same | inside
    · cases same
    · exact query inside
  rw [tail, ← List.append_assoc, cutAt_marked plain]

def isSchemeWord (word : List Char) : Bool :=
  (word.head?.map isAsciiLetter).getD false && word.all isSchemeChar

/-- The text starts with the word of a scheme and a colon. -/
def HasScheme (cs : List Char) : Prop :=
  ∃ word rest, cs = word ++ ':' :: rest ∧ isSchemeWord word = true

theorem isSchemeChar_of_mem (scheme : isSchemeWord word = true) (mem : c ∈ word) :
    isSchemeChar c = true :=
  List.all_eq_true.mp (Bool.and_eq_true_iff.mp scheme).2 c mem

theorem not_mem_schemeWord (scheme : isSchemeWord word = true) (other : isSchemeChar c = false) :
    c ∉ word := fun mem =>
  Bool.false_ne_true (other.symm.trans (isSchemeChar_of_mem scheme mem))

theorem splitScheme_word (scheme : isSchemeWord word = true) (rest : List Char) :
    splitScheme (word ++ ':' :: rest) = (word.map Char.toLower, rest) := by
  have before : ∀ c ∈ word, decide (c ≠ ':') = true := fun c mem =>
    decide_eq_true fun same => not_mem_schemeWord (c := ':') scheme rfl (same ▸ mem)
  rw [isSchemeWord] at scheme
  rw [splitScheme, List.takeWhile_append_of_pos before, List.dropWhile_append_of_pos before]
  simp [scheme]

theorem splitScheme_none (none' : ¬HasScheme cs) : splitScheme cs = ([], cs) := by
  by_cases colon : ':' ∈ cs
  · obtain ⟨word, rest, rfl, first⟩ := List.eq_append_cons_of_mem colon
    have before : ∀ c ∈ word, decide (c ≠ ':') = true := fun c mem =>
      decide_eq_true fun same => first (same ▸ mem)
    have other : ¬isSchemeWord word = true := fun scheme => none' ⟨word, rest, rfl, scheme⟩
    rw [isSchemeWord] at other
    rw [splitScheme, List.takeWhile_append_of_pos before, List.dropWhile_append_of_pos before]
    simp [other]
  · have nothing : cs.dropWhile (fun c => decide (c ≠ ':')) = [] :=
      List.dropWhile_eq_nil_iff.mpr fun c mem => decide_eq_true fun same => colon (same ▸ mem)
    rw [splitScheme, nothing]

theorem hasScheme_append (follows : Follows rest) : HasScheme (cs ++ rest) ↔ HasScheme cs := by
  constructor
  · rintro ⟨word, more, whole, scheme⟩
    rcases List.append_eq_append_iff.mp whole with ⟨inside, rfl, back⟩ | ⟨inside, rfl, back⟩
    · cases inside with
      | nil =>
          obtain rfl : rest = ':' :: more := back
          rcases follows ':' rfl with same | same <;> cases same
      | cons c inside =>
          obtain rfl : rest = c :: (inside ++ ':' :: more) := back
          have known := isSchemeChar_of_mem (c := c) scheme (by simp)
          rcases follows c rfl with rfl | rfl <;> cases known
    · cases inside with
      | nil =>
          obtain rfl : ':' :: more = rest := back
          rcases follows ':' rfl with same | same <;> cases same
      | cons c inside =>
          obtain ⟨rfl, -⟩ := List.cons.inj back
          exact ⟨word, inside, rfl, scheme⟩
  · rintro ⟨word, more, rfl, scheme⟩
    exact ⟨word, more ++ rest, by simp, scheme⟩

def hasSlashes (u : Url) : Bool :=
  !u.authority.isEmpty ||
    (authoritySchemes.contains (String.ofList u.scheme) && u.path.take 2 != ['/', '/'])

def Rooted (p : List Char) : Prop := ∀ c, p.head? = some c → c = '/'

theorem hierarchy_of_slashes (slashes : u.hasSlashes = true) (rooted : Rooted u.path) :
    u.hierarchy = '/' :: '/' :: (u.authority ++ u.path) := by
  rw [hasSlashes] at slashes
  have path : (if u.path.isEmpty || decide (u.path.head? = some '/') then u.path
      else '/' :: u.path) = u.path := by
    cases found : u.path with
    | nil => rfl
    | cons c p =>
        obtain rfl := rooted c (by rw [found]; rfl)
        rfl
  simp only [hierarchy, slashes, if_true, path, List.cons_append]

theorem hierarchy_of_none (none' : u.hasSlashes = false) : u.hierarchy = u.path := by
  rw [hasSlashes] at none'
  simp only [hierarchy, none', Bool.false_eq_true, if_false]

theorem splitAuthority_slashes {a : List Char} (plain : ∀ c ∈ a, endsAuthority c = false)
    (ends : ∀ c, rest.head? = some c → endsAuthority c = true) :
    splitAuthority ('/' :: '/' :: (a ++ rest)) = (a, rest) := by
  have inside : ∀ c ∈ a, (!endsAuthority c) = true := fun c mem => by rw [plain c mem]; rfl
  rw [splitAuthority, List.takeWhile_append_of_pos inside, List.dropWhile_append_of_pos inside]
  cases rest with
  | nil => simp
  | cons c rest => simp [ends c rfl]

theorem splitAuthority_none (none' : ¬['/', '/'] <+: cs) : splitAuthority cs = ([], cs) := by
  unfold splitAuthority
  split
  · exact absurd ⟨_, rfl⟩ none'
  · rfl

theorem slashes_prefix_append (follows : Follows rest) (none' : ¬['/', '/'] <+: p) :
    ¬['/', '/'] <+: p ++ rest := by
  rintro ⟨others, whole⟩
  match p with
  | [] =>
      obtain rfl : '/' :: '/' :: others = rest := whole
      rcases follows '/' rfl with same | same <;> cases same
  | [c] =>
      obtain rfl : '/' :: others = rest := (List.cons.inj whole).2
      rcases follows '/' rfl with same | same <;> cases same
  | c :: d :: p =>
      obtain ⟨rfl, second⟩ := List.cons.inj whole
      obtain ⟨rfl, -⟩ := List.cons.inj second
      exact none' ⟨p, rfl⟩

theorem endsAuthority_of_follows (rooted : Rooted p) (follows : Follows rest) :
    ∀ c, (p ++ rest).head? = some c → endsAuthority c = true := by
  intro c first
  cases p with
  | nil => rcases follows c first with rfl | rfl <;> rfl
  | cons d p =>
      obtain rfl := rooted d rfl
      obtain rfl := Option.some.inj first
      rfl

/-- A text without what is dropped in front of it and without what is dropped everywhere. -/
def cleaned (cs : List Char) : List Char :=
  (cs.dropWhile isControlOrSpace).filter fun c => !isDropped c

theorem cleaned_eq (clean : ∀ c ∈ cs, isDropped c = false)
    (start : ∀ c, cs.head? = some c → isControlOrSpace c = false) : cleaned cs = cs := by
  have kept : ∀ c ∈ cs, (!isDropped c) = true := fun c mem => by rw [clean c mem]; rfl
  cases cs with
  | nil => rfl
  | cons c cs =>
      rw [cleaned, List.dropWhile_cons_of_neg (by rw [start c rfl]; exact Bool.false_ne_true),
        List.filter_eq_self.mpr kept]

theorem cleaned_start (first : (cleaned cs).head? = some c) : isControlOrSpace c = false := by
  have stop := List.head?_dropWhile_not isControlOrSpace cs
  rw [cleaned] at first
  cases shape : cs.dropWhile isControlOrSpace with
  | nil => rw [shape] at first; cases first
  | cons d others =>
      rw [shape] at first stop
      have solid : isControlOrSpace d = false := by simpa using stop
      have kept : (!isDropped d) = true := by
        by_contra dropped
        rw [Bool.not_eq_true, Bool.not_eq_false', isDropped] at dropped
        simp only [Bool.or_eq_true, beq_iff_eq] at dropped
        rcases dropped with (rfl | rfl) | rfl <;> cases solid
      rw [List.filter_cons, if_pos kept] at first
      rwa [← Option.some.inj first]

/-- How an address comes apart. Behind its scheme stands `rest`, behind its authority `after`. -/
structure Apart (cs : List Char) (u : Url) (rest after : List Char) : Prop where
  scheme : splitScheme cs = (u.scheme, rest)
  authority : splitAuthority rest = (u.authority, after)
  accepted : (authorityProblem? u.authority).or (disguiseProblem? u.authority) = none
  path : (cutAt '?' (cutAt '#' after).1).1 = u.path
  query : (cutAt '?' (cutAt '#' after).1).2 = u.query
  fragment : (cutAt '#' after).2 = u.fragment

theorem split_eq_ok_iff :
    split url = .ok u ↔ ∃ rest after, Apart (cleaned url.toList) u rest after := by
  unfold split
  rw [← cleaned]
  constructor
  · intro ok
    dsimp only at ok
    split at ok
    · cases ok
    · rename_i accepted
      obtain rfl := Except.ok.inj ok
      exact ⟨_, _, rfl, rfl, accepted, rfl, rfl, rfl⟩
  · rintro ⟨rest, after, apart⟩
    simp only [apart.scheme, apart.authority, apart.accepted, apart.path, apart.query,
      apart.fragment]

def front (u : Url) : List Char :=
  (if u.scheme.isEmpty then [] else u.scheme ++ [':']) ++ u.hierarchy

theorem toList_text (u : Url) : u.text.toList = u.front ++ tail u.query u.fragment := by
  rw [text, String.toList_ofList, front, tail, List.append_assoc]

/-- An address that comes back from its text: no part of it is taken for another one. -/
structure Whole (u : Url) : Prop where
  scheme : u.scheme = [] ∨ isSchemeWord u.scheme = true ∧ u.scheme.map Char.toLower = u.scheme
  bare : u.scheme = [] → ¬HasScheme u.hierarchy
  authority : ∀ c ∈ u.authority, endsAuthority c = false
  accepted : (authorityProblem? u.authority).or (disguiseProblem? u.authority) = none
  path : '?' ∉ u.path ∧ '#' ∉ u.path
  rooted : u.hasSlashes = true → Rooted u.path
  unslashed : u.hasSlashes = false → ¬['/', '/'] <+: u.path
  clean : ∀ c ∈ u.front ++ u.fragment, isDropped c = false
  start : ∀ c, u.front.head? = some c → isControlOrSpace c = false

theorem cleaned_text {cs : List Char} (clean : ∀ c ∈ cs ++ f, isDropped c = false)
    (start : ∀ c, cs.head? = some c → isControlOrSpace c = false)
    (query : ∀ c ∈ q, isDropped c = false) : cleaned (cs ++ tail q f) = cs ++ tail q f := by
  refine cleaned_eq (fun c mem => ?_) fun c first => ?_
  · rcases List.mem_append.mp mem with front | back
    · exact clean c (List.mem_append_left f front)
    rcases List.mem_append.mp back with inside | inside
    · rcases mem_marked inside with rfl | inside
      · rfl
      · exact query c inside
    · rcases mem_marked inside with rfl | inside
      · rfl
      · exact clean c (List.mem_append_right cs inside)
  · cases cs with
    | nil => rcases follows_tail q f c first with rfl | rfl <;> rfl
    | cons d cs => exact start c first

theorem authority_eq_nil (none' : u.hasSlashes = false) : u.authority = [] := by
  rw [hasSlashes, Bool.or_eq_false_iff] at none'
  simpa using none'.1

theorem Whole.split (h : u.Whole) (query : '#' ∉ q) (clean : ∀ c ∈ q, isDropped c = false) :
    split { u with query := q }.text = .ok { u with query := q } := by
  have follows := follows_tail q u.fragment
  have back := cutAt_tail h.path.2 query u.fragment
  have path := cutAt_marked h.path.1 q
  refine split_eq_ok_iff.mpr
    ⟨u.hierarchy ++ tail q u.fragment, u.path ++ tail q u.fragment, ?_, ?_, h.accepted, ?_, ?_, ?_⟩
  · rw [toList_text]
    change splitScheme (cleaned (u.front ++ tail q u.fragment)) = _
    rw [cleaned_text h.clean h.start clean, front, List.append_assoc]
    rcases h.scheme with none' | ⟨word, lower⟩
    · have bare := (hasScheme_append follows).not.mpr (h.bare none')
      rw [none', List.isEmpty_nil, if_pos rfl, List.nil_append, splitScheme_none bare]
    · have some' : u.scheme.isEmpty = false := by
        cases found : u.scheme with
        | nil => rw [found] at word; cases word
        | cons c cs => rfl
      rw [some', if_neg Bool.false_ne_true, List.append_assoc, List.singleton_append,
        splitScheme_word word, lower]
  · cases slashes : u.hasSlashes with
    | true =>
        have rooted := h.rooted slashes
        rw [hierarchy_of_slashes slashes rooted, List.cons_append, List.cons_append,
          List.append_assoc]
        exact splitAuthority_slashes h.authority (endsAuthority_of_follows rooted follows)
    | false =>
        rw [hierarchy_of_none slashes,
          splitAuthority_none (slashes_prefix_append follows (h.unslashed slashes))]
        exact congrArg (·, _) (authority_eq_nil slashes).symm
  · rw [back, path]
  · rw [back, path]
  · rw [back]

theorem isSchemeChar_lt (scheme : isSchemeChar c = true) : c.toNat < 0x80 := by
  have upTo : ∀ d : Char, c ≤ d → d.toNat < 0x80 → c.toNat < 0x80 := fun _ le =>
    Nat.lt_of_le_of_lt le
  simp only [isSchemeChar, isAsciiLetter, Bool.or_eq_true, Bool.and_eq_true, decide_eq_true_eq,
    beq_iff_eq] at scheme
  rcases scheme with ((((⟨-, le⟩ | ⟨-, le⟩) | ⟨-, le⟩) | rfl) | rfl) | rfl
  · exact upTo _ le (by decide)
  · exact upTo _ le (by decide)
  · exact upTo _ le (by decide)
  all_goals decide

/-- In lower case a character of a scheme is one that stays as it is. -/
theorem lower_schemeChar (scheme : isSchemeChar c = true) :
    isSchemeChar c.toLower = true ∧ c.toLower.toLower = c.toLower ∧
      (isAsciiLetter c = true → isAsciiLetter c.toLower = true) := by
  have all : ∀ n : Fin 0x80, isSchemeChar (Char.ofNat n.val) = true →
      isSchemeChar (Char.ofNat n.val).toLower = true ∧
        (Char.ofNat n.val).toLower.toLower = (Char.ofNat n.val).toLower ∧
          (isAsciiLetter (Char.ofNat n.val) = true →
            isAsciiLetter (Char.ofNat n.val).toLower = true) := by decide
  have own := all ⟨c.toNat, isSchemeChar_lt scheme⟩
  rw [Char.ofNat_toNat] at own
  exact own scheme

theorem isSchemeWord_lower (scheme : isSchemeWord word = true) :
    isSchemeWord (word.map Char.toLower) = true ∧
      (word.map Char.toLower).map Char.toLower = word.map Char.toLower := by
  have each : ∀ c ∈ word, isSchemeChar c = true := fun c mem => isSchemeChar_of_mem scheme mem
  constructor
  · rw [isSchemeWord, Bool.and_eq_true]
    constructor
    · cases word with
      | nil => cases scheme
      | cons c word =>
          rw [isSchemeWord, Bool.and_eq_true] at scheme
          exact (lower_schemeChar (each c List.mem_cons_self)).2.2 scheme.1
    · rw [List.all_map, List.all_eq_true]
      exact fun c mem => (lower_schemeChar (each c mem)).1
  · rw [List.map_map]
    exact List.map_congr_left fun c mem => (lower_schemeChar (each c mem)).2.1

namespace Apart

theorem scheme_cases (a : Apart cs u rest after) :
    (u.scheme = [] ∧ ¬HasScheme cs ∧ rest = cs) ∨
      ∃ word, isSchemeWord word = true ∧ u.scheme = word.map Char.toLower ∧
        cs = word ++ ':' :: rest := by
  by_cases some' : HasScheme cs
  · obtain ⟨word, more, rfl, scheme⟩ := some'
    have split := a.scheme
    rw [splitScheme_word scheme] at split
    obtain ⟨name, rfl⟩ := Prod.mk.inj split
    exact .inr ⟨word, scheme, name.symm, rfl⟩
  · have split := a.scheme
    rw [splitScheme_none some'] at split
    obtain ⟨name, rfl⟩ := Prod.mk.inj split
    exact .inl ⟨name.symm, some', rfl⟩

theorem authority_cases (a : Apart cs u rest after) :
    (u.authority = [] ∧ ¬['/', '/'] <+: rest ∧ after = rest) ∨
      (rest = '/' :: '/' :: (u.authority ++ after) ∧
        (∀ c ∈ u.authority, endsAuthority c = false) ∧
          ∀ c, after.head? = some c → endsAuthority c = true) := by
  by_cases slashes : ['/', '/'] <+: rest
  · obtain ⟨more, rfl⟩ := slashes
    have split := a.authority
    change splitAuthority ('/' :: '/' :: more) = _ at split
    rw [splitAuthority] at split
    obtain ⟨before, rfl⟩ := Prod.mk.inj split
    refine .inr ⟨?_, fun c mem => ?_, fun c first => ?_⟩
    · rw [← before, List.takeWhile_append_dropWhile]
      rfl
    · rw [← before] at mem
      simpa using List.mem_takeWhile_imp mem
    · have stop := List.head?_dropWhile_not (fun c => !endsAuthority c) more
      rw [first] at stop
      simpa using stop
  · have split := a.authority
    rw [splitAuthority_none slashes] at split
    obtain ⟨name, rfl⟩ := Prod.mk.inj split
    exact .inl ⟨name.symm, slashes, rfl⟩

theorem path_prefix (a : Apart cs u rest after) : u.path <+: after := by
  rw [← a.path]
  exact (prefix_cutAt_fst '?' _).trans (prefix_cutAt_fst '#' after)

theorem path_plain (a : Apart cs u rest after) : '?' ∉ u.path ∧ '#' ∉ u.path := by
  rw [← a.path]
  refine ⟨not_mem_cutAt_fst '?' _, fun mem => ?_⟩
  exact not_mem_cutAt_fst '#' after ((prefix_cutAt_fst '?' _).subset mem)

theorem query_plain (a : Apart cs u rest after) : '#' ∉ u.query := by
  rw [← a.query]
  exact fun mem => not_mem_cutAt_fst '#' after ((suffix_cutAt_snd '?' _).subset mem)

theorem mem_after (a : Apart cs u rest after)
    (mem : c ∈ u.path ∨ c ∈ u.query ∨ c ∈ u.fragment) : c ∈ after := by
  have front : (cutAt '#' after).1 <+: after := prefix_cutAt_fst '#' after
  rcases mem with mem | mem | mem
  · exact a.path_prefix.subset mem
  · rw [← a.query] at mem
    exact front.subset ((suffix_cutAt_snd '?' _).subset mem)
  · rw [← a.fragment] at mem
    exact (suffix_cutAt_snd '#' after).subset mem

theorem mem_whole (a : Apart cs u rest after)
    (mem : c ∈ u.authority ∨ c ∈ u.path ∨ c ∈ u.query ∨ c ∈ u.fragment) : c ∈ cs := by
  have inside : c ∈ rest := by
    rcases a.authority_cases with ⟨none', -, rfl⟩ | ⟨rfl, -, -⟩
    · rcases mem with mem | mem
      · rw [none'] at mem
        cases mem
      · exact a.mem_after mem
    · refine List.mem_cons_of_mem _ (List.mem_cons_of_mem _ (List.mem_append.mpr ?_))
      exact mem.imp_right a.mem_after
  rcases a.scheme_cases with ⟨-, -, rfl⟩ | ⟨word, -, -, rfl⟩
  · exact inside
  · exact List.mem_append_right _ (List.mem_cons_of_mem _ inside)

end Apart

theorem schemeChar_kept (scheme : isSchemeChar c = true) :
    isDropped c = false ∧ isControlOrSpace c = false := by
  have all : ∀ n : Fin 0x80, isSchemeChar (Char.ofNat n.val) = true →
      isDropped (Char.ofNat n.val) = false ∧ isControlOrSpace (Char.ofNat n.val) = false := by
    decide
  have own := all ⟨c.toNat, isSchemeChar_lt scheme⟩
  rw [Char.ofNat_toNat] at own
  exact own scheme

/-- Behind the slashes stand the authority and the path, with a slash before it if it has none. -/
theorem hierarchy_slashes (slashes : u.hasSlashes = true) :
    ∃ p, u.hierarchy = '/' :: '/' :: (u.authority ++ p) ∧ Rooted p ∧
      (p = u.path ∨ p = '/' :: u.path) := by
  by_cases rooted : Rooted u.path
  · exact ⟨u.path, hierarchy_of_slashes slashes rooted, rooted, .inl rfl⟩
  · refine ⟨'/' :: u.path, ?_, fun c first => (Option.some.inj first).symm, .inr rfl⟩
    rw [hasSlashes] at slashes
    cases found : u.path with
    | nil => exact absurd (by rw [found]; rintro c ⟨⟩) rooted
    | cons c p =>
        have other : c ≠ '/' := by
          rintro rfl
          exact rooted (by rw [found]; exact fun c first => (Option.some.inj first).symm)
        rw [found] at slashes
        simp only [hierarchy, found, slashes, if_true]
        simp [other]

theorem mem_hierarchy (mem : c ∈ u.hierarchy) : c = '/' ∨ c ∈ u.authority ∨ c ∈ u.path := by
  cases slashes : u.hasSlashes with
  | true =>
      obtain ⟨p, whole, -, own⟩ := hierarchy_slashes slashes
      have path : c ∈ p → c = '/' ∨ c ∈ u.path := by
        rcases own with rfl | rfl
        · exact .inr
        · exact List.mem_cons.mp
      rw [whole, List.mem_cons, List.mem_cons, List.mem_append] at mem
      rcases mem with rfl | rfl | mem | mem
      · exact .inl rfl
      · exact .inl rfl
      · exact .inr (.inl mem)
      · exact (path mem).imp_right .inr
  | false =>
      rw [hierarchy_of_none slashes] at mem
      exact .inr (.inr mem)

namespace Apart

theorem clean (a : Apart cs u rest after) (kept : ∀ c ∈ cs, isDropped c = false) :
    ∀ c ∈ u.front ++ u.fragment, isDropped c = false := by
  intro c mem
  rcases List.mem_append.mp mem with mem | mem
  · rw [front] at mem
    rcases List.mem_append.mp mem with mem | mem
    · rcases a.scheme_cases with ⟨none', -⟩ | ⟨word, scheme, name, -⟩
      · rw [none'] at mem
        cases mem
      · have word' := (isSchemeWord_lower scheme).1
        rw [← name] at word'
        split at mem
        · cases mem
        rcases List.mem_append.mp mem with mem | mem
        · exact (schemeChar_kept (isSchemeChar_of_mem word' mem)).1
        · rw [List.mem_singleton.mp mem]
          rfl
    · rcases mem_hierarchy mem with rfl | mem
      · rfl
      · exact kept c (a.mem_whole (mem.imp_right .inl))
  · exact kept c (a.mem_whole (.inr (.inr (.inr mem))))

/-- Nothing in front of an address would be dropped from its text. -/
theorem start (a : Apart cs u rest after)
    (first : ∀ c, cs.head? = some c → isControlOrSpace c = false) :
    ∀ c, u.front.head? = some c → isControlOrSpace c = false := by
  intro c found
  rw [front] at found
  rcases a.scheme_cases with ⟨none', -, whole⟩ | ⟨word, scheme, name, -⟩
  · rw [none', List.isEmpty_nil, if_pos rfl, List.nil_append] at found
    cases slashes : u.hasSlashes with
    | true =>
        obtain ⟨p, shape, -, -⟩ := hierarchy_slashes slashes
        rw [shape] at found
        obtain rfl := Option.some.inj found
        rfl
    | false =>
        rw [hierarchy_of_none slashes] at found
        obtain ⟨more, shape⟩ := a.path_prefix
        have found : after.head? = some c := by
          rw [← shape, List.head?_append, found, Option.some_or]
        rcases a.authority_cases with ⟨-, -, rfl⟩ | ⟨-, -, ends⟩
        · exact first c (whole ▸ found)
        · have mark := ends c found
          simp only [endsAuthority, Bool.or_eq_true, beq_iff_eq] at mark
          rcases mark with (rfl | rfl) | rfl <;> rfl
  · have word' := (isSchemeWord_lower scheme).1
    rw [← name] at word'
    cases shape : u.scheme with
    | nil => rw [shape] at word'; cases word'
    | cons d others =>
        rw [shape] at found word'
        obtain rfl := Option.some.inj found
        exact (schemeChar_kept (isSchemeChar_of_mem word' List.mem_cons_self)).2

/-- Where the text of an address comes apart into it, its parts stand where they are written. -/
theorem rest_eq (a : Apart cs u rest after) (same : cs = u.front ++ tail u.query u.fragment) :
    rest = u.hierarchy ++ tail u.query u.fragment := by
  rw [front, List.append_assoc] at same
  rcases a.scheme_cases with ⟨none', -, rfl⟩ | ⟨word, scheme, name, -⟩
  · rw [none'] at same
    exact same
  · have word' := (isSchemeWord_lower scheme).1
    rw [← name] at word'
    have some' : u.scheme.isEmpty = false := by
      cases found : u.scheme with
      | nil => rw [found] at word'; cases word'
      | cons c cs => rfl
    rw [some', if_neg Bool.false_ne_true, List.append_assoc, List.singleton_append] at same
    have split := a.scheme
    rw [same, splitScheme_word word'] at split
    exact (Prod.mk.inj split).2.symm

/-- What stands before the query and the fragment is the path, if it has no marks. -/
theorem path_eq (a : Apart cs u rest after) (plain : '?' ∉ p ∧ '#' ∉ p)
    (same : after = p ++ tail u.query u.fragment) : u.path = p := by
  rw [← a.path, same, cutAt_tail plain.2 a.query_plain, cutAt_marked plain.1]

theorem rooted (a : Apart cs u rest after) (same : rest = u.hierarchy ++ tail u.query u.fragment)
    (slashes : u.hasSlashes = true) : Rooted u.path := by
  obtain ⟨p, shape, rooted, own⟩ := hierarchy_slashes slashes
  rw [shape] at same
  have plain : '?' ∉ p ∧ '#' ∉ p := by
    rcases own with rfl | rfl
    · exact a.path_plain
    · simpa using a.path_plain
  rcases a.authority_cases with ⟨-, none', -⟩ | ⟨whole, -, -⟩
  · exact absurd ⟨_, same.symm⟩ none'
  · rw [whole, List.cons_append, List.cons_append, List.append_assoc, List.cons.injEq,
      List.cons.injEq, List.append_cancel_left_eq] at same
    rw [a.path_eq plain same.2.2]
    exact rooted

theorem unslashed (a : Apart cs u rest after)
    (same : rest = u.hierarchy ++ tail u.query u.fragment) (none' : u.hasSlashes = false) :
    ¬['/', '/'] <+: u.path := by
  rintro ⟨p, shape⟩
  rw [hierarchy_of_none none', ← shape] at same
  rcases a.authority_cases with ⟨-, none', -⟩ | ⟨whole, -, -⟩
  · exact none' ⟨_, by rw [same, List.append_assoc]⟩
  · have plain := a.path_plain
    rw [← shape] at plain
    rw [whole, authority_eq_nil none'] at same
    have path := a.path_eq (p := p) (by simpa using plain) (List.cons.inj (List.cons.inj same).2).2
    have length := congrArg List.length (shape.trans path)
    rw [List.length_append, List.length_cons, List.length_singleton] at length
    omega

end Apart

/-- An address that comes back from its text comes back from it under any query. -/
theorem whole_of_split (splits : split url = .ok u) (same : u.text = url) : u.Whole := by
  obtain ⟨rest, after, a⟩ := split_eq_ok_iff.mp splits
  have clean := a.clean fun c mem => by simpa using (List.mem_filter.mp mem).2
  have start := a.start fun c first => cleaned_start first
  have query : ∀ c ∈ u.query, isDropped c = false := fun c mem => by
    simpa using (List.mem_filter.mp (a.mem_whole (.inr (.inr (.inl mem))))).2
  have whole : cleaned url.toList = u.front ++ tail u.query u.fragment := by
    rw [← same, toList_text, cleaned_text clean start query]
  have hierarchy := a.rest_eq whole
  refine ⟨?_, fun none' => ?_, ?_, a.accepted, a.path_plain, a.rooted hierarchy,
    a.unslashed hierarchy, clean, start⟩
  · rcases a.scheme_cases with ⟨none', -⟩ | ⟨word, scheme, name, -⟩
    · exact .inl none'
    · exact .inr (name ▸ isSchemeWord_lower scheme)
  · rcases a.scheme_cases with ⟨-, bare, rfl⟩ | ⟨word, scheme, name, -⟩
    · rw [hierarchy, hasScheme_append (follows_tail _ _)] at bare
      exact bare
    · rw [none'] at name
      obtain rfl := List.map_eq_nil_iff.mp name.symm
      cases scheme
  · rcases a.authority_cases with ⟨none', -, -⟩ | ⟨-, plain, -⟩
    · rw [none']
      exact fun c mem => absurd mem List.not_mem_nil
    · exact plain

end Workflow.Url
