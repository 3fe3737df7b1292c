/-! Tables with text keys that keep their entries in the order of arrival. -/

namespace Workflow

abbrev Table (α : Type) := List (String × α)

namespace Table

variable {α β : Type}

/-- The entry under a key: the first one, in a table that repeats keys. -/
def get? : Table α → String → Option α
  | [], _ => none
  | (k, v) :: rest, key => if k = key then some v else get? rest key

/-- The last entry under a key. -/
def last? (t : Table α) (key : String) : Option α := get? t.reverse key

def contains (t : Table α) (key : String) : Bool := (t.get? key).isSome

/-- Replaces the entry under a key where it stands, or appends a new one. -/
def put : Table α → String → α → Table α
  | [], key, v => [(key, v)]
  | (k, old) :: rest, key, v => if k = key then (k, v) :: rest else (k, old) :: put rest key v

/-- Appends an entry unless the key is taken. -/
def putNew (t : Table α) (key : String) (v : α) : Table α :=
  if t.contains key then t else t.put key v

/-- A table from entries: of two under one key the later value stands at the earlier place. -/
def ofList (entries : List (String × α)) : Table α :=
  entries.foldl (fun t (k, v) => t.put k v) []

def keys (t : Table α) : List String := t.map Prod.fst

def values (t : Table α) : List α := t.map Prod.snd

/-- The same keys with other entries. -/
def mapValues (f : α → β) (t : Table α) : Table β := t.map fun (k, v) => (k, f v)

/-- Changes the entry under a key, if there is one. -/
def update : Table α → String → (α → α) → Table α
  | [], _, _ => []
  | (k, v) :: rest, key, f => if k = key then (k, f v) :: rest else (k, v) :: update rest key f

/-- No key stands twice. -/
def Distinct (t : Table α) : Prop := t.keys.Nodup

theorem get?_put_self (t : Table α) (key : String) (v : α) :
    (t.put key v).get? key = some v := by
  induction t with
  | nil => simp [put, get?]
  | cons e rest ih =>
      by_cases h : e.1 = key
      · simp [put, get?, h]
      · simpa [put, get?, h] using ih

theorem get?_put_of_ne (t : Table α) {key other : String} (v : α) (h : other ≠ key) :
    (t.put key v).get? other = t.get? other := by
  induction t with
  | nil => simp [put, get?, Ne.symm h]
  | cons e rest ih =>
      by_cases hk : e.1 = key
      · simp [put, get?, hk, Ne.symm h]
      · by_cases ho : e.1 = other
        · simp [put, get?, ho, h]
        · simpa [put, get?, hk, ho] using ih

theorem keys_put_of_contains (t : Table α) (key : String) (v : α) (h : t.contains key = true) :
    (t.put key v).keys = t.keys := by
  induction t with
  | nil => simp [contains, get?] at h
  | cons e rest ih =>
      by_cases hk : e.1 = key
      · simp [put, keys, hk]
      · have h' : contains rest key = true := by simpa [contains, get?, hk] using h
        simpa [put, keys, hk] using ih h'

end Table

end Workflow
