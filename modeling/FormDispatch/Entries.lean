/-
# Keyed entries

Values under text keys, in the order in which the keys were first written. Writing a key that is
already there replaces its value and keeps its place, so `ofPairs` gives a repeated key its first
place and its last value.

`get?_put_self` and `get?_put_of_ne` say what a look-up finds after a write.
-/

namespace FormDispatch

/-- Values under text keys, in order. -/
abbrev Entries (α : Type) := List (String × α)

namespace Entries

variable {α : Type}

/-- The value under a key. -/
def get? : Entries α → String → Option α
  | [], _ => none
  | (k, v) :: rest, key => if k = key then some v else get? rest key

/-- The entries with a value under a key: in the key's place if it has one, else at the end. -/
def put : Entries α → String → α → Entries α
  | [], key, value => [(key, value)]
  | (k, v) :: rest, key, value =>
    if k = key then (k, value) :: rest else (k, v) :: put rest key value

/-- A key has a value. -/
def has (m : Entries α) (key : String) : Bool :=
  (m.get? key).isSome

/-- The keys in order. -/
def keys (m : Entries α) : List String :=
  m.map Prod.fst

/-- The entries written pair by pair. -/
def ofPairs (pairs : List (String × α)) : Entries α :=
  pairs.foldl (fun m p => m.put p.1 p.2) []

/-- The entries with the others written over them. -/
def merge (m other : Entries α) : Entries α :=
  other.foldl (fun m p => m.put p.1 p.2) m

/-- A written key is found with its value. -/
@[simp] theorem get?_put_self (m : Entries α) (key : String) (value : α) :
    (m.put key value).get? key = some value := by
  induction m with
  | nil => simp [put, get?]
  | cons p rest ih =>
    by_cases h : p.1 = key
    · simp [put, get?, h]
    · simp [put, get?, h, ih]

/-- Writing one key leaves the others as they were. -/
theorem get?_put_of_ne (m : Entries α) {key other : String} (value : α) (h : key ≠ other) :
    (m.put key value).get? other = m.get? other := by
  induction m with
  | nil => simp [put, get?, h]
  | cons p rest ih =>
    by_cases hk : p.1 = key
    · have : p.1 ≠ other := fun e => h (hk ▸ e)
      simp [put, get?, hk, h]
    · simp [put, get?, hk, ih]

example : ofPairs [("a", 1), ("b", 2), ("a", 3)] = [("a", 3), ("b", 2)] := by decide

end Entries
end FormDispatch
