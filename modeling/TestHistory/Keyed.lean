/-!
# Entries sorted by key

A list of entries with strictly increasing keys. `put` sets the value of a key; `ofList` puts
entries one after the other, so of equal keys the last one counts. `lastOnly` keeps the same entries
where they stand.
-/

namespace TestHistory.Keyed

def put {α : Type} (key : String) (a : α) : List (String × α) → List (String × α)
  | [] => [(key, a)]
  | (k, b) :: entries =>
    if key < k then (key, a) :: (k, b) :: entries
    else if key = k then (key, a) :: entries
    else (k, b) :: put key a entries

def putAll {α : Type} (entries : List (String × α)) (more : List (String × α)) :
    List (String × α) :=
  more.foldl (fun sorted (key, a) => put key a sorted) entries

def ofList {α : Type} (entries : List (String × α)) : List (String × α) :=
  putAll [] entries

/-- The entries without those whose key comes again, in the order of the list. -/
def lastOnly {α : Type} : List (String × α) → List (String × α)
  | [] => []
  | entry :: entries =>
    if entry.1 ∈ entries.map Prod.fst then lastOnly entries else entry :: lastOnly entries

@[simp] theorem lookup_put_self {α : Type} (key : String) (a : α) (entries : List (String × α)) :
    (put key a entries).lookup key = some a := by
  induction entries with
  | nil => simp [put]
  | cons entry entries ih =>
    obtain ⟨k, b⟩ := entry
    by_cases below : key < k
    · simp [put, below]
    · by_cases same : key = k
      · simp [put, same]
      · have : (key == k) = false := by simp [same]
        simp [put, below, same, List.lookup_cons, this, ih]

end TestHistory.Keyed
