/-!
# Entries in insertion order

A list of named values in which a name keeps the place of its first insertion and the value of its
last one. Suites, query parameters, panels and free fields of documents are all held this way.
-/

namespace BenchScope

/-- Named values in insertion order. -/
abbrev Entries (α : Type) := List (String × α)

namespace Entries

variable {α : Type}

/-- The names, in order. -/
def keys (entries : Entries α) : List String := entries.map Prod.fst

/-- The value under a name. -/
def get? (entries : Entries α) (key : String) : Option α :=
  (entries.find? fun entry => entry.1 == key).map Prod.snd

/-- Whether a name is present. -/
def has (entries : Entries α) (key : String) : Bool := entries.any fun entry => entry.1 == key

/-- Replaces the value of a name in its place, or appends the name. -/
def put (key : String) (value : α) : Entries α → Entries α
  | [] => [(key, value)]
  | entry :: rest =>
    if entry.1 = key then (entry.1, value) :: rest else entry :: put key value rest

/-- Removes a name. -/
def erase (entries : Entries α) (key : String) : Entries α :=
  entries.filter fun entry => entry.1 != key

/-- The entries that a sequence of insertions leaves. -/
def ofPairs (pairs : List (String × α)) : Entries α :=
  pairs.foldl (fun entries pair => put pair.1 pair.2 entries) []

@[simp] theorem keys_cons (entry : String × α) (rest : Entries α) :
    keys (entry :: rest) = entry.1 :: keys rest := rfl

/-- The keys after an insertion: unchanged if the name was there, else with the name at the end. -/
theorem keys_put (key : String) (value : α) (entries : Entries α) :
    keys (put key value entries) =
      if key ∈ keys entries then keys entries else keys entries ++ [key] := by
  induction entries with
  | nil => simp [put, keys]
  | cons entry rest ih =>
    unfold put
    by_cases h : entry.1 = key
    · simp [h]
    · have h' : key ≠ entry.1 := fun e => h e.symm
      by_cases hm : key ∈ keys rest
      · simp [h, hm, ih]
      · simp [h, h', hm, ih]

end Entries

end BenchScope
