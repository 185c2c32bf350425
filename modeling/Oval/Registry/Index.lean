/-! # Indexes by identifier

An index keeps the first entry of each identifier.  Entries that come too late are handed back
together with the entry that was kept.
-/
namespace Oval

/-- Entries by identifier, each identifier once, in the order of insertion. -/
structure Index (α : Type) where
  entries : List (String × α) := []

namespace Index

variable {α : Type}

def empty : Index α := {}

def find? (ix : Index α) (id : String) : Option α := ix.entries.lookup id

def size (ix : Index α) : Nat := ix.entries.length

def insertNew (ix : Index α) (id : String) (a : α) : Index α :=
  match ix.find? id with
  | some _ => ix
  | none => ⟨ix.entries ++ [(id, a)]⟩

def insertAll (ix : Index α) (entries : List (String × α)) : Index α :=
  entries.foldl (fun ix (id, a) => ix.insertNew id a) ix

/-- The entries that `insertAll` does not add: the identifier, what it finds and what is refused. -/
def refused (ix : Index α) : List (String × α) → List (String × α × α)
  | [] => []
  | (id, a) :: r =>
    match ix.find? id with
    | some kept => (id, kept, a) :: refused ix r
    | none => refused (ix.insertNew id a) r

@[simp] theorem find?_empty (id : String) : (empty : Index α).find? id = none := rfl

theorem find?_insertNew (ix : Index α) (id key : String) (a : α) :
    (ix.insertNew id a).find? key =
      (ix.find? key).or (if key = id then some a else none) := by
  unfold insertNew
  split
  · rename_i b h
    by_cases hk : key = id
    · subst hk
      simp [h]
    · simp [hk]
  · rename_i h
    simp only [find?, List.lookup_append, List.lookup_cons, List.lookup_nil]
    by_cases hk : key = id
    · simp [hk]
    · have : (key == id) = false := by simpa using hk
      simp [hk, this]

/-- Looking up after `insertAll` is a search for the first entry with the identifier, in the old
entries and then in the new ones. -/
theorem find?_insertAll (ix : Index α) (entries : List (String × α)) (key : String) :
    (ix.insertAll entries).find? key = (ix.find? key).or (entries.lookup key) := by
  induction entries generalizing ix with
  | nil => simp [insertAll]
  | cons e r ih =>
    obtain ⟨id, a⟩ := e
    rw [insertAll, List.foldl_cons, ← insertAll, ih, find?_insertNew, List.lookup_cons]
    by_cases hk : key = id
    · subst hk
      cases ix.find? key <;> simp
    · have : (key == id) = false := by simpa using hk
      cases ix.find? key <;> simp [hk, this]

end Index
end Oval
