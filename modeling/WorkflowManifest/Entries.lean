namespace WorkflowManifest

abbrev Entries (κ α : Type) := List (κ × α)

namespace Entries

variable {κ α : Type}

def keys (es : Entries κ α) : List κ := es.map (·.1)

@[simp] theorem keys_cons (k : κ) (v : α) (es : Entries κ α) :
    keys ((k, v) :: es) = k :: keys es := rfl

variable [DecidableEq κ]

def find? (key : κ) : Entries κ α → Option α
  | [] => none
  | (k, v) :: es => if k = key then some v else find? key es

/-- A key that is already there keeps its place and gets the new value. -/
def insert (key : κ) (value : α) : Entries κ α → Entries κ α
  | [] => [(key, value)]
  | (k, v) :: es => if k = key then (k, value) :: es else (k, v) :: insert key value es

def rotate (es : Entries κ α) : Entries κ α :=
  match es.getLast? with
  | none => []
  | some e => e :: es.dropLast

/-- The last entry moves into the place of the removed one. -/
def erase (key : κ) : Entries κ α → Entries κ α
  | [] => []
  | (k, v) :: es => if k = key then rotate es else (k, v) :: erase key es

@[simp] theorem find?_nil (key : κ) : find? key ([] : Entries κ α) = none := rfl

theorem find?_insert (key k : κ) (v : α) (es : Entries κ α) :
    find? key (insert k v es) = if key = k then some v else find? key es := by
  induction es with
  | nil => grind [insert, find?]
  | cons e es ih => grind [insert, find?]

theorem find?_eq_none_iff {key : κ} {es : Entries κ α} :
    find? key es = none ↔ key ∉ keys es := by
  induction es with
  | nil => simp [keys]
  | cons e es ih => grind [find?, keys]

theorem mem_keys_insert {key k : κ} {v : α} {es : Entries κ α} :
    key ∈ keys (insert k v es) ↔ key = k ∨ key ∈ keys es := by
  induction es with
  | nil => simp [insert, keys]
  | cons e es ih => grind [insert, keys]

theorem nodup_keys_insert {k : κ} {v : α} {es : Entries κ α} (h : (keys es).Nodup) :
    (keys (insert k v es)).Nodup := by
  induction es with
  | nil => simp [insert, keys]
  | cons e es ih => grind [insert, keys, mem_keys_insert]

end Entries

end WorkflowManifest
