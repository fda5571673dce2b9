import HeapScope.Identifier

namespace HeapScope

class Ranked (κ : Type) where
  rank : κ → Nat
  rank_injective : ∀ a b, rank a = rank b → a = b

instance : Ranked SpaceId where
  rank space := space.number.toNat
  rank_injective a b same := by
    cases a
    cases b
    exact congrArg SpaceId.mk (UInt8.toNat_inj.mp same)

instance : Ranked StreamId where
  rank stream := stream.number.toNat
  rank_injective a b same := by
    cases a
    cases b
    exact congrArg StreamId.mk (UInt8.toNat_inj.mp same)

instance : Ranked EventId where
  rank event := event.number.toNat
  rank_injective a b same := by
    cases a
    cases b
    exact congrArg EventId.mk (UInt16.toNat_inj.mp same)

structure Table (κ ν : Type) where
  entries : List (κ × ν)
deriving DecidableEq, Repr

namespace Table

variable {κ ν : Type} [Ranked κ]

open Ranked

def empty : Table κ ν := ⟨[]⟩

def lookup (key : κ) : List (κ × ν) → Option ν
  | [] => none
  | (k, v) :: rest => if rank key = rank k then some v else lookup key rest

def insertInto (key : κ) (value : ν) : List (κ × ν) → List (κ × ν)
  | [] => [(key, value)]
  | (k, v) :: rest =>
    if rank key < rank k then (key, value) :: (k, v) :: rest
    else if rank key = rank k then (key, value) :: rest
    else (k, v) :: insertInto key value rest

def get? (table : Table κ ν) (key : κ) : Option ν := lookup key table.entries

def insert (table : Table κ ν) (key : κ) (value : ν) : Table κ ν :=
  ⟨insertInto key value table.entries⟩

theorem lookup_insert_into (key : κ) (value : ν) (other : κ) (entries : List (κ × ν)) :
    lookup other (insertInto key value entries) =
      if rank other = rank key then some value else lookup other entries := by
  induction entries with
  | nil => rfl
  | cons entry rest ih =>
    obtain ⟨k, v⟩ := entry
    unfold insertInto
    split
    · rfl
    · split
      · rename_i same
        by_cases hit : rank other = rank key <;> simp [lookup, hit, ← same]
      · rename_i different
        simp only [lookup, ih]
        by_cases hit : rank other = rank key
        · simp [hit, different]
        · simp [hit]

theorem get_insert (table : Table κ ν) (key other : κ) (value : ν) :
    (table.insert key value).get? other =
      if rank other = rank key then some value else table.get? other :=
  lookup_insert_into key value other table.entries

theorem mem_insert_into {key : κ} {value : ν} {entries : List (κ × ν)} {entry : κ × ν}
    (member : entry ∈ insertInto key value entries) : entry = (key, value) ∨ entry ∈ entries := by
  induction entries with
  | nil => exact .inl (List.mem_singleton.mp member)
  | cons first rest ih =>
    obtain ⟨k, v⟩ := first
    unfold insertInto at member
    split at member
    · exact List.mem_cons.mp member
    · split at member
      · exact (List.mem_cons.mp member).imp_right (List.mem_cons_of_mem _)
      · cases List.mem_cons.mp member with
        | inl same => exact .inr (same ▸ List.mem_cons_self)
        | inr behind => exact (ih behind).imp_right (List.mem_cons_of_mem _)

theorem get_insert_self (table : Table κ ν) (key : κ) (value : ν) :
    (table.insert key value).get? key = some value := by
  simp [get_insert]

theorem get_insert_of_ne (table : Table κ ν) (key other : κ) (value : ν) (different : other ≠ key) :
    (table.insert key value).get? other = table.get? other := by
  have ranks : rank other ≠ rank key := fun same => different (rank_injective other key same)
  simp [get_insert, ranks]

end Table

end HeapScope
