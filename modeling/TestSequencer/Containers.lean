import Mathlib.Data.String.Basic
import Mathlib.Data.List.Sort

/-!
# Ordered containers: `std::set<std::string>` and `std::map<std::string, V>`

The sequencer keeps `idle_nodes` and `unplaced_services` in `std::set<std::string>`, and
`node_map_` and `node_service_map` in `std::map<std::string, V>`. The placement of
`DoRunTest` depends on their iteration order, so each container is modelled by its in-order
sequence: a list strictly increasing in the key. `std::string` compares byte-wise, which on
valid UTF-8 is the code-point order of Lean's `String`. The order is a field, so an unsorted
container cannot be built.

* `StdSet.insert`, `StdSet.erase` — `insert(x)` and `erase(find(x))`.
* `StdMap.upsert k f` — `m[k]` (default-constructing a missing value) followed by an update
  `f` of the referenced value; `StdMap.adjust k f` — an update through an iterator or a
  pointer to an existing entry.

Every later proof uses these operations only through `mem_insert`, `mem_erase`,
`find?_upsert`, `mem_keys_upsert`, `find?_adjust` and `keys_adjust`.
-/

set_option autoImplicit false

namespace Distbench

/-- `std::string`'s `operator<`: lexicographic on the characters. Decided on the character
lists, so that containers built from literals evaluate by `decide`. -/
instance (priority := 2000) decidableStringLt : DecidableRel (α := String) (· < ·) :=
  fun a b => decidable_of_iff (a.data < b.data) String.lt_iff_toList_lt.symm

/-! ## Ordered insertion -/

/-- Insertion into a strictly increasing list, dropping a duplicate. -/
def insertSorted (x : String) : List String → List String
  | [] => [x]
  | y :: ys => if x < y then x :: y :: ys else if x = y then y :: ys else y :: insertSorted x ys

theorem mem_insertSorted {x z : String} :
    ∀ {l : List String}, z ∈ insertSorted x l ↔ z = x ∨ z ∈ l
  | [] => by simp [insertSorted]
  | y :: ys => by
    unfold insertSorted
    split_ifs with h1 h2
    · simp
    · subst h2; simp
    · simp only [List.mem_cons, mem_insertSorted]; exact or_left_comm

theorem sorted_insertSorted (x : String) :
    ∀ {l : List String}, l.Sorted (· < ·) → (insertSorted x l).Sorted (· < ·)
  | [] => fun _ => List.sorted_singleton x
  | y :: ys => fun h => by
    obtain ⟨hy, hys⟩ := List.sorted_cons.mp h
    unfold insertSorted
    split_ifs with h1 h2
    · refine List.sorted_cons.mpr ⟨fun b hb => ?_, h⟩
      rcases List.mem_cons.mp hb with rfl | hb
      exacts [h1, lt_trans h1 (hy b hb)]
    · exact h
    · have hyx : y < x := lt_of_le_of_ne (not_lt.mp h1) (Ne.symm h2)
      refine List.sorted_cons.mpr ⟨fun b hb => ?_, sorted_insertSorted x hys⟩
      rcases mem_insertSorted.mp hb with rfl | hb
      exacts [hyx, hy b hb]

/-! ## `std::set<std::string>` -/

/-- `std::set<std::string>`: its elements in iteration order. -/
structure StdSet where
  toList : List String
  sorted : toList.Sorted (· < ·)

namespace StdSet

def empty : StdSet := ⟨[], List.sorted_nil⟩

instance : Inhabited StdSet := ⟨empty⟩

/-- `s.insert(x)`. -/
def insert (x : String) (s : StdSet) : StdSet :=
  ⟨insertSorted x s.toList, sorted_insertSorted x s.sorted⟩

/-- `s.erase(s.find(x))`, for an `x` that is present. -/
def erase (x : String) (s : StdSet) : StdSet :=
  ⟨s.toList.erase x, List.Pairwise.sublist (List.erase_sublist _ _) s.sorted⟩

theorem nodup (s : StdSet) : s.toList.Nodup := s.sorted.nodup

@[simp] theorem toList_empty : empty.toList = [] := rfl

@[simp] theorem toList_default : (default : StdSet).toList = [] := rfl

@[simp] theorem mem_insert {s : StdSet} {x z : String} :
    z ∈ (s.insert x).toList ↔ z = x ∨ z ∈ s.toList := mem_insertSorted

@[simp] theorem mem_erase {s : StdSet} {x z : String} :
    z ∈ (s.erase x).toList ↔ z ≠ x ∧ z ∈ s.toList := s.nodup.mem_erase_iff

/-- Insert every element of a list, in order. -/
def insertAll (s : StdSet) (l : List String) : StdSet := l.foldl (fun s x => s.insert x) s

@[simp] theorem mem_insertAll {z : String} :
    ∀ {l : List String} {s : StdSet}, z ∈ (s.insertAll l).toList ↔ z ∈ s.toList ∨ z ∈ l
  | [], _ => by simp [insertAll]
  | x :: l, s => by
    have ih := mem_insertAll (z := z) (l := l) (s := s.insert x)
    simp only [insertAll, List.foldl_cons] at ih ⊢
    rw [ih, mem_insert, List.mem_cons]; simp only [or_comm, or_left_comm, or_assoc]

end StdSet

/-! ## `std::map<std::string, V>` -/

variable {V : Type}

/-- Lookup in an association list (the first entry with the key). -/
def findEntry (k : String) : List (String × V) → Option V
  | [] => none
  | (k', v) :: t => if k = k' then some v else findEntry k t

/-- `m[k]` followed by the update `f` of the referenced value, on the in-order entries. -/
def upsertEntries (k : String) (d : V) (f : V → V) : List (String × V) → List (String × V)
  | [] => [(k, f d)]
  | (k', v) :: t =>
    if k < k' then (k, f d) :: (k', v) :: t
    else if k = k' then (k', f v) :: t
    else (k', v) :: upsertEntries k d f t

theorem upsertEntries_keys (k : String) (d : V) (f : V → V) :
    ∀ l : List (String × V), (upsertEntries k d f l).map Prod.fst = insertSorted k (l.map Prod.fst)
  | [] => rfl
  | (k', v) :: t => by
    simp only [upsertEntries, List.map_cons, insertSorted]
    split_ifs with h1 h2
    · rfl
    · subst h2; rfl
    · simp [upsertEntries_keys k d f t]

theorem findEntry_eq_none {k : String} :
    ∀ {l : List (String × V)}, k ∉ l.map Prod.fst → findEntry k l = none
  | [] => fun _ => rfl
  | (k', v) :: t => fun h => by
    simp only [List.map_cons, List.mem_cons, not_or] at h
    simp [findEntry, h.1, findEntry_eq_none h.2]

theorem findEntry_upsertEntries (k k' : String) (d : V) (f : V → V) :
    ∀ {l : List (String × V)}, (l.map Prod.fst).Sorted (· < ·) →
      findEntry k' (upsertEntries k d f l) =
        if k' = k then some (f ((findEntry k l).getD d)) else findEntry k' l
  | [] => fun _ => by by_cases h : k' = k <;> simp [upsertEntries, findEntry, h]
  | (k0, v) :: t => fun hs => by
    obtain ⟨hlt, ht⟩ := List.sorted_cons.mp hs
    have ih := findEntry_upsertEntries k k' d f ht
    by_cases h1 : k < k0
    · have hkt : findEntry k t = none := findEntry_eq_none fun hm => lt_asymm h1 (hlt k hm)
      by_cases hk : k' = k
      · subst hk; simp [upsertEntries, findEntry, h1, h1.ne, hkt]
      · simp [upsertEntries, findEntry, h1, hk]
    · by_cases h2 : k = k0
      · subst h2; by_cases hk : k' = k <;> simp [upsertEntries, findEntry, hk]
      · by_cases hk : k' = k
        · subst hk; simp [upsertEntries, findEntry, h1, h2, ih]
        · by_cases h4 : k' = k0 <;> simp [upsertEntries, findEntry, h1, h2, Ne.symm h2, hk, h4, ih]

/-- An in-place update of the entry of `k`. -/
def adjustEntries (k : String) (f : V → V) : List (String × V) → List (String × V)
  | [] => []
  | (k', v) :: t => (k', if k = k' then f v else v) :: adjustEntries k f t

theorem adjustEntries_keys (k : String) (f : V → V) :
    ∀ l : List (String × V), (adjustEntries k f l).map Prod.fst = l.map Prod.fst
  | [] => rfl
  | (k', v) :: t => by simp [adjustEntries, adjustEntries_keys k f t]

theorem findEntry_adjustEntries (k k' : String) (f : V → V) :
    ∀ l : List (String × V),
      findEntry k' (adjustEntries k f l) = if k' = k then (findEntry k l).map f else findEntry k' l
  | [] => by simp [adjustEntries, findEntry]
  | (a, v) :: t => by
    have ih := findEntry_adjustEntries k k' f t
    by_cases hk : k' = k
    · subst hk; by_cases ha : k' = a <;> simp [adjustEntries, findEntry, ha, ih]
    · by_cases ha : k' = a
      · subst ha; simp [adjustEntries, findEntry, hk, Ne.symm hk]
      · simp [adjustEntries, findEntry, ha, hk, ih]

theorem findEntry_mem {k : String} {v : V} :
    ∀ {l : List (String × V)}, findEntry k l = some v → (k, v) ∈ l
  | [] => by simp [findEntry]
  | (k', w) :: t => by
    unfold findEntry
    split_ifs with h
    · rintro ⟨⟩; subst h; simp
    · exact fun h' => List.mem_cons_of_mem _ (findEntry_mem h')

theorem findEntry_of_mem {e : String × V} :
    ∀ {l : List (String × V)}, (l.map Prod.fst).Nodup → e ∈ l → findEntry e.1 l = some e.2
  | [], _, h => by simp at h
  | (k', w) :: t, hn, h => by
    obtain ⟨he', ht⟩ := List.nodup_cons.mp hn
    rcases List.mem_cons.mp h with rfl | het
    · simp [findEntry]
    · have h1 : e.1 ∈ t.map Prod.fst := List.mem_map_of_mem Prod.fst het
      have : e.1 ≠ k' := fun heq => he' (heq ▸ h1)
      simp [findEntry, this, findEntry_of_mem ht het]

/-- `std::map<std::string, V>`: its entries in iteration order. -/
structure StdMap (V : Type) where
  entries : List (String × V)
  sorted : (entries.map Prod.fst).Sorted (· < ·)

namespace StdMap

def empty : StdMap V := ⟨[], List.sorted_nil⟩

/-- The keys, in iteration order. -/
def keys (m : StdMap V) : List String := m.entries.map Prod.fst

/-- `m.size()`. -/
def size (m : StdMap V) : Nat := m.entries.length

/-- `m.find(k)`, as the value found. -/
def find? (m : StdMap V) (k : String) : Option V := findEntry k m.entries

/-- `m[k]` followed by the update `f` of the referenced value. -/
def upsert [Inhabited V] (k : String) (f : V → V) (m : StdMap V) : StdMap V :=
  ⟨upsertEntries k default f m.entries, by
    rw [upsertEntries_keys]; exact sorted_insertSorted k m.sorted⟩

/-- An update through an iterator or a pointer to the entry of `k`. -/
def adjust (k : String) (f : V → V) (m : StdMap V) : StdMap V :=
  ⟨adjustEntries k f m.entries, by rw [adjustEntries_keys]; exact m.sorted⟩

theorem keys_nodup (m : StdMap V) : m.keys.Nodup := m.sorted.nodup

@[simp] theorem keys_empty : (empty : StdMap V).keys = [] := rfl

@[simp] theorem find?_empty (k : String) : (empty : StdMap V).find? k = none := rfl

theorem find?_upsert [Inhabited V] (m : StdMap V) (k k' : String) (f : V → V) :
    (m.upsert k f).find? k' = if k' = k then some (f ((m.find? k).getD default)) else m.find? k' :=
  findEntry_upsertEntries k k' default f m.sorted

@[simp] theorem mem_keys_upsert [Inhabited V] {m : StdMap V} {k k' : String} {f : V → V} :
    k' ∈ (m.upsert k f).keys ↔ k' = k ∨ k' ∈ m.keys := by
  simp only [keys, upsert, upsertEntries_keys, mem_insertSorted]

theorem find?_adjust (m : StdMap V) (k k' : String) (f : V → V) :
    (m.adjust k f).find? k' = if k' = k then (m.find? k).map f else m.find? k' :=
  findEntry_adjustEntries k k' f m.entries

@[simp] theorem keys_adjust (m : StdMap V) (k : String) (f : V → V) :
    (m.adjust k f).keys = m.keys :=
  adjustEntries_keys k f m.entries

theorem find?_isSome {m : StdMap V} {k : String} : (m.find? k).isSome ↔ k ∈ m.keys := by
  simp only [find?, keys]
  induction m.entries with
  | nil => simp [findEntry]
  | cons e t ih => by_cases h : k = e.1 <;> simp_all [findEntry]

theorem find?_mem {m : StdMap V} {k : String} {v : V} (h : m.find? k = some v) :
    (k, v) ∈ m.entries :=
  findEntry_mem h

theorem find?_of_mem {m : StdMap V} {e : String × V} (h : e ∈ m.entries) :
    m.find? e.1 = some e.2 :=
  findEntry_of_mem m.keys_nodup h

end StdMap

end Distbench
