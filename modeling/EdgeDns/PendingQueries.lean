import EdgeDns.Basic
import Mathlib.Algebra.Order.BigOperators.Group.List
import Mathlib.Algebra.Order.Ring.Nat

/-!
# The pending table

`PendingQueries`: the map from fingerprint to pending entry behind `map_arc`. It is an
association list whose keys are distinct by construction
(`EdgeDns.PendingQueries.keys_nodup`) – the spec's "exactly one `PendingQuery` exists per
fingerprint" – and the four operations the handler performs on it are the `HashMap`'s:
`get`, `remove`, `insert` (which replaces) and an in-place update through `get_mut`.

Everything the invariants later need of the table is one fact per operation, in one
shape: the entries are, up to order, the entry at a key followed by the table with that
key removed (`EdgeDns.PendingQueries.perm_remove`, `EdgeDns.PendingQueries.perm_insert`,
`EdgeDns.PendingQueries.perm_modify`). Sums and lists read off the entries – the count
of waiting clients, the list of attached clients – are then moved across an operation
by permutation alone.

`map.keys().next()` is whatever key the hasher's iteration order meets first. The model
does not fix that order: `EdgeDns.PendingQueries.nthKey` takes the position as an
argument, so every entry can be the one evicted.
-/

namespace EdgeDns

/-- The pending table. -/
structure PendingQueries where
  /-- The entries, in the table's iteration order. -/
  entries : List (PendingQueryKey × PendingQuery)
  /-- One entry per key. -/
  keys_nodup : (entries.map Prod.fst).Nodup

namespace PendingQueries

/-- `PendingQueries::new`. -/
def empty : PendingQueries := ⟨[], List.nodup_nil⟩

/-- `map.get(&key)`. -/
def get (m : PendingQueries) (k : PendingQueryKey) : Option PendingQuery :=
  (m.entries.find? fun p => p.1 = k).map Prod.snd

/-- `map.remove(&key)`, for the map it leaves. -/
def remove (m : PendingQueries) (k : PendingQueryKey) : PendingQueries where
  entries := m.entries.filter fun p => p.1 ≠ k
  keys_nodup := ((List.filter_sublist _).map _).nodup m.keys_nodup

/-- `map.insert(key, value)`: any entry at the key is replaced. -/
def insert (m : PendingQueries) (k : PendingQueryKey) (v : PendingQuery) : PendingQueries where
  entries := (m.remove k).entries ++ [(k, v)]
  keys_nodup := by
    rw [List.map_append, List.nodup_append]
    refine ⟨(m.remove k).keys_nodup, List.nodup_singleton _, ?_⟩
    simp [remove, List.disjoint_singleton]

/-- An update in place through `map.get_mut(&key)`. -/
def modify (m : PendingQueries) (k : PendingQueryKey) (f : PendingQuery → PendingQuery) :
    PendingQueries where
  entries := m.entries.map fun p => if p.1 = k then (p.1, f p.2) else p
  keys_nodup := by
    rw [List.map_map]
    convert m.keys_nodup using 2
    funext p
    simp only [Function.comp_apply]
    split_ifs <;> rfl

/-- The key at a position of the iteration order, taken round the table: the model's
`map.keys().next()`. -/
def nthKey (m : PendingQueries) (n : Nat) : Option PendingQueryKey :=
  (m.entries.get? (n % m.entries.length)).map Prod.fst

/-! ### Reading the table -/

/-- The number of client queries attached to the entries. -/
def clientCount (m : PendingQueries) : Nat :=
  (m.entries.map fun p => p.2.clientQueries.length).sum

/-- The identities of the client queries attached to the entries, entry after entry. -/
def clientIds (m : PendingQueries) : List Nat :=
  m.entries.flatMap fun p => p.2.clientQueries.map (·.id)

/-! ### One permutation per operation -/

theorem perm_cons_filter {k : PendingQueryKey} {v : PendingQuery} :
    ∀ {l : List (PendingQueryKey × PendingQuery)}, (l.map Prod.fst).Nodup →
      ((l.find? fun p => p.1 = k).map Prod.snd = some v) →
      l.Perm ((k, v) :: l.filter fun p => p.1 ≠ k)
  | [], _, h => by simp at h
  | a :: l, hnd, h => by
    rw [List.map_cons, List.nodup_cons] at hnd
    by_cases ha : a.1 = k
    · obtain ⟨a1, a2⟩ := a
      simp only at ha
      subst ha
      simp only [List.find?_cons, decide_True, Option.map_some', Option.some.injEq] at h
      subst h
      have hl : (l.filter fun p => p.1 ≠ a1) = l :=
        List.filter_eq_self.mpr fun p hp => by
          have : p.1 ≠ a1 := fun he => hnd.1 (by simpa [he] using List.mem_map_of_mem Prod.fst hp)
          simpa using this
      rw [List.filter_cons_of_neg (by simp), hl]
    · simp only [List.find?_cons, ha, decide_False] at h
      have ih := perm_cons_filter hnd.2 h
      simpa [ha] using (ih.cons a).trans (List.Perm.swap _ _ _)

/-- **The entry at a key, and the rest**: the table is the entry followed by the table
without its key. -/
theorem perm_remove {m : PendingQueries} {k : PendingQueryKey} {v : PendingQuery}
    (h : m.get k = some v) : m.entries.Perm ((k, v) :: (m.remove k).entries) :=
  perm_cons_filter m.keys_nodup h

/-- Removing a key the table does not hold changes nothing. -/
theorem remove_of_get_eq_none {m : PendingQueries} {k : PendingQueryKey} (h : m.get k = none) :
    (m.remove k).entries = m.entries := by
  simp only [get, Option.map_eq_none', List.find?_eq_none, decide_eq_true_eq] at h
  exact List.filter_eq_self.mpr fun p hp => by simpa using h p hp

theorem perm_insert (m : PendingQueries) (k : PendingQueryKey) (v : PendingQuery) :
    (m.insert k v).entries.Perm ((k, v) :: (m.remove k).entries) :=
  List.perm_append_comm

theorem perm_insert_of_get_eq_none {m : PendingQueries} {k : PendingQueryKey} (v : PendingQuery)
    (h : m.get k = none) : (m.insert k v).entries.Perm ((k, v) :: m.entries) := by
  simpa [remove_of_get_eq_none h] using perm_insert m k v

theorem get_modify (m : PendingQueries) (k : PendingQueryKey) (f : PendingQuery → PendingQuery) :
    (m.modify k f).get k = (m.get k).map f := by
  simp only [get, modify]
  induction m.entries with
  | nil => rfl
  | cons a l ih =>
    by_cases ha : a.1 = k
    · simp [ha]
    · simpa [ha] using ih

@[simp] theorem remove_modify (m : PendingQueries) (k : PendingQueryKey)
    (f : PendingQuery → PendingQuery) : ((m.modify k f).remove k).entries = (m.remove k).entries := by
  simp only [remove, modify]
  induction m.entries with
  | nil => rfl
  | cons a l ih => by_cases ha : a.1 = k <;> simp_all

theorem perm_modify {m : PendingQueries} {k : PendingQueryKey} {v : PendingQuery}
    (f : PendingQuery → PendingQuery) (h : m.get k = some v) :
    (m.modify k f).entries.Perm ((k, f v) :: (m.remove k).entries) := by
  rw [← remove_modify m k f]
  exact perm_remove (by rw [get_modify, h]; rfl)

/-! ### The key eviction takes -/

/-- The key at a position is the key of an entry. -/
theorem get_of_nthKey {m : PendingQueries} {n : Nat} {k : PendingQueryKey}
    (h : m.nthKey n = some k) : ∃ v, m.get k = some v := by
  obtain ⟨p, hp, rfl⟩ := Option.map_eq_some'.mp h
  obtain ⟨q, hq⟩ := Option.isSome_iff_exists.mp
    (List.find?_isSome (p := fun x => decide (x.1 = p.1)) |>.mpr ⟨p, List.get?_mem hp, by simp⟩)
  exact ⟨q.2, by simp [get, hq]⟩

/-- Only the empty table has no key at a position. -/
theorem nthKey_eq_none {m : PendingQueries} {n : Nat} :
    m.nthKey n = none ↔ m.entries = [] := by
  simp only [nthKey, Option.map_eq_none', List.get?_eq_none]
  constructor
  · intro h
    by_contra hne
    have := Nat.mod_lt n (List.length_pos.mpr hne)
    omega
  · intro h
    simp [h]

/-! ### What the operations do to the readings -/

theorem mem_of_get {m : PendingQueries} {k : PendingQueryKey} {v : PendingQuery}
    (h : m.get k = some v) : (k, v) ∈ m.entries :=
  (perm_remove h).symm.subset (List.mem_cons_self _ _)

theorem le_clientCount_of_mem {m : PendingQueries} {p : PendingQueryKey × PendingQuery}
    (h : p ∈ m.entries) : p.2.clientQueries.length ≤ m.clientCount :=
  List.le_sum_of_mem (List.mem_map_of_mem _ h)

theorem length_le_clientCount {m : PendingQueries}
    (h : ∀ p ∈ m.entries, 0 < p.2.clientQueries.length) : m.entries.length ≤ m.clientCount := by
  rw [clientCount, ← List.length_map m.entries fun p => p.2.clientQueries.length]
  refine List.length_le_sum_of_one_le _ fun i hi => ?_
  obtain ⟨p, hp, rfl⟩ := List.mem_map.mp hi
  exact h p hp

/-- The clients of a table whose entries are, up to order, `a` and then `rest`. -/
theorem clientCount_of_perm {m : PendingQueries} {a rest : List (PendingQueryKey × PendingQuery)}
    (h : m.entries.Perm (a ++ rest)) :
    m.clientCount = (a.map fun p => p.2.clientQueries.length).sum +
      (rest.map fun p => p.2.clientQueries.length).sum := by
  rw [clientCount, (h.map _).sum_eq, List.map_append, List.sum_append]

theorem clientIds_of_perm {m m' : PendingQueries} {k : PendingQueryKey} {v : PendingQuery}
    (h : m.entries.Perm ((k, v) :: m'.entries)) :
    m.clientIds.Perm (v.clientQueries.map (·.id) ++ m'.clientIds) := by
  rw [clientIds, clientIds]
  exact (h.flatMap_right _).trans (by rw [List.flatMap_cons])

end PendingQueries

end EdgeDns
