import EdgeDns.Counters

/-!
# Coalescing

`fut_process_client_query` looks for an entry under the client query's fingerprint first
(`maybe_add_to_existing_pending_query`) and pushes the query onto its clients; only on a
miss does it create an entry, with the query as its one client. No other step adds a
client: the retry updates its entry in place and leaves the clients alone, and eviction and
the retry closure remove whole entries.

So the clients of an entry are client queries received under its key, in the order they
were received. `EdgeDns.Coalesced` says it of a table over a record of arrivals: each
entry's clients are a sublist of the arrivals with the entry's fingerprint. One step needs
care, attachment: the client query is already on record when it is pushed, so the clients
it joins must be a sublist of the arrivals *before* it, which is what the invariant of
the state before the arrival gives, and not what that of the state after would.

The record numbers each client query by its position (`EdgeDns.Reachable.arrived_ids`),
so an entry's clients come in increasing order of arrival and none of them twice
(`EdgeDns.coalesced_in_arrival_order`).
-/

namespace EdgeDns

/-- The client queries of the record `A` with fingerprint `k`, in the record's order. -/
def arrivalsWith (A : List ClientQuery) (k : PendingQueryKey) : List ClientQuery :=
  A.filter fun cq => cq.normalizedQuestion.pendingQueryKey = k

theorem arrivalsWith_concat (A : List ClientQuery) (cq : ClientQuery) :
    arrivalsWith (A ++ [cq]) cq.normalizedQuestion.pendingQueryKey =
      arrivalsWith A cq.normalizedQuestion.pendingQueryKey ++ [cq] := by
  simp [arrivalsWith, List.filter_append]

/-- **The coalescing invariant** of a table over a record of arrivals: every entry's clients
are arrivals with the entry's fingerprint, in the order of the record. -/
def Coalesced (A : List ClientQuery) (m : PendingQueries) : Prop :=
  ∀ p ∈ m.entries, p.2.clientQueries.Sublist (arrivalsWith A p.1)

namespace Coalesced

variable {A A' : List ClientQuery} {m m' : PendingQueries}

/-- More arrivals on record keep the invariant. -/
theorem mono (h : Coalesced A m) (hA : A.Sublist A') : Coalesced A' m :=
  fun p hp => (h p hp).trans (hA.filter _)

/-- Dropping entries keeps the invariant. -/
theorem of_subset (h : Coalesced A m) (hm : m'.entries ⊆ m.entries) : Coalesced A m' :=
  fun p hp => h p (hm hp)

theorem remove (h : Coalesced A m) (k : PendingQueryKey) : Coalesced A (m.remove k) :=
  h.of_subset (List.filter_sublist _).subset

/-- Updating the entry at a key keeps the invariant when the clients it is left with are
arrivals with that key. -/
theorem modify (h : Coalesced A m) {k : PendingQueryKey} {v : PendingQuery}
    (hget : m.get k = some v) {f : PendingQuery → PendingQuery}
    (hv : (f v).clientQueries.Sublist (arrivalsWith A k)) : Coalesced A (m.modify k f) := by
  intro p hp
  rcases List.mem_cons.mp ((PendingQueries.perm_modify f hget).subset hp) with rfl | hp
  · exact hv
  · exact h.remove k p hp

/-- Inserting at a free key keeps the invariant when the new entry's clients are arrivals
with that key. -/
theorem insert (h : Coalesced A m) {k : PendingQueryKey} (hget : m.get k = none)
    {v : PendingQuery} (hv : v.clientQueries.Sublist (arrivalsWith A k)) :
    Coalesced A (m.insert k v) := by
  intro p hp
  rcases List.mem_cons.mp ((PendingQueries.perm_insert_of_get_eq_none v hget).subset hp) with
    rfl | hp
  · exact hv
  · exact h p hp

end Coalesced

/-- The coalescing invariant of a state: its table over its record of arrivals. -/
def CoalesceInv (s : State) : Prop := Coalesced s.arrived s.pendingQueries

/-! ### Every step -/

/-- Eviction only drops entries. -/
theorem capPendingQueries_entries_subset {env : Env} {s s₁ : State} {first : Nat} {b : Bool}
    (h : capPendingQueries env s first = some (b, s₁)) :
    s₁.pendingQueries.entries ⊆ s.pendingQueries.entries := by
  rcases capPendingQueries_cases h with ⟨rfl, -⟩ | ⟨_, _, -, -, -, rfl⟩
  · exact List.Subset.refl _
  · exact (List.filter_sublist _).subset

namespace CoalesceInv

variable {env : Env} {s s' : State}

/-- An arrival keeps the invariant: the client query it attaches, or creates an entry
with, is the last arrival, and has the entry's key. -/
theorem arrive (hi : CoalesceInv s) {nq : NormalizedQuestion} {ups : List UpstreamServerForQuery}
    {first pick : Nat} (h : futProcessClientQuery env s nq ups first pick = some s') :
    CoalesceInv s' := by
  have hmono : s.arrived.Sublist (s.arrived ++ [⟨s.arrived.length, nq, ups⟩]) :=
    List.sublist_append_left _ _
  unfold CoalesceInv
  rw [futProcessClientQuery_arrived h]
  cases futProcessClientQuery_cases h with
  | allDown _ => exact hi.mono hmono
  | attached _ hcap hget =>
    have h₁ := hi.of_subset (capPendingQueries_entries_subset hcap :)
    refine (h₁.mono hmono).modify hget ?_
    rw [arrivalsWith_concat]
    exact (h₁ _ (PendingQueries.mem_of_get hget)).append (List.Sublist.refl _)
  | notConfigured _ hcap => exact (hi.of_subset (capPendingQueries_entries_subset hcap :)).mono hmono
  | created _ hcap hget =>
    refine ((hi.of_subset (capPendingQueries_entries_subset hcap :)).mono hmono).insert hget ?_
    rw [arrivalsWith_concat]
    exact List.singleton_sublist.mpr (List.mem_append_right _ (List.mem_singleton_self _))

/-- A wake-up keeps the invariant: the retry leaves the clients alone, and the retry
closure removes its entry. -/
theorem wake (hi : CoalesceInv s) {t : Task} (h : wakeTask env s t = some s') : CoalesceInv s' := by
  unfold CoalesceInv
  rw [wakeTask_arrived h]
  cases wakeTask_cases h with
  | failed => exact hi
  | retried _ hget => exact hi.modify hget (hi _ (PendingQueries.mem_of_get hget))
  | settled =>
    rw [settlePendingQuery_eq]
    exact hi.remove _

theorem step (hi : CoalesceInv s) (h : Step env s s') : CoalesceInv s' := by
  cases h with
  | arrive _ _ _ _ h => exact hi.arrive h
  | wake _ _ h => exact hi.wake h
  | recordSuccess => exact hi
  | tick => exact hi

end CoalesceInv

theorem Reachable.coalesceInv {env : Env} {s : State} (h : Reachable env s) : CoalesceInv s := by
  induction h with
  | init r => exact fun _ hp => nomatch hp
  | step _ hs ih => exact ih.step hs

/-- The record numbers each client query by its position. -/
theorem Reachable.arrived_ids {env : Env} {s : State} (h : Reachable env s) :
    s.arrived.map ClientQuery.id = List.range s.arrived.length := by
  induction h with
  | init r => rfl
  | step _ hs ih =>
    cases hs with
    | arrive _ _ _ _ h => simp [futProcessClientQuery_arrived h, List.range_succ, ih]
    | wake _ _ h => rw [wakeTask_arrived h]; exact ih
    | recordSuccess => exact ih
    | tick => exact ih

/-- **Coalescing groups client queries by fingerprint, in arrival order.** In every
reachable state every entry has a client; its clients are client queries received whose
fingerprint is the entry's key, listed in the order they were received; and their
identities are strictly increasing, so no client is attached to it twice. -/
theorem coalesced_in_arrival_order {env : Env} {s : State} (h : Reachable env s) :
    ∀ p ∈ s.pendingQueries.entries, 0 < p.2.clientQueries.length ∧
      p.2.clientQueries.Sublist (arrivalsWith s.arrived p.1) ∧
      (p.2.clientQueries.map ClientQuery.id).Sorted (· < ·) := fun p hp => by
  have hsub := h.coalesceInv p hp
  have hids : (p.2.clientQueries.map ClientQuery.id).Sublist (List.range s.arrived.length) :=
    h.arrived_ids ▸ (hsub.trans (List.filter_sublist _)).map _
  exact ⟨h.countersInv.clients_pos p hp, hsub, (List.pairwise_lt_range _).sublist hids⟩

/-- Two client queries with one fingerprint and different transaction ids reach the small
resolver: they share one entry, the first client first. -/
theorem coalesced_in_arrival_order_same_key :
    ∃ s, Reachable (smallEnv .fallback 10 1 (by decide)) s ∧
      s.pendingQueries.entries.map (fun p => p.2.clientQueries.map ClientQuery.id) = [[0, 1]] ∧
      ∀ p ∈ s.pendingQueries.entries, 0 < p.2.clientQueries.length ∧
        p.2.clientQueries.Sublist (arrivalsWith s.arrived p.1) ∧
        (p.2.clientQueries.map ClientQuery.id).Sorted (· < ·) := by
  have hr := (Reachable.init .single : Reachable (smallEnv .fallback 10 1 (by decide)) _).run
    [.arrive ⟨0, 0, 0⟩ [⟨1⟩] 0 0, .arrive ⟨0, 0, 1⟩ [⟨1⟩] 0 0] rfl
  exact ⟨_, hr, rfl, coalesced_in_arrival_order hr⟩

end EdgeDns
