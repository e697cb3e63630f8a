import EdgeDns.Steps

/-!
# Every client query is accounted for once

A client query handed to `fut_process_client_query` can end up in three places: attached
to a pending entry, answered by the core (the all-down shortcut, or the degradation of
its entry by the retry closure), or abandoned (its entry evicted, or its backend not
configured). The *ledger* (`EdgeDns.ledger`) lists the identities found in the three
places, in that order, and the invariant `EdgeDns.LedgerInv` says it is a permutation of
the identities on record: each client query is in exactly one place, exactly once.

Each step moves identities between the places without copying or losing any:

* an arrival adds its own identity, in one of the places (`EdgeDns.ledger_arrive`);
* eviction moves an entry's clients from the table to the abandoned ones, the retry
  closure moves them to the answered ones, and everything else leaves the ledger as it
  is (`EdgeDns.ledger_capPendingQueries`, `EdgeDns.ledger_wake`).

The conclusion, `EdgeDns.clientQuery_accounted_once`, is the per-client reading: for
every client query on record, exactly one of the three counts is `1` and the other two
are `0`. In particular no client is answered twice, attached twice, or both answered and
attached.
-/

namespace EdgeDns

/-- The identities of the client queries attached to an entry, answered, and abandoned. -/
def ledger (s : State) : List Nat :=
  s.pendingQueries.clientIds ++ s.responses.map Prod.fst ++ s.abandoned.map Prod.fst

/-- **The ledger invariant**: the ledger is the list of the identities on record. -/
def LedgerInv (s : State) : Prop :=
  (ledger s).Perm (List.range s.arrived.length)

/-! ### What each step does to the ledger -/

/-- Eviction moves the evicted entry's clients to the abandoned ones. -/
theorem ledger_capPendingQueries {env : Env} {s s₁ : State} {first : Nat} {b : Bool}
    (h : capPendingQueries env s first = some (b, s₁)) : (ledger s₁).Perm (ledger s) := by
  rcases capPendingQueries_cases h with ⟨rfl, -⟩ | ⟨key, pq, -, hget, -, rfl⟩
  · exact List.Perm.refl _
  · rw [List.perm_iff_count]
    intro i
    have hT := (PendingQueries.clientIds_of_perm (PendingQueries.perm_remove hget)).count_eq i
    simp only [ledger, List.count_append, List.map_append, List.map_map, Function.comp_def] at hT ⊢
    omega

/-- **An arrival adds its own identity to the ledger**, and moves no other. -/
theorem ledger_arrive {env : Env} {s s' : State} {nq : NormalizedQuestion}
    {ups : List UpstreamServerForQuery} {first pick : Nat}
    (h : futProcessClientQuery env s nq ups first pick = some s') :
    (ledger s').Perm (ledger s ++ [s.arrived.length]) := by
  rw [List.perm_iff_count]
  intro i
  cases futProcessClientQuery_cases h with
  | allDown _ =>
    simp only [ledger, maybeRespondWithStaleEntry, List.count_append, List.map_append,
      List.map_cons, List.map_nil]
    omega
  | @attached b s₁ pq _ hcap hget =>
    have h₁ := (ledger_capPendingQueries hcap).count_eq i
    have hT := (PendingQueries.clientIds_of_perm (PendingQueries.perm_remove hget)).count_eq i
    have hT' := (PendingQueries.clientIds_of_perm
      (PendingQueries.perm_modify (PendingQuery.addClientQuery ⟨s.arrived.length, nq, ups⟩)
        hget)).count_eq i
    simp only [ledger, List.count_append, PendingQuery.addClientQuery, List.map_append,
      List.map_cons, List.map_nil] at h₁ hT hT' ⊢
    omega
  | notConfigured _ hcap =>
    have h₁ := (ledger_capPendingQueries hcap).count_eq i
    simp only [ledger, List.count_append, List.map_append, List.map_cons, List.map_nil] at h₁ ⊢
    omega
  | created _ hcap hget =>
    have h₁ := (ledger_capPendingQueries hcap).count_eq i
    simp only [ledger, createPendingQuery, List.count_append] at h₁ ⊢
    rw [(PendingQueries.clientIds_of_perm
      (PendingQueries.perm_insert_of_get_eq_none _ hget)).count_eq, List.count_append]
    simp only [List.map_cons, List.map_nil]
    omega

/-- **A wake-up moves identities only from the table to the answered ones.** -/
theorem ledger_wake {env : Env} {s s' : State} {t : Task} (h : wakeTask env s t = some s') :
    (ledger s').Perm (ledger s) := by
  rw [List.perm_iff_count]
  intro i
  have hT {key : PendingQueryKey} {pq : PendingQuery} (hget : s.pendingQueries.get key = some pq) :=
    (PendingQueries.clientIds_of_perm (PendingQueries.perm_remove hget)).count_eq i
  cases wakeTask_cases h with
  | failed => rfl
  | @retried _ _ pq idx _ _ _ _ hget =>
    have hT' := (PendingQueries.clientIds_of_perm (PendingQueries.perm_modify
      (fun pq => { pq with upstreamServerIdx := idx, doneTx := s.fresh }) hget)).count_eq i
    have := hT hget
    simp only [ledger, retryPendingQuery, List.count_append] at this hT' ⊢
    omega
  | settled _ _ hget =>
    have := hT hget
    simp only [ledger, settlePendingQuery_eq, List.count_append, List.map_append, List.map_map,
      Function.comp_def] at this ⊢
    omega

/-! ### Every run -/

/-- Every step keeps the ledger invariant. -/
theorem LedgerInv.step {env : Env} {s s' : State} (hi : LedgerInv s) (h : Step env s s') :
    LedgerInv s' := by
  cases h with
  | arrive _ _ _ _ h =>
    rw [LedgerInv, futProcessClientQuery_arrived h, List.length_append, List.length_singleton,
      List.range_succ]
    exact (ledger_arrive h).trans (hi.append_right _)
  | wake _ _ h =>
    rw [LedgerInv, wakeTask_arrived h]
    exact (ledger_wake h).trans hi
  | recordSuccess => exact hi
  | tick => exact hi

theorem Reachable.ledgerInv {env : Env} {s : State} (h : Reachable env s) : LedgerInv s := by
  induction h with
  | init r => exact List.Perm.refl []
  | step _ hs ih => exact ih.step hs

/-- **Every client query is accounted for once.** In every reachable state, each client
query received so far is in exactly one of three situations: attached once to exactly
one entry; answered exactly once by the core; or abandoned exactly once, because its
entry was evicted or its backend is not configured (the two reasons `EdgeDns.Abandon`
has). -/
theorem clientQuery_accounted_once {env : Env} {s : State} (h : Reachable env s) {i : Nat}
    (hi : i < s.arrived.length) :
    (s.pendingQueries.clientIds.count i = 1 ∧ (s.responses.map Prod.fst).count i = 0 ∧
        (s.abandoned.map Prod.fst).count i = 0) ∨
      (s.pendingQueries.clientIds.count i = 0 ∧ (s.responses.map Prod.fst).count i = 1 ∧
        (s.abandoned.map Prod.fst).count i = 0) ∨
      (s.pendingQueries.clientIds.count i = 0 ∧ (s.responses.map Prod.fst).count i = 0 ∧
        (s.abandoned.map Prod.fst).count i = 1) := by
  have hc := h.ledgerInv.count_eq i
  rw [List.count_eq_one_of_mem (List.nodup_range _) (List.mem_range.mpr hi)] at hc
  simp only [ledger, List.count_append] at hc
  omega

/-- The first client query to reach the small resolver is attached to its entry. -/
theorem clientQuery_accounted_once_one_arrival :
    ∃ s, Reachable (smallEnv .fallback 1 1 (by decide)) s ∧ 0 < s.arrived.length ∧
      s.pendingQueries.clientIds.count 0 = 1 ∧
      ((s.pendingQueries.clientIds.count 0 = 1 ∧ (s.responses.map Prod.fst).count 0 = 0 ∧
          (s.abandoned.map Prod.fst).count 0 = 0) ∨
        (s.pendingQueries.clientIds.count 0 = 0 ∧ (s.responses.map Prod.fst).count 0 = 1 ∧
          (s.abandoned.map Prod.fst).count 0 = 0) ∨
        (s.pendingQueries.clientIds.count 0 = 0 ∧ (s.responses.map Prod.fst).count 0 = 0 ∧
          (s.abandoned.map Prod.fst).count 0 = 1)) := by
  have hr := (Reachable.init .single : Reachable (smallEnv .fallback 1 1 (by decide)) _).run
    [.arrive ⟨0, 0, 0⟩ [⟨1⟩] 0 0] rfl
  exact ⟨_, hr, by decide, by decide, clientQuery_accounted_once hr (by decide)⟩

end EdgeDns
