import EdgeDns.Steps

/-!
# The waiting-clients counter and the in-flight gauge

`waiting_clients_count` and `inflight_queries` are updated in five places: eviction,
attachment, creation, and the retry closure's removal, with the retry's in-place update
touching neither. The counter invariant `EdgeDns.CountersInv` says what they are: the
number of attached clients and the number of entries. Together with them it carries
two facts the updates need: every entry has a client, and admission keeps the count at
most `max max_waiting_clients 1` – which is also what keeps every `fetch_add` below
`usize::MAX`.

Every step keeps the invariant (`EdgeDns.CountersInv.step`), so every reachable state
has it (`EdgeDns.Reachable.countersInv`). Two consequences are read off:

* `EdgeDns.waitingClientsCount_eq_clientCount`: the counters match the table, the
  `assert!` of `cap_pending_queries` never fails, and no `fetch_sub` wraps;
* `EdgeDns.waitingClientsCount_le_limit`: the count, and with it the number of
  entries, stays within `max max_waiting_clients 1`. With a limit of `0` one client is
  still admitted: `cap_pending_queries` only ever evicts from a table that has an entry
  (`EdgeDns.limit_zero_admits_one`).

All table operations are handled by one lemma, `EdgeDns.CountersInv.of_perm`: each
replaces at most one entry and keeps the rest, up to order.
-/

namespace EdgeDns

/-- **The counter invariant.** -/
structure CountersInv (env : Env) (s : State) : Prop where
  /-- `waiting_clients_count` is the number of attached clients. -/
  count_eq : s.waitingClientsCount = s.pendingQueries.clientCount
  /-- The `inflight_queries` gauge is the number of entries. -/
  inflight_eq : s.inflightQueries = s.pendingQueries.entries.length
  /-- Every entry has a client. -/
  clients_pos : ∀ p ∈ s.pendingQueries.entries, 0 < p.2.clientQueries.length
  /-- Admission keeps the count at the limit, or at one client when the limit is `0`. -/
  count_le : s.waitingClientsCount ≤ max env.config.maxWaitingClients 1

namespace CountersInv

variable {env : Env} {s s' : State}

theorem count_lt (hi : CountersInv env s) : s.waitingClientsCount < 2 ^ 64 := by
  have := env.config.maxWaitingClients_lt
  have := hi.count_le
  omega

/-- The counter covers every entry's clients. -/
theorem le_count (hi : CountersInv env s) {p : PendingQueryKey × PendingQuery}
    (hp : p ∈ s.pendingQueries.entries) : p.2.clientQueries.length ≤ s.waitingClientsCount :=
  hi.count_eq ▸ PendingQueries.le_clientCount_of_mem hp

/-- There are no more entries than waiting clients. -/
theorem length_le_count (hi : CountersInv env s) :
    s.pendingQueries.entries.length ≤ s.waitingClientsCount :=
  hi.count_eq ▸ PendingQueries.length_le_clientCount hi.clients_pos

/-- A step that changes neither the table nor the counters keeps the invariant. -/
theorem frame (hi : CountersInv env s) (hp : s'.pendingQueries = s.pendingQueries)
    (hw : s'.waitingClientsCount = s.waitingClientsCount)
    (hg : s'.inflightQueries = s.inflightQueries) : CountersInv env s' where
  count_eq := by rw [hp, hw]; exact hi.count_eq
  inflight_eq := by rw [hp, hg]; exact hi.inflight_eq
  clients_pos := hp ▸ hi.clients_pos
  count_le := hw ▸ hi.count_le

/-- **One lemma for every table operation**: the entries `a` give way to the entries `b`
and the rest stays, while the counter and the gauge move by the difference. -/
theorem of_perm (hi : CountersInv env s) {a b rest : List (PendingQueryKey × PendingQuery)}
    (h : s.pendingQueries.entries.Perm (a ++ rest))
    (h' : s'.pendingQueries.entries.Perm (b ++ rest))
    (hw : s'.waitingClientsCount + (a.map fun p => p.2.clientQueries.length).sum =
      s.waitingClientsCount + (b.map fun p => p.2.clientQueries.length).sum)
    (hg : s'.inflightQueries + a.length = s.inflightQueries + b.length)
    (hpos : ∀ p ∈ b, 0 < p.2.clientQueries.length)
    (hle : s'.waitingClientsCount ≤ max env.config.maxWaitingClients 1) : CountersInv env s' := by
  have hc := hi.count_eq
  have hl := hi.inflight_eq
  rw [PendingQueries.clientCount_of_perm h] at hc
  rw [h.length_eq, List.length_append] at hl
  refine ⟨?_, ?_, fun p hp => ?_, hle⟩
  · rw [PendingQueries.clientCount_of_perm h']
    omega
  · rw [h'.length_eq, List.length_append]
    push_cast at hl ⊢
    omega
  · rcases List.mem_append.mp (h'.subset hp) with hb | hr
    · exact hpos p hb
    · exact hi.clients_pos p (h.symm.subset (List.mem_append_right _ hr))

/-- Admission keeps the invariant, and leaves room for one more client. -/
theorem of_capPendingQueries (hi : CountersInv env s) {first : Nat} {b : Bool} {s₁ : State}
    (h : capPendingQueries env s first = some (b, s₁)) :
    CountersInv env s₁ ∧ s₁.waitingClientsCount + 1 ≤ max env.config.maxWaitingClients 1 := by
  rcases capPendingQueries_cases h with ⟨rfl, hlt | hnil⟩ | ⟨key, pq, hge, hget, hle, rfl⟩
  · exact ⟨hi, by omega⟩
  · have := hi.count_eq
    rw [PendingQueries.clientCount, hnil] at this
    exact ⟨hi, by simp_all⟩
  · have hpos : 0 < pq.clientQueries.length := hi.clients_pos _ (PendingQueries.mem_of_get hget)
    have hsub := usizeWrappingSub_of_le hi.count_lt hle
    have hmax := hi.count_le
    refine ⟨hi.of_perm (a := [(key, pq)]) (b := []) (PendingQueries.perm_remove hget) (List.Perm.refl _) ?_ ?_
      (by simp) ?_, ?_⟩ <;> simp only [hsub] <;> simp <;> omega

/-- An arrival keeps the invariant. -/
theorem arrive (hi : CountersInv env s) {nq : NormalizedQuestion}
    {ups : List UpstreamServerForQuery} {first pick : Nat}
    (h : futProcessClientQuery env s nq ups first pick = some s') : CountersInv env s' := by
  have hi₀ : CountersInv env { s with arrived := s.arrived ++ [⟨s.arrived.length, nq, ups⟩] } :=
    hi.frame rfl rfl rfl
  have hlt := env.config.maxWaitingClients_lt
  cases futProcessClientQuery_cases h with
  | allDown _ => exact hi₀.frame rfl rfl rfl
  | @attached b s₁ pq _ hcap hget =>
    obtain ⟨hi₁, hroom⟩ := hi₀.of_capPendingQueries hcap
    have hadd := usizeWrappingAdd_of_lt (a := s₁.waitingClientsCount) (b := 1) (by omega)
    exact hi₁.of_perm (a := [(_, pq)]) (b := [(_, _)]) (PendingQueries.perm_remove hget)
      (PendingQueries.perm_modify _ hget) (by simp [hadd, PendingQuery.addClientQuery]; omega) (by simp)
      (by simp [PendingQuery.addClientQuery]) (by simp only [hadd]; omega)
  | notConfigured _ hcap => exact (hi₀.of_capPendingQueries hcap).1.frame rfl rfl rfl
  | @created b s₁ _ _ _ _ _ _ hcap hget =>
    obtain ⟨hi₁, hroom⟩ := hi₀.of_capPendingQueries hcap
    have hadd := usizeWrappingAdd_of_lt (a := s₁.waitingClientsCount) (b := 1) (by omega)
    exact hi₁.of_perm (a := []) (b := [(_, _)]) (List.Perm.refl _)
      (PendingQueries.perm_insert_of_get_eq_none _ hget) (by simp [createPendingQuery, hadd])
      (by simp [createPendingQuery]) (by simp) (by simp only [createPendingQuery, hadd]; omega)

/-- A wake-up keeps the invariant. -/
theorem wake (hi : CountersInv env s) {t : Task} (h : wakeTask env s t = some s') :
    CountersInv env s' := by
  have hi₁ (r : Registry) : CountersInv env { s with tasks := s.tasks.erase t, registry := r } :=
    hi.frame rfl rfl rfl
  cases wakeTask_cases h with
  | failed => exact hi₁ _
  | @retried _ _ pq _ _ _ _ _ hget =>
    exact (hi₁ _).of_perm (a := [(_, pq)]) (b := [(_, _)]) (PendingQueries.perm_remove hget)
      (PendingQueries.perm_modify _ hget) (by simp [retryPendingQuery]) (by simp [retryPendingQuery])
      (by simpa using hi.clients_pos _ (PendingQueries.mem_of_get hget))
      (by simpa [retryPendingQuery] using hi.count_le)
  | @settled key _ pq _ _ hget =>
    rw [settlePendingQuery_eq]
    have hle : pq.clientQueries.length ≤ s.waitingClientsCount :=
      hi.le_count (PendingQueries.mem_of_get hget)
    have hsub := usizeWrappingSub_of_le hi.count_lt hle
    have hmax := hi.count_le
    exact (hi₁ _).of_perm (a := [(key, pq)]) (b := []) (PendingQueries.perm_remove hget)
      (List.Perm.refl _) (by simp [hsub]; omega) (by simp) (by simp) (by simp only [hsub]; omega)

/-- **Every step keeps the counter invariant.** -/
theorem step (hi : CountersInv env s) (h : Step env s s') : CountersInv env s' := by
  cases h with
  | arrive _ _ _ _ h => exact hi.arrive h
  | wake _ _ h => exact hi.wake h
  | recordSuccess => exact hi.frame rfl rfl rfl
  | tick => exact hi.frame rfl rfl rfl

theorem init (r : Registry) : CountersInv env (State.init r) :=
  ⟨rfl, rfl, by simp [State.init, PendingQueries.empty], by simp [State.init]⟩

end CountersInv

/-- **The counter invariant holds in every reachable state.** -/
theorem Reachable.countersInv {env : Env} {s : State} (h : Reachable env s) : CountersInv env s := by
  induction h with
  | init r => exact CountersInv.init r
  | step _ hs ih => exact ih.step hs

/-! ### The counters match the table -/

/-- **The counters match the table.** In every reachable state, `waiting_clients_count` is
the number of clients attached to the entries and `inflight_queries` the number of
entries; `cap_pending_queries` does not panic at its `assert!`; and every entry's client
count is at most the counter, so the `fetch_sub` that removes it – in
`cap_pending_queries` or in the retry closure – does not wrap. -/
theorem waitingClientsCount_eq_clientCount {env : Env} {s : State} (h : Reachable env s) :
    s.waitingClientsCount = s.pendingQueries.clientCount ∧
      s.inflightQueries = s.pendingQueries.entries.length ∧
      (∀ first, (capPendingQueries env s first).isSome) ∧
      ∀ p ∈ s.pendingQueries.entries, p.2.clientQueries.length ≤ s.waitingClientsCount :=
  have hi := h.countersInv
  ⟨hi.count_eq, hi.inflight_eq, fun first => capPendingQueries_isSome first fun _ => hi.le_count,
    fun _ => hi.le_count⟩

/-- The counters after one client query reached the small resolver. -/
theorem waitingClientsCount_eq_clientCount_one_arrival :
    ∃ s, Reachable (smallEnv .fallback 1 1 (by decide)) s ∧ s.waitingClientsCount = 1 ∧
      (s.waitingClientsCount = s.pendingQueries.clientCount ∧
        s.inflightQueries = s.pendingQueries.entries.length ∧
        (∀ first, (capPendingQueries (smallEnv .fallback 1 1 (by decide)) s first).isSome) ∧
        ∀ p ∈ s.pendingQueries.entries, p.2.clientQueries.length ≤ s.waitingClientsCount) := by
  have hr := (Reachable.init .single : Reachable (smallEnv .fallback 1 1 (by decide)) _).run
    [.arrive ⟨0, 0, 0⟩ [⟨1⟩] 0 0] rfl
  exact ⟨_, hr, rfl, waitingClientsCount_eq_clientCount hr⟩

/-! ### The admission bound -/

/-- **The admission bound.** In every reachable state the count is at most
`max max_waiting_clients 1`, and so is the number of entries, each of which has a
client. -/
theorem waitingClientsCount_le_limit {env : Env} {s : State} (h : Reachable env s) :
    s.waitingClientsCount ≤ max env.config.maxWaitingClients 1 ∧
      s.pendingQueries.entries.length ≤ max env.config.maxWaitingClients 1 :=
  have hi := h.countersInv
  ⟨hi.count_le, hi.length_le_count.trans hi.count_le⟩

/-- The bound after one client query reached the small resolver with a limit of `2`. -/
theorem waitingClientsCount_le_limit_one_arrival :
    ∃ s, Reachable (smallEnv .fallback 2 1 (by decide)) s ∧ s.waitingClientsCount = 1 ∧
      (s.waitingClientsCount ≤ max 2 1 ∧ s.pendingQueries.entries.length ≤ max 2 1) := by
  have hr := (Reachable.init .single : Reachable (smallEnv .fallback 2 1 (by decide)) _).run
    [.arrive ⟨0, 0, 0⟩ [⟨1⟩] 0 0] rfl
  exact ⟨_, hr, rfl, waitingClientsCount_le_limit hr⟩

/-- **A limit of `0` admits one client.** On an empty table `cap_pending_queries` has
nothing to evict, so the first client query is admitted past the limit. -/
theorem limit_zero_admits_one :
    ∃ s, Reachable (smallEnv .fallback 0 1 (by decide)) s ∧
      (smallEnv .fallback 0 1 (by decide)).config.maxWaitingClients < s.waitingClientsCount ∧
      (smallEnv .fallback 0 1 (by decide)).config.maxWaitingClients <
        s.pendingQueries.entries.length :=
  ⟨_, (Reachable.init .single).run [.arrive ⟨0, 0, 0⟩ [⟨1⟩] 0 0] rfl, by decide,
    by decide⟩

end EdgeDns
