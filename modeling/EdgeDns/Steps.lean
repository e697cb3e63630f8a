import EdgeDns.Handler

/-!
# What one step can do

One inversion lemma per function of the handler: from `f ... = some s'`, the shapes `s'`
can take, each with the guards that led to it. Every invariant of the later modules is
a case analysis on these, and none of them unfolds the handler again.

| function | what it can do | lemma |
|---|---|---|
| `cap_pending_queries` | nothing, or evict one entry | `EdgeDns.capPendingQueries_cases` |
| `maybe_send_probe_to_offline_servers` | nothing, or probe one configured candidate | `EdgeDns.maybeSendProbeToOfflineServers_cases` |
| `fut_process_client_query` | answer at once, attach, abandon, create | `EdgeDns.futProcessClientQuery_cases` |
| `fut_retry_query` | nothing, or retry the entry at the key | `EdgeDns.futRetryQuery_cases` |
| a wake-up | fail the server, then retry or settle the entry at the key | `EdgeDns.wakeTask_cases` |

The helpers that only append to one record – responses, probes, the registry block of
the first closure – are written out once as record updates, so that projections of
their results reduce by `simp`.
-/

namespace EdgeDns

/-! ### Helpers that touch one field -/

theorem foldl_maybeRespondWithStaleEntry (env : Env) :
    ∀ (l : List ClientQuery) (s : State), l.foldl (maybeRespondWithStaleEntry env) s =
      { s with responses :=
          s.responses ++ l.map fun cq => (cq.id, staleReply env cq.normalizedQuestion) }
  | [], s => by simp
  | cq :: l, s => by
    rw [List.foldl_cons, foldl_maybeRespondWithStaleEntry env l]
    simp [maybeRespondWithStaleEntry]

/-- Answering every client of an entry appends one response per client, in order. -/
theorem maybeRespondToAllClientsWithStaleEntry_eq (env : Env) (s : State) (pq : PendingQuery) :
    maybeRespondToAllClientsWithStaleEntry env s pq =
      { s with responses :=
          s.responses ++ pq.clientQueries.map fun cq => (cq.id, staleReply env cq.normalizedQuestion) } :=
  foldl_maybeRespondWithStaleEntry env _ s

/-- **What `maybe_send_probe_to_offline_servers` can do**: send nothing, or send one
probe to a configured candidate whose stamp in the registry is absent or at least
`UPSTREAM_PROBES_DELAY_MS` old. Either way the registry is left as it was, since the new
stamp is written to a copy; and whether the candidate is live is never looked at. -/
theorem maybeSendProbeToOfflineServers_cases (env : Env) (s : State)
    (ups : List UpstreamServerForQuery) (pick : Nat) :
    maybeSendProbeToOfflineServers env s ups pick = (s, none) ∨
      ∃ u ∈ ups, ∃ j, ∃ hj : j < s.registry.servers.length,
        s.registry.find u.socketAddr = some j ∧
        (∀ ts ∈ s.registry.servers[j].lastProbeTs, env.upstreamProbesDelayMs ≤ s.clock - ts) ∧
        maybeSendProbeToOfflineServers env s ups pick =
          ({ s with sends := s.sends ++ [.probe u.socketAddr] }, some u.socketAddr) := by
  unfold maybeSendProbeToOfflineServers
  split
  · exact .inl rfl
  · dsimp only
    split
    · exact .inl rfl
    · rename_i srv hsrv
      obtain ⟨u, hu, hbind⟩ := List.mem_filterMap.mp (List.get?_mem hsrv)
      obtain ⟨j, hfind, hget⟩ := Option.bind_eq_some.mp hbind
      obtain ⟨hj, haddr⟩ := Registry.find_eq_some hfind
      obtain rfl : s.registry.servers[j] = srv := by
        rw [List.get?_eq_getElem?, List.getElem?_eq_getElem hj] at hget
        exact Option.some.inj hget
      split
      · exact .inl rfl
      · rename_i hold
        refine .inr ⟨u, hu, j, hj, hfind, fun ts hts => ?_, by rw [haddr]⟩
        rw [Option.mem_def] at hts
        simp only [hts, Option.any_some, decide_eq_true_eq] at hold
        omega

/-- A probe only sends probes: the state is left as it was but for those packets. -/
theorem maybeSendProbeToOfflineServers_eq (env : Env) (s : State)
    (ups : List UpstreamServerForQuery) (pick : Nat) :
    ∃ l : List Nat, maybeSendProbeToOfflineServers env s ups pick =
      ({ s with sends := s.sends ++ l.map Send.probe },
        (maybeSendProbeToOfflineServers env s ups pick).2) := by
  rcases maybeSendProbeToOfflineServers_cases env s ups pick with h | ⟨u, -, -, -, -, -, h⟩
  · exact ⟨[], by rw [h]; simp⟩
  · exact ⟨[u.socketAddr], by rw [h]; rfl⟩

/-- The first closure's registry block changes the registry alone, and reads nothing
but the registry. -/
theorem failUpstream_tasks (env : Env) (s : State) (u : UpstreamServerForQuery) (ts : List Task) :
    failUpstream env { s with tasks := ts } u =
      { s with tasks := ts, registry := (failUpstream env s u).registry } := by
  cases h : s.registry.find u.socketAddr <;> simp [failUpstream, failAttempt, h]

@[simp] theorem length_failUpstream (env : Env) (s : State) (u : UpstreamServerForQuery) :
    (failUpstream env s u).registry.servers.length = s.registry.servers.length := by
  cases h : s.registry.find u.socketAddr <;> simp [failUpstream, failAttempt, h]

theorem settlePendingQuery_eq (env : Env) (s : State) (key : PendingQueryKey) (pq : PendingQuery) :
    settlePendingQuery env s key pq = { s with
      pendingQueries := s.pendingQueries.remove key
      inflightQueries := s.inflightQueries - 1
      responses :=
        s.responses ++ pq.clientQueries.map fun cq => (cq.id, staleReply env cq.normalizedQuestion)
      tasks := s.tasks.filter fun t => t.doneRx ≠ pq.doneTx
      waitingClientsCount := usizeWrappingSub s.waitingClientsCount pq.clientQueries.length } := by
  simp [settlePendingQuery, maybeRespondToAllClientsWithStaleEntry_eq]

/-! ### Admission and coalescing -/

/-- **What `cap_pending_queries` can do**: nothing, below the limit or on an empty
table; or, at the limit, evict one entry whose clients the counter covers. -/
theorem capPendingQueries_cases {env : Env} {s s₁ : State} {first : Nat} {b : Bool}
    (h : capPendingQueries env s first = some (b, s₁)) :
    (s₁ = s ∧ (s.waitingClientsCount < env.config.maxWaitingClients ∨
      s.pendingQueries.entries = [])) ∨
    (∃ key pq, env.config.maxWaitingClients ≤ s.waitingClientsCount ∧
      s.pendingQueries.get key = some pq ∧ pq.clientQueries.length ≤ s.waitingClientsCount ∧
      s₁ = { s with
        pendingQueries := s.pendingQueries.remove key
        inflightQueries := s.inflightQueries - 1
        waitingClientsCount := usizeWrappingSub s.waitingClientsCount pq.clientQueries.length
        abandoned := s.abandoned ++ pq.clientQueries.map fun cq => (cq.id, .evicted) }) := by
  unfold capPendingQueries at h
  split at h
  · cases h
    exact .inl ⟨rfl, .inl ‹_›⟩
  · split at h
    · cases h
      exact .inl ⟨rfl, .inr (PendingQueries.nthKey_eq_none.mp ‹_›)⟩
    · rename_i key hkey
      split at h
      · obtain ⟨v, hv⟩ := PendingQueries.get_of_nthKey hkey
        simp_all
      · rename_i pq hpq
        dsimp only at h
        split at h
        · cases h
          exact .inr ⟨key, pq, by omega, hpq, ‹_›, rfl⟩
        · cases h

/-- The `assert!` of `cap_pending_queries` holds when the counter covers every entry. -/
theorem capPendingQueries_isSome {env : Env} {s : State} (first : Nat)
    (h : ∀ p ∈ s.pendingQueries.entries, p.2.clientQueries.length ≤ s.waitingClientsCount) :
    (capPendingQueries env s first).isSome := by
  unfold capPendingQueries
  split
  · rfl
  · split
    · rfl
    · split
      · rfl
      · rename_i pq hpq
        rw [if_pos (h _ (PendingQueries.mem_of_get hpq))]
        rfl

/-- Eviction leaves the registry alone. -/
theorem capPendingQueries_registry {env : Env} {s s₁ : State} {first : Nat} {b : Bool}
    (h : capPendingQueries env s first = some (b, s₁)) : s₁.registry = s.registry := by
  rcases capPendingQueries_cases h with ⟨rfl, -⟩ | ⟨_, _, -, -, -, rfl⟩ <;> rfl

/-- Eviction leaves the record of arrivals alone. -/
theorem capPendingQueries_arrived {env : Env} {s s₁ : State} {first : Nat} {b : Bool}
    (h : capPendingQueries env s first = some (b, s₁)) : s₁.arrived = s.arrived := by
  rcases capPendingQueries_cases h with ⟨rfl, -⟩ | ⟨_, _, -, -, -, rfl⟩ <;> rfl

theorem maybeAddToExistingPendingQuery_of_get_none {s : State} {key : PendingQueryKey}
    {cq : ClientQuery} (h : s.pendingQueries.get key = none) :
    maybeAddToExistingPendingQuery s key cq = (false, s) := by
  simp [maybeAddToExistingPendingQuery, h]

theorem maybeAddToExistingPendingQuery_of_get_some {s : State} {key : PendingQueryKey}
    {cq : ClientQuery} {pq : PendingQuery} (h : s.pendingQueries.get key = some pq) :
    maybeAddToExistingPendingQuery s key cq = (true, { s with
      pendingQueries := s.pendingQueries.modify key (PendingQuery.addClientQuery cq)
      waitingClientsCount := usizeWrappingAdd s.waitingClientsCount 1 }) := by
  simp [maybeAddToExistingPendingQuery, h]

/-! ### An arrival -/

/-- What an arrival does once the client query `cq` is on record in `s`. -/
inductive Arrives (env : Env) (s : State) (cq : ClientQuery) (first pick : Nat) : State → Prop
  /-- No server is live: the client is answered at once. -/
  | allDown : s.registry.live = [] →
      Arrives env s cq first pick (maybeRespondWithStaleEntry env s cq)
  /-- After admission, the client joins the entry of its key. -/
  | attached {b : Bool} {s₁ : State} {pq : PendingQuery} : s.registry.live ≠ [] →
      capPendingQueries env s first = some (b, s₁) →
      s₁.pendingQueries.get cq.normalizedQuestion.pendingQueryKey = some pq →
      Arrives env s cq first pick { s₁ with
        pendingQueries := s₁.pendingQueries.modify cq.normalizedQuestion.pendingQueryKey
          (PendingQuery.addClientQuery cq)
        waitingClientsCount := usizeWrappingAdd s₁.waitingClientsCount 1 }
  /-- After admission, no entry has the key, a probe may go out, and the server chosen is
  not in the registry: the client is abandoned. -/
  | notConfigured {b : Bool} {s₁ : State} {idx : Nat} {l : List Nat} {probe : Option Nat}
      {u : UpstreamServerForQuery} :
      s.registry.live ≠ [] → capPendingQueries env s first = some (b, s₁) →
      s₁.pendingQueries.get cq.normalizedQuestion.pendingQueryKey = none →
      newPendingQuery env s₁.registry cq.normalizedQuestion false = .ok idx →
      maybeSendProbeToOfflineServers env s₁ cq.upstreamServersForQuery pick =
        ({ s₁ with sends := s₁.sends ++ l.map Send.probe }, probe) →
      cq.upstreamServersForQuery.get? idx = some u → s₁.registry.find u.socketAddr = none →
      Arrives env s cq first pick
        { s₁ with
          sends := s₁.sends ++ l.map Send.probe
          abandoned := s₁.abandoned ++ [(cq.id, .notConfigured)] }
  /-- After admission, no entry has the key, a probe may go out, and an entry is created
  on the server chosen. -/
  | created {b : Bool} {s₁ : State} {idx : Nat} {l : List Nat} {probe : Option Nat}
      {u : UpstreamServerForQuery} {j : Nat} :
      s.registry.live ≠ [] → capPendingQueries env s first = some (b, s₁) →
      s₁.pendingQueries.get cq.normalizedQuestion.pendingQueryKey = none →
      newPendingQuery env s₁.registry cq.normalizedQuestion false = .ok idx →
      maybeSendProbeToOfflineServers env s₁ cq.upstreamServersForQuery pick =
        ({ s₁ with sends := s₁.sends ++ l.map Send.probe }, probe) →
      cq.upstreamServersForQuery.get? idx = some u → s₁.registry.find u.socketAddr = some j →
      Arrives env s cq first pick
        (createPendingQuery { s₁ with sends := s₁.sends ++ l.map Send.probe }
          cq.normalizedQuestion.pendingQueryKey cq idx probe u j)

/-- **What `fut_process_client_query` can do.** The client query is put on record, and
then one of the four cases of `EdgeDns.Arrives` happens; the error of
`new_pending_query` cannot, since the live list was just seen non-empty. -/
theorem futProcessClientQuery_cases {env : Env} {s s' : State} {nq : NormalizedQuestion}
    {ups : List UpstreamServerForQuery} {first pick : Nat}
    (h : futProcessClientQuery env s nq ups first pick = some s') :
    Arrives env { s with arrived := s.arrived ++ [⟨s.arrived.length, nq, ups⟩] }
      ⟨s.arrived.length, nq, ups⟩ first pick s' := by
  unfold futProcessClientQuery at h
  dsimp only at h
  split at h
  · cases h
    exact .allDown (List.isEmpty_iff.mp ‹_›)
  · rename_i hlive
    have hne : s.registry.live ≠ [] := fun he => hlive (by simp [he])
    split at h
    · cases h
    · rename_i b s₁ hcap
      have hreg := capPendingQueries_registry hcap
      cases hget : s₁.pendingQueries.get nq.pendingQueryKey with
      | some pq =>
        rw [maybeAddToExistingPendingQuery_of_get_some hget] at h
        cases h
        exact .attached hne hcap hget
      | none =>
        rw [maybeAddToExistingPendingQuery_of_get_none hget] at h
        dsimp only at h
        split at h
        · rcases pickUpstream_spec nq s₁.registry env.jumphasher false env.config.lbmode with
            ⟨hnil, -⟩ | ⟨-, i, -, hok⟩
          · exact absurd (hreg ▸ hnil) hne
          · simp_all [newPendingQuery]
        · rename_i idx hidx
          obtain ⟨l, hl⟩ := maybeSendProbeToOfflineServers_eq env s₁ ups pick
          rw [hl] at h
          dsimp only at h
          split at h
          · cases h
          · rename_i u hu
            split at h
            · cases h
              exact .notConfigured hne hcap hget hidx hl hu ‹_›
            · cases h
              exact .created hne hcap hget hidx hl hu ‹_›

/-- An arrival puts its client query on record. -/
theorem futProcessClientQuery_arrived {env : Env} {s s' : State} {nq : NormalizedQuestion}
    {ups : List UpstreamServerForQuery} {first pick : Nat}
    (h : futProcessClientQuery env s nq ups first pick = some s') :
    s'.arrived = s.arrived ++ [⟨s.arrived.length, nq, ups⟩] := by
  cases futProcessClientQuery_cases h with
  | allDown _ => rfl
  | attached _ hcap _ => exact capPendingQueries_arrived hcap
  | notConfigured _ hcap => exact capPendingQueries_arrived hcap
  | created _ hcap => exact capPendingQueries_arrived hcap

/-! ### A retry -/

/-- What `fut_retry_query` does for a question and candidate list. -/
inductive Retries (env : Env) (s : State) (nq : NormalizedQuestion)
    (ups : List UpstreamServerForQuery) : State → Prop
  /-- One of the early returns: the state is left as it is. -/
  | unchanged : Retries env s nq ups s
  /-- The entry at the key is retried on server index `idx`. -/
  | retried {pq : PendingQuery} {idx : Nat} {u u' : UpstreamServerForQuery} {j : Nat} :
      s.pendingQueries.get nq.pendingQueryKey = some pq →
      ups.get? pq.upstreamServerIdx = some u → (s.registry.find u.socketAddr).isSome →
      newPendingQuery env s.registry nq true = .ok idx → ups.get? idx = some u' →
      s.registry.find u'.socketAddr = some j →
      Retries env s nq ups (retryPendingQuery s nq.pendingQueryKey pq idx u' j)

/-- **What `fut_retry_query` can do**: leave the state, or retry the entry at the key. -/
theorem futRetryQuery_cases {env : Env} {s s' : State} {nq : NormalizedQuestion}
    {ups : List UpstreamServerForQuery} (h : futRetryQuery env s nq ups = some s') :
    Retries env s nq ups s' := by
  unfold futRetryQuery at h
  dsimp only at h
  split at h
  · cases h
    exact .unchanged
  · rename_i pq hpq
    split at h
    · cases h
    · rename_i u hu
      split at h
      · cases h
        exact .unchanged
      · rename_i hfind
        split at h
        · cases h
          exact .unchanged
        · rename_i idx hidx
          split at h
          · cases h
          · rename_i u' hu'
            split at h
            · cases h
              exact .unchanged
            · cases h
              exact .retried hpq hu (by simp [hfind]) hidx hu' ‹_›

/-! ### A wake-up -/

/-- What a wake-up does, given the registry `r` that the closure's failure of the
attempt's server leaves: the task leaves the reactor, and then – -/
inductive Wakes (env : Env) (s : State) (t : Task) (r : Registry) : State → Prop
  /-- – nothing more: `fut_retry_query` returned early, or the retry closure found no
  server to fail or no entry to settle; -/
  | failed : Wakes env s t r { s with tasks := s.tasks.erase t, registry := r }
  /-- – the first-attempt closure retries the entry at its question's key; -/
  | retried {nq : NormalizedQuestion} {ups : List UpstreamServerForQuery} {pq : PendingQuery}
      {idx : Nat} {u u' : UpstreamServerForQuery} {j : Nat} :
      t.kind = .firstAttempt nq ups → s.pendingQueries.get nq.pendingQueryKey = some pq →
      ups.get? pq.upstreamServerIdx = some u → (r.find u.socketAddr).isSome →
      newPendingQuery env r nq true = .ok idx → ups.get? idx = some u' →
      r.find u'.socketAddr = some j →
      Wakes env s t r (retryPendingQuery { s with tasks := s.tasks.erase t, registry := r }
        nq.pendingQueryKey pq idx u' j)
  /-- – the retry closure settles the entry at its key. -/
  | settled {key : PendingQueryKey} {idx : Nat} {pq : PendingQuery} :
      t.kind = .retryAttempt key idx → (s.registry.find t.upstreamServerForQuery.socketAddr).isSome →
      s.pendingQueries.get key = some pq →
      Wakes env s t r (settlePendingQuery env { s with tasks := s.tasks.erase t, registry := r }
        key pq)

/-- **What a wake-up can do.** Both closures first fail the attempt's server; the
first-attempt closure then runs `fut_retry_query`, and the retry closure settles the
entry at its key. -/
theorem wakeTask_cases {env : Env} {s s' : State} {t : Task} (h : wakeTask env s t = some s') :
    Wakes env s t (failUpstream env s t.upstreamServerForQuery).registry s' := by
  unfold wakeTask at h
  dsimp only at h
  split at h
  · rename_i nq ups hk
    rw [firstAttemptTimeout, failUpstream_tasks] at h
    cases futRetryQuery_cases h with
    | unchanged => exact .failed
    | retried hget hu hfind hidx hu' hj => exact .retried hk hget hu hfind hidx hu' hj
  · rename_i key idx hk
    cases h
    unfold retryAttemptTimeout
    cases hfind : s.registry.find t.upstreamServerForQuery.socketAddr with
    | none =>
      simp only [hfind, failUpstream]
      exact .failed
    | some j =>
      simp only [hfind, failUpstream]
      split
      · exact .failed
      · exact .settled hk (by simp [hfind]) ‹_›

/-- A wake-up receives no client query. -/
theorem wakeTask_arrived {env : Env} {s s' : State} {t : Task} (h : wakeTask env s t = some s') :
    s'.arrived = s.arrived := by
  cases wakeTask_cases h with
  | failed => rfl
  | retried => rfl
  | settled => simp [settlePendingQuery_eq]

end EdgeDns
