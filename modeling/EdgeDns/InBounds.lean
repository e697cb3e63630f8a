import EdgeDns.Counters

/-!
# Every index is in bounds

Three indexings of the handler could go out of bounds, and each would panic the reactor
task: `upstream_servers_for_query[upstream_server_idx]` in `fut_process_client_query`
with the first attempt's pick, and in `fut_retry_query` with the index stored in the
entry and with the retry's pick (the second indexing of that pick repeats the first).
The model writes each as `List.get?`, and a panic as `none`. The indexings inside
`pick_upstream` are in bounds by construction (`EdgeDns.pickUpstream_spec`).

Every index used is a server index: a live index at the time of its pick
(`EdgeDns.pickUpstream_mem`), so below the number of configured servers
(`EdgeDns.Registry.live_lt`), which no step changes. An index stored in an entry was
picked from an earlier live list; the invariant `EdgeDns.IndexInv` keeps it below that
number. It also keeps, for each first-attempt task, that the candidate list its closure
holds is that of a client query received.

So when every client query's candidate list has a position for every configured server,
no step panics: `EdgeDns.indices_in_bounds` is the progress statement of the handler –
from every reachable state, every such arrival and every wake-up of a task on the reactor
can run.
-/

namespace EdgeDns

/-! ### The invariant -/

/-- Every entry's server index is below `n`. -/
def EntriesOk (n : Nat) (m : PendingQueries) : Prop :=
  ∀ p ∈ m.entries, p.2.upstreamServerIdx < n

/-- The candidate list of every first-attempt task is that of a client query of `A`. -/
def TasksOk (A : List ClientQuery) (ts : List Task) : Prop :=
  ∀ t ∈ ts, ∀ nq ups, t.kind = .firstAttempt nq ups → ∃ cq ∈ A, cq.upstreamServersForQuery = ups

/-- **The index invariant.** -/
structure IndexInv (s : State) : Prop where
  /-- Every entry's server index names a configured server. -/
  entries : EntriesOk s.registry.servers.length s.pendingQueries
  /-- A first-attempt closure holds the candidate list of a client query received. -/
  tasks : TasksOk s.arrived s.tasks

namespace EntriesOk

variable {n : Nat} {m : PendingQueries}

theorem remove (h : EntriesOk n m) (k : PendingQueryKey) : EntriesOk n (m.remove k) :=
  fun p hp => h p (List.mem_of_mem_filter hp)

theorem insert (h : EntriesOk n m) {k : PendingQueryKey} {v : PendingQuery}
    (hv : v.upstreamServerIdx < n) : EntriesOk n (m.insert k v) := by
  intro p hp
  rcases List.mem_append.mp hp with hp | hp
  · exact h.remove k p hp
  · rw [List.mem_singleton.mp hp]
    exact hv

/-- An update in place keeps the invariant when it keeps each index below `n`. -/
theorem modify (h : EntriesOk n m) {k : PendingQueryKey} {f : PendingQuery → PendingQuery}
    (hf : ∀ v, v.upstreamServerIdx < n → (f v).upstreamServerIdx < n) :
    EntriesOk n (m.modify k f) := by
  intro p hp
  obtain ⟨q, hq, rfl⟩ := List.mem_map.mp hp
  split
  · exact hf _ (h q hq)
  · exact h q hq

end EntriesOk

namespace TasksOk

variable {A : List ClientQuery} {ts : List Task}

theorem mono (h : TasksOk A ts) {A' : List ClientQuery} {ts' : List Task} (hA : A ⊆ A')
    (hts : ts' ⊆ ts) : TasksOk A' ts' := fun t ht nq ups hk =>
  let ⟨cq, hcq, he⟩ := h t (hts ht) nq ups hk
  ⟨cq, hA hcq, he⟩

theorem append (h : TasksOk A ts) {t : Task}
    (ht : ∀ nq ups, t.kind = .firstAttempt nq ups → ∃ cq ∈ A, cq.upstreamServersForQuery = ups) :
    TasksOk A (ts ++ [t]) := by
  intro t' ht'
  rcases List.mem_append.mp ht' with ht' | ht'
  · exact h t' ht'
  · rw [List.mem_singleton.mp ht']
    exact ht

end TasksOk

namespace IndexInv

variable {env : Env} {s s' : State}

/-- Admission keeps the invariant. -/
theorem capPendingQueries (hi : IndexInv s) {first : Nat} {b : Bool} {s₁ : State}
    (h : EdgeDns.capPendingQueries env s first = some (b, s₁)) : IndexInv s₁ := by
  rcases capPendingQueries_cases h with ⟨rfl, -⟩ | ⟨key, pq, -, -, -, rfl⟩
  · exact hi
  · exact ⟨hi.entries.remove key, hi.tasks⟩

/-- An arrival keeps the invariant. -/
theorem arrive (hi : IndexInv s) {nq : NormalizedQuestion} {ups : List UpstreamServerForQuery}
    {first pick : Nat} (h : futProcessClientQuery env s nq ups first pick = some s') :
    IndexInv s' := by
  have hi₀ : IndexInv { s with arrived := s.arrived ++ [⟨s.arrived.length, nq, ups⟩] } :=
    ⟨hi.entries, hi.tasks.mono (List.subset_append_left _ _) (List.Subset.refl _)⟩
  cases futProcessClientQuery_cases h with
  | allDown _ => exact ⟨hi₀.entries, hi₀.tasks⟩
  | attached _ hcap _ =>
    have hi₁ := hi₀.capPendingQueries hcap
    exact ⟨hi₁.entries.modify fun _ hv => hv, hi₁.tasks⟩
  | notConfigured _ hcap =>
    have hi₁ := hi₀.capPendingQueries hcap
    exact ⟨hi₁.entries, hi₁.tasks⟩
  | @created b s₁ idx _ probe _ _ _ hcap _ hidx =>
    have hi₁ := hi₀.capPendingQueries hcap
    have harr : s₁.arrived = s.arrived ++ [⟨s.arrived.length, nq, ups⟩] :=
      capPendingQueries_arrived hcap
    refine ⟨?_, hi₁.tasks.append fun nq' ups' hk => ⟨_, harr ▸ List.mem_append_right _
      (List.mem_singleton_self _), by cases hk; rfl⟩⟩
    simpa [createPendingQuery, EntriesOk] using
      hi₁.entries.insert (k := nq.pendingQueryKey) (v := ⟨[⟨s.arrived.length, nq, ups⟩], idx, probe,
        s₁.fresh, s₁.fresh⟩)
        (newPendingQuery_lt hidx)

/-- A wake-up keeps the invariant. -/
theorem wake (hi : IndexInv s) {t : Task} (h : wakeTask env s t = some s') : IndexInv s' := by
  have hts : TasksOk s.arrived (s.tasks.erase t) :=
    hi.tasks.mono (List.Subset.refl _) (List.erase_subset _ _)
  have hen : EntriesOk (failUpstream env s t.upstreamServerForQuery).registry.servers.length
      s.pendingQueries := by
    rw [length_failUpstream]
    exact hi.entries
  cases wakeTask_cases h with
  | failed => exact ⟨hen, hts⟩
  | retried _ _ _ _ hidx =>
    exact ⟨by simpa [retryPendingQuery] using hen.modify fun _ _ => newPendingQuery_lt hidx,
      hts.append fun _ _ hk => by cases hk⟩
  | settled =>
    rw [settlePendingQuery_eq]
    exact ⟨hen.remove _, hts.mono (List.Subset.refl _) (List.filter_sublist _).subset⟩

/-- **Every step keeps the index invariant.** -/
theorem step (hi : IndexInv s) (h : Step env s s') : IndexInv s' := by
  cases h with
  | arrive _ _ _ _ h => exact hi.arrive h
  | wake _ _ h => exact hi.wake h
  | recordSuccess => exact ⟨by simpa using hi.entries, hi.tasks⟩
  | tick => exact ⟨hi.entries, hi.tasks⟩

end IndexInv

theorem Reachable.indexInv {env : Env} {s : State} (h : Reachable env s) : IndexInv s := by
  induction h with
  | init r => exact ⟨fun _ hp => (nomatch hp), fun _ ht => (nomatch ht)⟩
  | step _ hs ih => exact ih.step hs

/-! ### No step panics -/

/-- `fut_process_client_query` does not panic when the counter covers every entry and the
candidate list has a position for every configured server. -/
theorem futProcessClientQuery_isSome {env : Env} {s : State} {nq : NormalizedQuestion}
    {ups : List UpstreamServerForQuery} (first pick : Nat)
    (hle : ∀ p ∈ s.pendingQueries.entries, p.2.clientQueries.length ≤ s.waitingClientsCount)
    (hcover : s.registry.servers.length ≤ ups.length) :
    (futProcessClientQuery env s nq ups first pick).isSome := by
  unfold futProcessClientQuery
  dsimp only
  split
  · rfl
  · obtain ⟨⟨b, s₁⟩, hcap⟩ := Option.isSome_iff_exists.mp (capPendingQueries_isSome first hle :
      (capPendingQueries env { s with arrived := s.arrived ++ [⟨s.arrived.length, nq, ups⟩] }
        first).isSome)
    have hreg : s₁.registry = s.registry := (capPendingQueries_registry hcap).trans rfl
    rw [hcap]
    dsimp only
    cases hget : s₁.pendingQueries.get nq.pendingQueryKey with
    | some pq =>
      rw [maybeAddToExistingPendingQuery_of_get_some hget]
      rfl
    | none =>
      rw [maybeAddToExistingPendingQuery_of_get_none hget]
      dsimp only
      split
      · rfl
      · rename_i idx hidx
        have hlt : idx < ups.length :=
          (newPendingQuery_lt hidx).trans_le (hreg ▸ hcover)
        simp only [List.get?_eq_get hlt]
        split <;> rfl

/-- `fut_retry_query` does not panic when the entry at the key, and every live server,
has a position in the candidate list. -/
theorem futRetryQuery_isSome {env : Env} {s : State} {nq : NormalizedQuestion}
    {ups : List UpstreamServerForQuery}
    (hidx : ∀ pq, s.pendingQueries.get nq.pendingQueryKey = some pq →
      pq.upstreamServerIdx < ups.length)
    (hlive : ∀ i ∈ s.registry.live, i < ups.length) : (futRetryQuery env s nq ups).isSome := by
  unfold futRetryQuery
  dsimp only
  split
  · rfl
  · rename_i pq hpq
    simp only [List.get?_eq_get (hidx pq hpq)]
    split
    · rfl
    · split
      · rfl
      · rename_i idx hpick
        simp only [List.get?_eq_get (hlive idx (pickUpstream_mem hpick))]
        split <;> rfl

/-- A wake-up does not panic when the invariant holds and every client query's candidate
list has a position for every configured server. -/
theorem wakeTask_isSome {env : Env} {s : State} {t : Task} (hi : IndexInv s)
    (hcover : ∀ cq ∈ s.arrived, s.registry.servers.length ≤ cq.upstreamServersForQuery.length)
    (ht : t ∈ s.tasks) : (wakeTask env s t).isSome := by
  unfold wakeTask
  split
  · rename_i nq ups hk
    obtain ⟨cq, hcq, rfl⟩ := hi.tasks t ht nq ups hk
    rw [firstAttemptTimeout, failUpstream_tasks]
    refine futRetryQuery_isSome (fun pq hpq => ?_) fun i hi' => ?_
    · exact (hi.entries _ (PendingQueries.mem_of_get hpq)).trans_le (hcover cq hcq)
    · exact (Registry.live_lt _ i hi').trans_le ((length_failUpstream ..).symm ▸ hcover cq hcq)
  · rfl

/-- **Every index is in bounds.** In every reachable state where every client query
received has a candidate list with a position for every configured server: the choice
fails exactly when no server is live and otherwise names a live server, for every
balancer, question and retry flag; every index stored in an entry – picked from an
earlier live list – is a position of every such candidate list; and neither the next
arrival of such a client query nor the wake-up of any task on the reactor panics. -/
theorem indices_in_bounds {env : Env} {s : State} (h : Reachable env s)
    (hcover : ∀ cq ∈ s.arrived, s.registry.servers.length ≤ cq.upstreamServersForQuery.length) :
    (∀ nq isRetry lbmode,
      (s.registry.live = [] ∧
          pickUpstream nq s.registry env.jumphasher isRetry lbmode =
            .error "All upstream servers are down") ∨
        (s.registry.live ≠ [] ∧
          ∃ i ∈ s.registry.live, pickUpstream nq s.registry env.jumphasher isRetry lbmode = .ok i)) ∧
      (∀ p ∈ s.pendingQueries.entries, ∀ cq ∈ s.arrived,
        p.2.upstreamServerIdx < cq.upstreamServersForQuery.length) ∧
      (∀ nq ups first pick, s.registry.servers.length ≤ ups.length →
        (futProcessClientQuery env s nq ups first pick).isSome) ∧
      ∀ t ∈ s.tasks, (wakeTask env s t).isSome :=
  have hi := h.indexInv
  ⟨fun nq isRetry lbmode => pickUpstream_spec nq s.registry env.jumphasher isRetry lbmode,
    fun p hp cq hcq => (hi.entries p hp).trans_le (hcover cq hcq),
    fun _ _ first pick => futProcessClientQuery_isSome first pick
      fun _ => h.countersInv.le_count,
    fun _ => wakeTask_isSome hi hcover⟩

/-- After one client query reached the small resolver, its first-attempt task is on the
reactor, and waking it does not panic. -/
theorem indices_in_bounds_one_arrival :
    ∃ s, Reachable (smallEnv .fallback 1 1 (by decide)) s ∧
      (∀ cq ∈ s.arrived, s.registry.servers.length ≤ cq.upstreamServersForQuery.length) ∧
      s.tasks ≠ [] ∧
      ((∀ nq isRetry lbmode,
        (s.registry.live = [] ∧
            pickUpstream nq s.registry JumpHasher.firstBucket isRetry lbmode =
              .error "All upstream servers are down") ∨
          (s.registry.live ≠ [] ∧
            ∃ i ∈ s.registry.live, pickUpstream nq s.registry JumpHasher.firstBucket isRetry lbmode =
              .ok i)) ∧
        (∀ p ∈ s.pendingQueries.entries, ∀ cq ∈ s.arrived,
          p.2.upstreamServerIdx < cq.upstreamServersForQuery.length) ∧
        (∀ nq ups first pick, s.registry.servers.length ≤ ups.length →
          (futProcessClientQuery (smallEnv .fallback 1 1 (by decide)) s nq ups first pick).isSome) ∧
        ∀ t ∈ s.tasks, (wakeTask (smallEnv .fallback 1 1 (by decide)) s t).isSome) := by
  have hr := (Reachable.init .single : Reachable (smallEnv .fallback 1 1 (by decide)) _).run
    [.arrive ⟨0, 0, 0⟩ [⟨1⟩] 0 0] rfl
  exact ⟨_, hr, by decide, by decide, indices_in_bounds hr (by decide)⟩

end EdgeDns
