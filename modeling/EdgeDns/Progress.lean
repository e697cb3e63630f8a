import EdgeDns.Destinations
import EdgeDns.Budget
import EdgeDns.Service

/-!
# While a server is live, every client is answered

A client query waits in the table until a closure of its entry's timer chain settles the
entry, or eviction drops it: nothing else answers it. So the clients are answered in the
end exactly when every entry keeps a timer task on its current channel, and the tasks run
out. The second half is `EdgeDns.reactor_drains`. The first can fail: when the
first-attempt closure finds the live list empty, `fut_retry_query` returns before arming a
retry, and the entry is left with no task (`EdgeDns.retry_allDown_strands_entry`).

This module shows that this is the only way. Call a state *all awaited* when every entry
is awaited by a task (`EdgeDns.AllAwaited`). In an armed run – no cancelled receiver runs
its closure – and over candidate lists that name a configured server at every server index
(`EdgeDns.CandidatesConfigured`), the wake-up of a task whose channel an entry holds does
one of two things (`EdgeDns.wakeTask_armed`):

* a first-attempt task retries its entry, which moves to a fresh channel awaited by the
  retry task, unless the failure it records leaves no server live;
* a retry task settles its entry, and its clients get their stale answer or SERVFAIL.

Either way every other entry keeps its task, since channels are not shared
(`EdgeDns.AllAwaited.wake`), and an arrival creates an entry together with its task. So in
the armed runs where some server is live after every wake-up, every entry is awaited
(`EdgeDns.live_armed_runs_keep_entries_awaited`). Waking tasks whose receivers are not
cancelled one after another (`EdgeDns.ArmedWakes`) keeps this, or empties the live list, in
whatever order the tasks are picked (`EdgeDns.ArmedWakes.invariant`); no such wake-up
panics, and by the wake budget of `EdgeDns.Budget` every such sequence stops within twice
as many wake-ups as there are tasks. Where it stops, every task left is cancelled; if the
live list is not empty there, the table is, and every client query received has been
answered or abandoned (`EdgeDns.armed_timers_answer_every_client`).
-/

namespace EdgeDns

/-- Every entry of the table is awaited by a timer task on its current channel. -/
def AllAwaited (s : State) : Prop :=
  ∀ p ∈ s.pendingQueries.entries, Awaited s p

instance (s : State) : Decidable (AllAwaited s) :=
  inferInstanceAs (Decidable (∀ p ∈ s.pendingQueries.entries, Awaited s p))

/-- Every client query received names, at every server index, a candidate that the
registry has. -/
def CandidatesConfigured (s : State) : Prop :=
  ∀ cq ∈ s.arrived, ∀ i < s.registry.servers.length,
    ((cq.upstreamServersForQuery.get? i).bind fun u => s.registry.find u.socketAddr).isSome

instance (s : State) : Decidable (CandidatesConfigured s) :=
  inferInstanceAs (Decidable (∀ cq ∈ s.arrived, ∀ i < s.registry.servers.length,
    ((cq.upstreamServersForQuery.get? i).bind fun u => s.registry.find u.socketAddr).isSome))

/-- `n` wake-ups of tasks whose receivers are not cancelled lead from `s` to `s'`. -/
inductive ArmedWakes (env : Env) : Nat → State → State → Prop
  /-- No wake-up. -/
  | refl (s : State) : ArmedWakes env 0 s s
  /-- A task whose channel an entry holds wakes, and its closure runs. -/
  | wake {n : Nat} {s s₁ s' : State} (t : Task) : t ∈ s.tasks → ¬ t.Cancelled s →
      wakeTask env s t = some s₁ → ArmedWakes env n s₁ s' → ArmedWakes env (n + 1) s s'

/-! ### What a wake-up keeps -/

/-- An entry of the table is what the table holds at its key. -/
theorem PendingQueries.get_of_mem {m : PendingQueries} {p : PendingQueryKey × PendingQuery}
    (hp : p ∈ m.entries) : m.get p.1 = some p.2 := by
  cases hget : m.get p.1 with
  | none =>
    simp only [PendingQueries.get, Option.map_eq_none', List.find?_eq_none] at hget
    exact absurd (hget p hp) (by simp)
  | some v =>
    exact congrArg (some ∘ Prod.snd)
      (List.inj_on_of_nodup_map m.keys_nodup (PendingQueries.mem_of_get hget) hp rfl)

theorem CandidatesConfigured.get {s : State} (h : CandidatesConfigured s) {cq : ClientQuery}
    (hcq : cq ∈ s.arrived) {i : Nat} (hi : i < s.registry.servers.length) :
    ∃ u, cq.upstreamServersForQuery.get? i = some u ∧ ∃ j, s.registry.find u.socketAddr = some j := by
  obtain ⟨j, hj⟩ := Option.isSome_iff_exists.mp (h cq hcq i hi)
  obtain ⟨u, hu, hj⟩ := Option.bind_eq_some.mp hj
  exact ⟨u, hu, j, hj⟩

/-- Configured candidates have a position for every configured server, so no wake-up
panics. -/
theorem CandidatesConfigured.length_le {s : State} (h : CandidatesConfigured s) {cq : ClientQuery}
    (hcq : cq ∈ s.arrived) : s.registry.servers.length ≤ cq.upstreamServersForQuery.length := by
  by_contra hlt
  have := h cq hcq _ (Nat.lt_of_not_le hlt)
  rw [List.get?_eq_none.mpr le_rfl] at this
  exact absurd this (by simp)

/-- A wake-up keeps the candidates configured: it receives no client query and keeps the
servers. -/
theorem CandidatesConfigured.wake {env : Env} {s s' : State} {t : Task}
    (h : CandidatesConfigured s) (hw : wakeTask env s t = some s') : CandidatesConfigured s' := by
  intro cq hcq i hi
  simpa only [wakeTask_find hw] using
    h cq (wakeTask_arrived hw ▸ hcq) i (wakeTask_servers_length hw ▸ hi)

/-- A failure only takes servers off the live list. -/
theorem live_failUpstream_sublist (env : Env) (s : State) (u : UpstreamServerForQuery) :
    (failUpstream env s u).registry.live.Sublist s.registry.live := by
  cases h : s.registry.find u.socketAddr with
  | none => simp [failUpstream, h]
  | some j =>
    simp only [failUpstream, failAttempt, h]
    exact Registry.live_recordFailure_sublist _ _ _

/-- A wake-up leaves the live list its closure's failure leaves. -/
theorem wakeTask_live {env : Env} {s s' : State} {t : Task} (h : wakeTask env s t = some s') :
    s'.registry.live = (failUpstream env s t.upstreamServerForQuery).registry.live := by
  cases wakeTask_cases h with
  | failed => rfl
  | retried => rfl
  | settled => simp [settlePendingQuery_eq]

section Armed

variable {env : Env} {s s' : State} {t : Task} {key : PendingQueryKey} {pq : PendingQuery}

/-- Every other entry keeps its task when the task of the entry at `key` leaves, and holds a
channel other than that entry's: channels are not shared. -/
theorem AllAwaited.other (hw : AllAwaited s) (hc : ChannelInv s)
    (hget : s.pendingQueries.get key = some pq) (hrx : pq.doneTx = t.doneRx)
    {p : PendingQueryKey × PendingQuery} (hp : p ∈ s.pendingQueries.entries) (hk : p.1 ≠ key) :
    p.2.doneTx ≠ pq.doneTx ∧ ∃ t' ∈ s.tasks.erase t, t'.doneRx = p.2.doneTx := by
  have hne : p.2.doneTx ≠ pq.doneTx := fun heq =>
    hk (congrArg Prod.fst (List.inj_on_of_nodup_map hc.entries.1 hp
      (PendingQueries.mem_of_get hget) heq))
  obtain ⟨t', ht', hrx'⟩ := hw p hp
  refine ⟨hne, t', List.mem_erase_of_ne (fun h => hne ?_) |>.mpr ht', hrx'⟩
  rw [← hrx', h, hrx]

/-- Retrying the entry whose channel the waking task awaited keeps every entry awaited: the
retry task awaits the entry's new channel. -/
theorem AllAwaited.retryPendingQuery (hw : AllAwaited s) (hc : ChannelInv s)
    (hget : s.pendingQueries.get key = some pq) (hrx : pq.doneTx = t.doneRx) (r : Registry)
    (idx : Nat) (u : UpstreamServerForQuery) (j : Nat) :
    AllAwaited (EdgeDns.retryPendingQuery { s with tasks := s.tasks.erase t, registry := r }
      key pq idx u j) := by
  intro p hp
  rcases List.mem_cons.mp ((PendingQueries.perm_modify _ hget).subset hp) with rfl | hp
  · exact ⟨_, List.mem_append_right _ (List.mem_singleton_self _), rfl⟩
  · obtain ⟨hp, hk⟩ := List.mem_filter.mp hp
    obtain ⟨-, t', ht', hrx'⟩ := hw.other hc hget hrx hp (by simpa using hk)
    exact ⟨t', List.mem_append_left _ ht', hrx'⟩

/-- Settling the entry whose channel the waking task awaited keeps every other entry
awaited. -/
theorem AllAwaited.settlePendingQuery (hw : AllAwaited s) (hc : ChannelInv s)
    (hget : s.pendingQueries.get key = some pq) (hrx : pq.doneTx = t.doneRx) (r : Registry) :
    AllAwaited (EdgeDns.settlePendingQuery env { s with tasks := s.tasks.erase t, registry := r }
      key pq) := by
  rw [settlePendingQuery_eq]
  intro p hp
  obtain ⟨hp, hk⟩ := List.mem_filter.mp hp
  obtain ⟨hne, t', ht', hrx'⟩ := hw.other hc hget hrx hp (by simpa using hk)
  exact ⟨t', List.mem_filter.mpr ⟨ht', by simpa [hrx'] using hne⟩, hrx'⟩

/-- `fut_retry_query` retries the entry at the key when it finds the entry, its server, a
live server to pick and that server among the candidates. -/
theorem futRetryQuery_eq_retry {nq : NormalizedQuestion} {ups : List UpstreamServerForQuery}
    {u u' : UpstreamServerForQuery} {idx j j₀ : Nat}
    (hget : s.pendingQueries.get nq.pendingQueryKey = some pq)
    (hu : ups.get? pq.upstreamServerIdx = some u) (hfu : s.registry.find u.socketAddr = some j₀)
    (hidx : newPendingQuery env s.registry nq true = .ok idx) (hu' : ups.get? idx = some u')
    (hj : s.registry.find u'.socketAddr = some j) :
    futRetryQuery env s nq ups = some (EdgeDns.retryPendingQuery s nq.pendingQueryKey pq idx u' j) := by
  rw [List.get?_eq_getElem?] at hu hu'
  simp [futRetryQuery, hget, hu, hfu, hidx, hu', hj]

/-- **What the wake-up of an armed task does.** Over configured candidates, a task whose
channel an entry holds retries that entry if it is a first attempt and a server is live
after its failure, and settles it if it is a retry. -/
theorem wakeTask_armed (hi : AttemptInv s) (hx : IndexInv s) (hd : DestInv s)
    (hcand : CandidatesConfigured s) (ht : t ∈ s.tasks) (harmed : ¬ t.Cancelled s)
    (hlive : (failUpstream env s t.upstreamServerForQuery).registry.live ≠ []) :
    ∃ pq, s.pendingQueries.get t.kind.key = some pq ∧ pq.doneTx = t.doneRx ∧
      ((∃ idx u j, wakeTask env s t = some (EdgeDns.retryPendingQuery
          { s with tasks := s.tasks.erase t,
                   registry := (failUpstream env s t.upstreamServerForQuery).registry }
          t.kind.key pq idx u j)) ∨
        wakeTask env s t = some (EdgeDns.settlePendingQuery env
          { s with tasks := s.tasks.erase t,
                   registry := (failUpstream env s t.upstreamServerForQuery).registry }
          t.kind.key pq)) := by
  obtain ⟨p, hp, hrx⟩ := Task.exists_of_not_cancelled harmed
  have hkey : t.kind.key = p.1 := (hi.armed t ht _ (List.mem_map_of_mem _ hp) hrx).2.1
  have hget : s.pendingQueries.get t.kind.key = some p.2 := hkey ▸ PendingQueries.get_of_mem hp
  refine ⟨p.2, hget, hrx, ?_⟩
  cases hk : t.kind with
  | firstAttempt nq ups =>
    refine .inl ?_
    obtain ⟨cq, hcq, rfl⟩ := hx.tasks t ht nq ups hk
    rw [hk] at hget
    obtain ⟨u, hu, j₀, hfu⟩ := hcand.get hcq (hx.entries p hp)
    rcases pickUpstream_spec nq (failUpstream env s t.upstreamServerForQuery).registry
      env.jumphasher true env.config.lbmode with ⟨hnil, -⟩ | ⟨-, idx, hidx, hpick⟩
    · exact absurd hnil hlive
    obtain ⟨u', hu', j, hj⟩ := hcand.get hcq
      ((Registry.live_lt _ idx hidx).trans_eq (length_failUpstream ..))
    refine ⟨idx, u', j, ?_⟩
    rw [wakeTask, hk]
    dsimp only
    rw [firstAttemptTimeout, failUpstream_tasks]
    exact futRetryQuery_eq_retry hget hu (by rw [find_failUpstream, hfu]) hpick hu'
      (by rw [find_failUpstream, hj])
  | retryAttempt key idx =>
    refine .inr ?_
    obtain ⟨j₀, hj₀⟩ := Option.isSome_iff_exists.mp (hd.tasks t ht).1
    simp only [hk, TaskKind.key] at hget ⊢
    rw [wakeTask, hk]
    simp [retryAttemptTimeout, failUpstream, hj₀, failAttempt, hget]

/-- **An armed wake-up keeps every entry awaited**, unless the failure it records leaves no
server live. -/
theorem AllAwaited.wake {r : Registry} (hw : AllAwaited s) (ha : ArmedReachable env r s)
    (hcand : CandidatesConfigured s) (ht : t ∈ s.tasks) (harmed : ¬ t.Cancelled s)
    (h : wakeTask env s t = some s') : AllAwaited s' ∨ s'.registry.live = [] := by
  by_cases hlive : (failUpstream env s t.upstreamServerForQuery).registry.live = []
  · exact .inr ((wakeTask_live h).trans hlive)
  have hreach := ha.reachable
  obtain ⟨pq, hget, hrx, ⟨idx, u, j, hs'⟩ | hs'⟩ :=
    wakeTask_armed ha.attemptInv hreach.indexInv hreach.destInv hcand ht harmed hlive <;>
    rw [h, Option.some.injEq] at hs' <;> subst hs' <;> refine .inl ?_
  · exact hw.retryPendingQuery hreach.channelInv hget hrx _ idx u j
  · exact hw.settlePendingQuery hreach.channelInv hget hrx _

end Armed

/-! ### Runs in which a server stays live -/

/-- The states of the armed runs from the start over registry `r` in which some server is
still live after every wake-up. -/
inductive LiveArmedReachable (env : Env) (r : Registry) : State → Prop
  /-- The start. -/
  | init : LiveArmedReachable env r (State.init r)
  /-- A client query arrives. -/
  | arrive {s s' : State} (nq : NormalizedQuestion) (ups : List UpstreamServerForQuery)
      (first pick : Nat) : LiveArmedReachable env r s →
      futProcessClientQuery env s nq ups first pick = some s' → LiveArmedReachable env r s'
  /-- A task whose channel an entry still holds wakes, and a server is still live after. -/
  | wake {s s' : State} (t : Task) : LiveArmedReachable env r s → t ∈ s.tasks →
      ¬ t.Cancelled s → wakeTask env s t = some s' → s'.registry.live ≠ [] →
      LiveArmedReachable env r s'
  /-- A response from server `i` reaches the response path. -/
  | recordSuccess {s : State} (i : Nat) (h : i < s.registry.servers.length) :
      LiveArmedReachable env r s →
        LiveArmedReachable env r { s with registry := s.registry.recordSuccess i h }
  /-- The clock moves forward. -/
  | tick {s : State} (now : Nat) : LiveArmedReachable env r s → s.clock ≤ now →
      LiveArmedReachable env r { s with clock := now }

/-- Such a run is armed. -/
theorem LiveArmedReachable.armed {env : Env} {r : Registry} {s : State}
    (h : LiveArmedReachable env r s) : ArmedReachable env r s := by
  induction h with
  | init => exact .init
  | arrive nq ups first pick _ h ih => exact ih.arrive nq ups first pick h
  | wake t _ ht harmed h _ ih => exact ih.wake t ht harmed h
  | recordSuccess i hi _ ih => exact ih.recordSuccess i hi
  | tick now _ hle ih => exact ih.tick now hle

/-- Every entry is awaited exactly when every channel an entry holds is awaited. -/
theorem allAwaited_iff {s : State} : AllAwaited s ↔ s.entryChannels ⊆ s.taskChannels := by
  refine ⟨fun hw c hc => ?_, fun hsub p hp => List.mem_map.mp (hsub (List.mem_map_of_mem _ hp))⟩
  obtain ⟨p, hp, rfl⟩ := List.mem_map.mp hc
  exact List.mem_map.mpr (hw p hp)

/-- An arrival keeps every entry awaited: a new entry comes with its first-attempt task. -/
theorem AllAwaited.arrive {env : Env} {s s' : State} (hw : AllAwaited s)
    {nq : NormalizedQuestion} {ups : List UpstreamServerForQuery} {first pick : Nat}
    (h : futProcessClientQuery env s nq ups first pick = some s') : AllAwaited s' := by
  rw [allAwaited_iff] at hw ⊢
  cases futProcessClientQuery_cases h with
  | allDown _ => exact hw
  | attached _ hcap _ =>
    have hsub := capPendingQueries_entryChannels hcap
    have ht := (capPendingQueries_tasks_sends hcap).1
    rw [State.entryChannels, entryChannels_modify _ _ (f := PendingQuery.addClientQuery _) fun _ => rfl]
    exact fun c hc => ht ▸ hw (hsub hc)
  | notConfigured _ hcap =>
    have hsub := capPendingQueries_entryChannels hcap
    have ht := (capPendingQueries_tasks_sends hcap).1
    exact fun c hc => ht ▸ hw (hsub hc)
  | created _ hcap =>
    have hsub := capPendingQueries_entryChannels hcap
    have ht := (capPendingQueries_tasks_sends hcap).1
    intro c hc
    simp only [State.entryChannels, createPendingQuery, PendingQueries.insert, List.map_append,
      List.mem_append, List.map_cons, List.map_nil, List.mem_singleton] at hc
    simp only [State.taskChannels, createPendingQuery, List.map_append, List.mem_append,
      List.map_cons, List.map_nil, List.mem_singleton]
    rcases hc with hc | rfl
    · exact .inl (ht ▸ hw (hsub ((entryChannels_remove_sublist _ _).subset hc)))
    · exact .inr rfl

/-- Candidate lists configured over a record of arrivals stay so over part of the record,
with the same servers. -/
theorem CandidatesConfigured.transfer {s s' : State} (h : CandidatesConfigured s)
    (ha : s'.arrived ⊆ s.arrived) (hn : s'.registry.servers.length = s.registry.servers.length)
    (hf : ∀ a, s'.registry.find a = s.registry.find a) : CandidatesConfigured s' := by
  intro cq hcq i hi
  simpa only [hf] using h cq (ha hcq) i (hn ▸ hi)

/-- An arrival keeps the servers. -/
theorem futProcessClientQuery_servers_length {env : Env} {s s' : State} {nq : NormalizedQuestion}
    {ups : List UpstreamServerForQuery} {first pick : Nat}
    (h : futProcessClientQuery env s nq ups first pick = some s') :
    s'.registry.servers.length = s.registry.servers.length := by
  cases futProcessClientQuery_cases h with
  | allDown _ => rfl
  | attached _ hcap _ => exact congrArg (·.servers.length) (capPendingQueries_registry hcap :)
  | notConfigured _ hcap => exact congrArg (·.servers.length) (capPendingQueries_registry hcap :)
  | created _ hcap =>
    rw [createPendingQuery, Registry.length_incPending]
    exact congrArg (·.servers.length) (capPendingQueries_registry hcap :)

/-- **While a server stays live, every entry keeps a task.** In every armed run in which some
server is still live after every wake-up, over client queries that name a configured server
at every server index, every entry of the table is awaited by a timer task on its current
channel. -/
theorem live_armed_runs_keep_entries_awaited {env : Env} {r : Registry} {s : State}
    (h : LiveArmedReachable env r s) (hcand : CandidatesConfigured s) : AllAwaited s := by
  induction h with
  | init => exact fun _ hp => nomatch hp
  | arrive _ _ _ _ _ h ih =>
    refine (ih (hcand.transfer ?_ (futProcessClientQuery_servers_length h).symm
      fun a => (futProcessClientQuery_find h a).symm)).arrive h
    rw [futProcessClientQuery_arrived h]
    exact List.subset_append_left _ _
  | wake t hs ht harmed h hlive ih =>
    have hc : CandidatesConfigured _ := hcand.transfer (wakeTask_arrived h ▸ List.Subset.refl _)
      (wakeTask_servers_length h).symm fun a => (wakeTask_find h a).symm
    exact ((ih hc).wake hs.armed hc ht harmed h).resolve_right hlive
  | recordSuccess i hi _ ih =>
    exact ih (hcand.transfer (List.Subset.refl _) (by simp) fun a => by simp)
  | tick _ _ _ ih => exact ih hcand

/-- Two client queries reach the small resolver, and the first one's first attempt times out
with its server still live: both entries are awaited, the retried one by its retry task. -/
theorem live_armed_runs_keep_entries_awaited_retried :
    ∃ s, LiveArmedReachable (smallEnv .fallback 10 10 (by decide)) .single s ∧
      s.pendingQueries.entries.length = 2 ∧ CandidatesConfigured s ∧ AllAwaited s := by
  have h₁ : LiveArmedReachable (smallEnv .fallback 10 10 (by decide)) .single _ :=
    .arrive ⟨1, 0, 0⟩ [⟨1⟩] 0 0 (.arrive ⟨0, 0, 0⟩ [⟨1⟩] 0 0 .init rfl) rfl
  have h₂ := h₁.wake ⟨0, 0, ⟨1⟩, .firstAttempt ⟨0, 0, 0⟩ [⟨1⟩]⟩ (by decide) (by decide) rfl
    (by decide)
  exact ⟨_, h₂, rfl, by decide, live_armed_runs_keep_entries_awaited h₂ (by decide)⟩

/-! ### The armed timers run out, in every order -/

/-- One armed wake-up keeps every entry awaited or the live list empty: once no server is
live, failures keep it so. -/
theorem AllAwaited.wake_or_allDown {env : Env} {r : Registry} {s s' : State} {t : Task}
    (ha : ArmedReachable env r s) (hcand : CandidatesConfigured s)
    (hw : AllAwaited s ∨ s.registry.live = []) (ht : t ∈ s.tasks) (harmed : ¬ t.Cancelled s)
    (h : wakeTask env s t = some s') : AllAwaited s' ∨ s'.registry.live = [] :=
  hw.elim (fun hw => hw.wake ha hcand ht harmed h) fun hl => .inr (List.eq_nil_of_sublist_nil
    ((wakeTask_live h).symm ▸ hl ▸ live_failUpstream_sublist ..))

/-- **Every sequence of armed wake-ups** spends one unit of the wake budget at least per
wake-up, stays in an armed run over configured candidates, and keeps every entry awaited
or no server live. -/
theorem ArmedWakes.invariant {env : Env} {r : Registry} {n : Nat} {s s' : State}
    (hs : ArmedWakes env n s s') (h : ArmedReachable env r s) (hcand : CandidatesConfigured s)
    (hw : AllAwaited s ∨ s.registry.live = []) :
    n + s'.wakeBudget ≤ s.wakeBudget ∧ ArmedReachable env r s' ∧ CandidatesConfigured s' ∧
      (AllAwaited s' ∨ s'.registry.live = []) := by
  induction hs with
  | refl => exact ⟨by omega, h, hcand, hw⟩
  | wake t ht harmed hw₁ _ ih =>
    have hlt := (wakeTask_costs ht hw₁).2.2.2
    obtain ⟨hb, h', hc', hw'⟩ := ih (h.wake t ht harmed hw₁) (hcand.wake hw₁)
      (AllAwaited.wake_or_allDown h hcand hw ht harmed hw₁)
    exact ⟨by omega, h', hc', hw'⟩

/-- Armed wake-ups can go on until every task left is cancelled: over configured candidates
no wake-up panics, and each spends the wake budget. -/
theorem armed_drain {env : Env} {r : Registry} {s : State} (h : ArmedReachable env r s)
    (hcand : CandidatesConfigured s) :
    ∃ n s', ArmedWakes env n s s' ∧ ∀ t ∈ s'.tasks, t.Cancelled s' := by
  rcases em (∃ t ∈ s.tasks, ¬ t.Cancelled s) with ⟨t, ht, harmed⟩ | hex
  · obtain ⟨s₁, hw₁⟩ := Option.isSome_iff_exists.mp
      (wakeTask_isSome h.reachable.indexInv (fun _ hcq => hcand.length_le hcq) ht)
    have hlt := (wakeTask_costs ht hw₁).2.2.2
    obtain ⟨n, s', hs', hrest⟩ := armed_drain (h.wake t ht harmed hw₁) (hcand.wake hw₁)
    exact ⟨n + 1, s', .wake t ht harmed hw₁ hs', hrest⟩
  · push_neg at hex
    exact ⟨0, s, .refl s, hex⟩
termination_by s.wakeBudget

/-- **While a server is live, the timers answer every client, in whatever order they
run.** Take a state of an armed run in which every entry is awaited by a task and every
client query received names a configured server at every server index. The tasks whose
receivers are not cancelled can be woken one after another until none is left. Whatever
the order, no such wake-up panics, and every such sequence stops within twice as many
wake-ups as there are tasks. Every state it reaches with no such task left has, unless
the failures recorded on the way emptied the live list, an empty table, and every client
query received has been answered or abandoned. -/
theorem armed_timers_answer_every_client {env : Env} {r : Registry} {s : State}
    (h : ArmedReachable env r s) (hcand : CandidatesConfigured s) (hw : AllAwaited s) :
    (∃ n s', ArmedWakes env n s s' ∧ ∀ t ∈ s'.tasks, t.Cancelled s') ∧
      ∀ n s', ArmedWakes env n s s' →
        n ≤ 2 * s.tasks.length ∧
        (∀ t ∈ s'.tasks, ¬ t.Cancelled s' → (wakeTask env s' t).isSome) ∧
        ((∀ t ∈ s'.tasks, t.Cancelled s') → s'.registry.live = [] ∨
          s'.pendingQueries.entries = [] ∧ ∀ cq ∈ s'.arrived, statusOf s' cq.id ≠ .waiting) := by
  refine ⟨armed_drain h hcand, fun n s' hs' => ?_⟩
  obtain ⟨hn, h', hcand', hw'⟩ := hs'.invariant h hcand (.inl hw)
  have hfirst : s.firstAttempts ≤ s.tasks.length := List.countP_le_length _
  refine ⟨by unfold State.wakeBudget at hn; omega,
    fun t ht _ => wakeTask_isSome h'.reachable.indexInv (fun _ hcq => hcand'.length_le hcq) ht,
    fun hcanc => hw'.symm.imp_right fun hw' => ?_⟩
  have hnil : s'.pendingQueries.entries = [] := List.eq_nil_iff_forall_not_mem.mpr fun p hp => by
    obtain ⟨t, ht, hrx⟩ := hw' p hp
    exact hcanc t ht p hp hrx.symm
  refine ⟨hnil, fun cq hcq hwait => ?_⟩
  obtain ⟨p, hp, -⟩ := (h'.reachable.statusOf_eq_waiting_iff hcq).mp hwait
  exact List.not_mem_nil _ (hnil ▸ hp)

/-- Two client queries with different fingerprints reach the small resolver, each entry
awaited by its first-attempt task. The second one's timer runs out first, then the first
one's, and their retries time out in the other order: four armed wake-ups leave no task,
and both clients are answered. -/
theorem armed_timers_answer_every_client_any_order :
    ∃ s s', ArmedReachable (smallEnv .fallback 10 10 (by decide)) .single s ∧
      s.tasks.length = 2 ∧ CandidatesConfigured s ∧ AllAwaited s ∧
      ArmedWakes (smallEnv .fallback 10 10 (by decide)) 4 s s' ∧ s'.tasks = [] ∧
      ((∃ n s', ArmedWakes (smallEnv .fallback 10 10 (by decide)) n s s' ∧
          ∀ t ∈ s'.tasks, t.Cancelled s') ∧
        ∀ n s', ArmedWakes (smallEnv .fallback 10 10 (by decide)) n s s' →
          n ≤ 2 * s.tasks.length ∧
          (∀ t ∈ s'.tasks, ¬ t.Cancelled s' →
            (wakeTask (smallEnv .fallback 10 10 (by decide)) s' t).isSome) ∧
          ((∀ t ∈ s'.tasks, t.Cancelled s') → s'.registry.live = [] ∨
            s'.pendingQueries.entries = [] ∧
              ∀ cq ∈ s'.arrived, statusOf s' cq.id ≠ .waiting)) := by
  have h : ArmedReachable (smallEnv .fallback 10 10 (by decide)) .single _ :=
    .arrive ⟨1, 0, 0⟩ [⟨1⟩] 0 0 (.arrive ⟨0, 0, 0⟩ [⟨1⟩] 0 0 .init rfl) rfl
  refine ⟨_, _, h, rfl, by decide, by decide,
    .wake ⟨1, 1, ⟨1⟩, .firstAttempt ⟨1, 0, 0⟩ [⟨1⟩]⟩ (by decide) (by decide) rfl
      (.wake ⟨0, 0, ⟨1⟩, .firstAttempt ⟨0, 0, 0⟩ [⟨1⟩]⟩ (by decide) (by decide) rfl
        (.wake ⟨3, 0, ⟨1⟩, .retryAttempt ⟨0, (0, 0)⟩ 0⟩ (by decide) (by decide) rfl
          (.wake ⟨2, 1, ⟨1⟩, .retryAttempt ⟨1, (0, 0)⟩ 0⟩ (by decide) (by decide) rfl
            (.refl _)))),
    rfl, armed_timers_answer_every_client h (by decide) (by decide)⟩

end EdgeDns
