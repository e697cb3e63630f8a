import EdgeDns.PendingCounts
import EdgeDns.InBounds

/-!
# What a client query costs

Each client query sets off a bounded amount of work, whatever the timers do:

* `fut_process_client_query` sends at most one probe and one primary query, and arms a
  first-attempt task with the primary and only then;
* the first-attempt closure sends at most one retry, and arms a retry task with it and
  only then;
* the retry closure sends nothing and arms nothing.

So a first-attempt task still on the reactor stands for the retry it may yet send. The
invariant `EdgeDns.SendsInv` counts it so: the core has sent no more probes and no more
primaries than it has received client queries, and the retries sent together with the
first-attempt tasks waiting are at most the primaries. In every reachable state the core
has thus sent no more retries than primaries (`EdgeDns.sends_per_client_query`). These are
totals, not counts per query: a stale timer may retry an entry that is not its own
(`EdgeDns.stale_timer_sends_third_attempt`), and the retry it sends is then one its own
primary will never get.

Counting a first-attempt task twice – for its own wake-up and for the retry task it may
arm – gives the wake budget `EdgeDns.State.wakeBudget`. Every wake-up lowers it, whatever
its closure does, and only an arrival raises it, by two at most
(`EdgeDns.Event.wakeBudget_apply`). Over every run the wake-ups are at most the budget at
the start and two per arrival (`EdgeDns.wakes_le_budget`). And from every reachable state in
which no wake-up panics, waking the oldest task again and again empties the reactor within
twice as many wake-ups as there are tasks (`EdgeDns.reactor_drains`): no chain of timers
runs forever.
-/

namespace EdgeDns

/-! ### Packets and tasks by kind -/

/-- The packet is a probe. -/
def Send.isProbe : Send → Bool
  | .probe _ => true
  | _ => false

/-- The packet is the primary query of an entry. -/
def Send.isPrimary : Send → Bool
  | .primary _ _ => true
  | _ => false

/-- The packet is the retry of an entry. -/
def Send.isRetry : Send → Bool
  | .retry _ _ => true
  | _ => false

/-- The first-attempt tasks on the reactor. -/
def State.firstAttempts (s : State) : Nat :=
  s.tasks.countP fun t => t.kind.isFirstAttempt

/-- **The wake budget**: each task on the reactor once, and each first-attempt task once more
for the retry task its closure may arm. -/
def State.wakeBudget (s : State) : Nat :=
  s.tasks.length + s.firstAttempts

/-- The probes a call of `maybe_send_probe_to_offline_servers` sends are at most one. -/
theorem length_le_one_of_maybeSendProbeToOfflineServers {env : Env} {s : State}
    {ups : List UpstreamServerForQuery} {pick : Nat} {l : List Nat} {probe : Option Nat}
    (h : maybeSendProbeToOfflineServers env s ups pick =
      ({ s with sends := s.sends ++ l.map Send.probe }, probe)) : l.length ≤ 1 := by
  have hlen := congrArg (fun x => x.1.sends.length) h
  rcases maybeSendProbeToOfflineServers_cases env s ups pick with h' | ⟨_, -, -, -, -, -, h'⟩ <;>
    · rw [h'] at hlen
      simp only [List.length_append, List.length_map, List.length_singleton] at hlen
      omega

/-! ### What each step costs -/

section Costs

variable {env : Env} {s s' : State}

/-- **What an arrival costs**: at most one probe, and at most one primary query, sent
together with its first-attempt task. -/
theorem futProcessClientQuery_costs {nq : NormalizedQuestion} {ups : List UpstreamServerForQuery}
    {first pick : Nat} (h : futProcessClientQuery env s nq ups first pick = some s') :
    s'.arrived.length = s.arrived.length + 1 ∧
      s'.sends.countP Send.isProbe ≤ s.sends.countP Send.isProbe + 1 ∧
      s'.sends.countP Send.isRetry = s.sends.countP Send.isRetry ∧
      ∃ n ≤ 1, s'.sends.countP Send.isPrimary = s.sends.countP Send.isPrimary + n ∧
        s'.tasks.length = s.tasks.length + n ∧ s'.firstAttempts = s.firstAttempts + n := by
  refine ⟨by simp [futProcessClientQuery_arrived h], ?_⟩
  cases futProcessClientQuery_cases h with
  | allDown _ => exact ⟨by simp [maybeRespondWithStaleEntry], rfl, 0, zero_le_one, rfl, rfl, rfl⟩
  | attached _ hcap _ =>
    obtain ⟨ht, hs⟩ := capPendingQueries_tasks_sends hcap
    refine ⟨?_, ?_, 0, zero_le_one, ?_, ?_, ?_⟩ <;>
      simp [State.firstAttempts, ht, hs]
  | notConfigured _ hcap _ _ hl =>
    have hl1 := length_le_one_of_maybeSendProbeToOfflineServers hl
    obtain ⟨ht, hs⟩ := capPendingQueries_tasks_sends hcap
    refine ⟨?_, ?_, 0, zero_le_one, ?_, ?_, ?_⟩ <;>
      simp [State.firstAttempts, ht, hs, List.countP_map, Function.comp_def, Send.isProbe,
        Send.isPrimary, Send.isRetry, hl1]
  | created _ hcap _ _ hl =>
    have hl1 := length_le_one_of_maybeSendProbeToOfflineServers hl
    obtain ⟨ht, hs⟩ := capPendingQueries_tasks_sends hcap
    refine ⟨?_, ?_, 1, le_rfl, ?_, ?_, ?_⟩ <;>
      simp [createPendingQuery, State.firstAttempts, ht, hs, List.countP_map, Function.comp_def,
        Send.isProbe, Send.isPrimary, Send.isRetry, TaskKind.isFirstAttempt, hl1]

/-- **What a wake-up costs**: no probe and no primary; a retry only for the first-attempt
task it consumes; and one unit of the wake budget at least. -/
theorem wakeTask_costs {t : Task} (ht : t ∈ s.tasks) (h : wakeTask env s t = some s') :
    s'.sends.countP Send.isProbe = s.sends.countP Send.isProbe ∧
      s'.sends.countP Send.isPrimary = s.sends.countP Send.isPrimary ∧
      s'.sends.countP Send.isRetry + s'.firstAttempts ≤
        s.sends.countP Send.isRetry + s.firstAttempts ∧
      s'.wakeBudget < s.wakeBudget := by
  have hlen := List.length_erase_of_mem ht
  have hpos := List.length_pos_of_mem ht
  have hfirst := countP_eq_countP_erase (p := fun t : Task => t.kind.isFirstAttempt) ht
  cases wakeTask_cases h with
  | failed =>
    refine ⟨rfl, rfl, ?_, ?_⟩ <;> simp only [State.wakeBudget, State.firstAttempts] at hfirst ⊢ <;>
      split_ifs at hfirst <;> omega
  | retried hk =>
    simp only [State.wakeBudget, State.firstAttempts, hk, TaskKind.isFirstAttempt, if_true] at hfirst
    simp [retryPendingQuery, State.wakeBudget, State.firstAttempts, Send.isProbe, Send.isPrimary,
      Send.isRetry, TaskKind.isFirstAttempt, List.countP_append]
    omega
  | @settled _ _ pq _ _ _ =>
    have hf := List.filter_sublist (p := fun t' : Task => decide (t'.doneRx ≠ pq.doneTx))
      (s.tasks.erase t)
    have := hf.length_le
    have := hf.countP_le (fun t : Task => t.kind.isFirstAttempt)
    simp only [State.wakeBudget, State.firstAttempts, settlePendingQuery_eq, true_and] at hfirst ⊢
    split_ifs at hfirst <;> omega

end Costs

/-! ### Packets sent, in total -/

/-- **The packet invariant**: no more probes and no more primaries than client queries
received, and the retries sent, with the first-attempt tasks that may still send one, at
most the primaries. -/
structure SendsInv (s : State) : Prop where
  /-- No more probes than client queries. -/
  probes : s.sends.countP Send.isProbe ≤ s.arrived.length
  /-- No more primaries than client queries. -/
  primaries : s.sends.countP Send.isPrimary ≤ s.arrived.length
  /-- No more retries than primaries, counting those the first-attempt tasks may send. -/
  retries : s.sends.countP Send.isRetry + s.firstAttempts ≤ s.sends.countP Send.isPrimary

theorem SendsInv.step {env : Env} {s s' : State} (hi : SendsInv s) (h : Step env s s') :
    SendsInv s' := by
  obtain ⟨hp, hq, hr⟩ := hi
  cases h with
  | arrive _ _ _ _ h =>
    obtain ⟨ha, hp', hr', n, hn, hq', -, hf⟩ := futProcessClientQuery_costs h
    exact ⟨by omega, by omega, by omega⟩
  | wake _ ht h =>
    obtain ⟨hp', hq', hr', -⟩ := wakeTask_costs ht h
    have ha := congrArg List.length (wakeTask_arrived h)
    exact ⟨by omega, by omega, by omega⟩
  | recordSuccess => exact ⟨hp, hq, hr⟩
  | tick => exact ⟨hp, hq, hr⟩

theorem Reachable.sendsInv {env : Env} {s : State} (h : Reachable env s) : SendsInv s := by
  induction h with
  | init r => exact ⟨le_rfl, le_rfl, le_rfl⟩
  | step _ hs ih => exact ih.step hs

/-- **No more packets than the client queries call for.** In every reachable state the
core has sent no more probes and no more primary queries than it has received client
queries, and no more retries than primary queries. -/
theorem sends_per_client_query {env : Env} {s : State} (h : Reachable env s) :
    s.sends.countP Send.isProbe ≤ s.arrived.length ∧
      s.sends.countP Send.isPrimary ≤ s.arrived.length ∧
      s.sends.countP Send.isRetry ≤ s.sends.countP Send.isPrimary :=
  have hi := h.sendsInv
  ⟨hi.probes, hi.primaries, le_of_add_le_left hi.retries⟩

/-- One client query reaches the small resolver, its first attempt times out and its retry
times out: the core has sent a probe, the primary and the retry, and answered the client. -/
theorem sends_per_client_query_retried :
    ∃ s, Reachable (smallEnv .fallback 10 10 (by decide)) s ∧
      s.sends = [.probe 1, .primary 0 1, .retry 0 1] ∧ s.arrived.length = 1 ∧
      (s.sends.countP Send.isProbe ≤ s.arrived.length ∧
        s.sends.countP Send.isPrimary ≤ s.arrived.length ∧
        s.sends.countP Send.isRetry ≤ s.sends.countP Send.isPrimary) := by
  have hr := (Reachable.init .single : Reachable (smallEnv .fallback 10 10 (by decide)) _).run
    [.arrive ⟨0, 0, 0⟩ [⟨1⟩] 0 0, .wake 0, .wake 0] rfl
  exact ⟨_, hr, rfl, rfl, sends_per_client_query hr⟩

/-! ### Wake-ups, in total -/

/-- The event is the arrival of a client query. -/
def Event.isArrive : Event → Bool
  | .arrive .. => true
  | _ => false

/-- The event is a wake-up. -/
def Event.isWake : Event → Bool
  | .wake _ => true
  | _ => false

/-- A wake-up lowers the wake budget, an arrival raises it by two at most, and nothing
else moves it. -/
theorem Event.wakeBudget_apply {env : Env} {s s' : State} {ev : Event}
    (h : ev.apply env s = some s') :
    s'.wakeBudget + (if ev.isWake then 1 else 0) ≤ s.wakeBudget + if ev.isArrive then 2 else 0 := by
  cases ev with
  | arrive =>
    obtain ⟨-, -, -, n, hn, -, hl, hf⟩ := futProcessClientQuery_costs h
    simp only [State.wakeBudget, isWake, isArrive, hl, hf, Bool.false_eq_true, ↓reduceIte]
    omega
  | wake k =>
    obtain ⟨t, ht, hw⟩ := Option.bind_eq_some.mp h
    have := (wakeTask_costs (List.get?_mem ht) hw).2.2.2
    simp only [isWake, isArrive, Bool.false_eq_true, ↓reduceIte]
    omega
  | recordSuccess i =>
    simp only [Event.apply] at h
    split at h <;> cases h
    exact le_rfl
  | tick now =>
    simp only [Event.apply] at h
    split at h <;> cases h
    exact le_rfl

/-- **Every run wakes at most the budget at its start and twice its arrivals.** Whatever
the order of arrivals and wake-ups, the wake-ups of a run are at most its starting state's
wake budget and twice its arrivals; from the start of a resolver, where the budget is
`0`, at most twice the client queries received. -/
theorem wakes_le_budget {env : Env} :
    ∀ {s s' : State} (evs : List Event), run env s evs = some s' →
      evs.countP Event.isWake + s'.wakeBudget ≤ s.wakeBudget + 2 * evs.countP Event.isArrive
  | _, _, [], h => by cases h; simp
  | _, _, ev :: evs, h => by
    obtain ⟨s₁, h₁, h₂⟩ := Option.bind_eq_some.mp h
    have hrest := wakes_le_budget evs h₂
    have hstep := Event.wakeBudget_apply h₁
    simp only [List.countP_cons]
    split_ifs at hstep ⊢ <;> omega

/-- A client query reaches the small resolver, and its two timers run out: two wake-ups
for one arrival, and no task left. -/
theorem wakes_le_budget_one_arrival :
    ∃ s, run (smallEnv .fallback 10 10 (by decide)) (State.init .single)
        [.arrive ⟨0, 0, 0⟩ [⟨1⟩] 0 0, .wake 0, .wake 0] = some s ∧ s.tasks = [] ∧
      [Event.arrive ⟨0, 0, 0⟩ [⟨1⟩] 0 0, .wake 0, .wake 0].countP Event.isWake + s.wakeBudget ≤
        (State.init .single).wakeBudget +
          2 * [Event.arrive ⟨0, 0, 0⟩ [⟨1⟩] 0 0, .wake 0, .wake 0].countP Event.isArrive :=
  ⟨_, rfl, rfl, @wakes_le_budget (smallEnv .fallback 10 10 (by decide)) _ _ _ rfl⟩

/-! ### The reactor drains -/

/-- A wake-up leaves the servers configured. -/
theorem wakeTask_servers_length {env : Env} {s s' : State} {t : Task}
    (h : wakeTask env s t = some s') : s'.registry.servers.length = s.registry.servers.length := by
  cases wakeTask_cases h with
  | failed => exact length_failUpstream ..
  | retried => simp [retryPendingQuery]
  | settled => simp [settlePendingQuery_eq]

/-- From a reachable state where no wake-up panics, waking the oldest task again and again
empties the reactor within the wake budget. -/
theorem drain_within_wakeBudget {env : Env} {s : State} (h : Reachable env s)
    (hcover : ∀ cq ∈ s.arrived, s.registry.servers.length ≤ cq.upstreamServersForQuery.length) :
    ∃ n ≤ s.wakeBudget, ∃ s', run env s (List.replicate n (.wake 0)) = some s' ∧ s'.tasks = [] := by
  cases hts : s.tasks with
  | nil => exact ⟨0, Nat.zero_le _, s, rfl, hts⟩
  | cons t ts =>
    have ht : t ∈ s.tasks := hts ▸ List.mem_cons_self t ts
    obtain ⟨s₁, hw⟩ := Option.isSome_iff_exists.mp (wakeTask_isSome h.indexInv hcover ht)
    have hlt := (wakeTask_costs ht hw).2.2.2
    obtain ⟨n, hn, s', hrun, hnil⟩ := drain_within_wakeBudget (h.step (.wake t ht hw))
      (by rw [wakeTask_arrived hw, wakeTask_servers_length hw]; exact hcover)
    refine ⟨n + 1, by omega, s', ?_, hnil⟩
    simp [List.replicate_succ, run, Event.apply, hts, hw, hrun]
termination_by s.wakeBudget

/-- **The reactor drains.** From every reachable state in which every client query received
has a candidate list with a position for every configured server – so that no wake-up
panics – waking the oldest task on the reactor again and again leaves no task, within
twice as many wake-ups as there are tasks. -/
theorem reactor_drains {env : Env} {s : State} (h : Reachable env s)
    (hcover : ∀ cq ∈ s.arrived, s.registry.servers.length ≤ cq.upstreamServersForQuery.length) :
    ∃ n ≤ 2 * s.tasks.length, ∃ s', run env s (List.replicate n (.wake 0)) = some s' ∧
      s'.tasks = [] := by
  obtain ⟨n, hn, hrest⟩ := drain_within_wakeBudget h hcover
  have : s.firstAttempts ≤ s.tasks.length := List.countP_le_length _
  exact ⟨n, by unfold State.wakeBudget at hn; omega, hrest⟩

/-- Two client queries with different fingerprints reach the small resolver: their two
first-attempt tasks, and the retry tasks these arm, run out within four wake-ups. -/
theorem reactor_drains_two_arrivals :
    ∃ s, Reachable (smallEnv .fallback 10 10 (by decide)) s ∧ s.tasks.length = 2 ∧
      (∀ cq ∈ s.arrived, s.registry.servers.length ≤ cq.upstreamServersForQuery.length) ∧
      ∃ n ≤ 2 * s.tasks.length, ∃ s', run (smallEnv .fallback 10 10 (by decide)) s
        (List.replicate n (.wake 0)) = some s' ∧ s'.tasks = [] := by
  have hr := (Reachable.init .single : Reachable (smallEnv .fallback 10 10 (by decide)) _).run
    [.arrive ⟨0, 0, 0⟩ [⟨1⟩] 0 0, .arrive ⟨1, 0, 0⟩ [⟨1⟩] 0 0] rfl
  exact ⟨_, hr, rfl, by decide, reactor_drains hr (by decide)⟩

end EdgeDns
