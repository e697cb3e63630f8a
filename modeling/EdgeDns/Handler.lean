import EdgeDns.PickUpstream
import EdgeDns.PendingQueries

/-!
# The client queries handler

`ClientQueriesHandler` as a state machine. The state (`EdgeDns.State`) is what the
handler's clones share – the pending table, the registry with its live list, the
`waiting_clients_count` atomic and the `inflight_queries` gauge – together with the
timer tasks spawned on the reactor and not yet run.

The reactor runs one task at a time, and each of the handler's functions runs to
completion inside one task, so a step of the machine is one whole function:

* `EdgeDns.futProcessClientQuery` – a client query arrives from the listeners'
  channel (`fut_process_stream` calls `fut_process_client_query` on it at once);
* `EdgeDns.wakeTask` – a timer task wakes and its `or_else` closure runs. The
  first-attempt closure (`EdgeDns.firstAttemptTimeout`) ends in `fut_retry_query`
  (`EdgeDns.futRetryQuery`); the retry closure is `EdgeDns.retryAttemptTimeout`.

A timer task races its completion receiver against a timer, and its closure runs on
*any* error of that race: the timer expiring, and equally the receiver being cancelled
because the sender `done_tx` was dropped (`done_rx.map_err(|_| ())` maps the
cancellation to the same error). The sender is dropped when its entry is evicted, and
when a retry replaces it. So a task may wake whenever the scheduler runs it: the model
lets any task in `EdgeDns.State.tasks` wake at any step. It can only be prevented from
running by its sender *firing*, which is what the retry closure does to the entry it
removes; the tasks on that channel leave the list then.

Channels are named by numbers drawn from `EdgeDns.State.fresh`; a pending entry holds
its current channel in `doneTx`, and a task awaits the channel `doneRx`.

Runs are given twice: as the relation `EdgeDns.Reachable`, which the invariants are
proved over, and as the interpreter `EdgeDns.run` over a list of events, which computes
the concrete runs of the later modules. The two reach the same states
(`EdgeDns.reachable_iff_run`).
-/

namespace EdgeDns

/-! ### Timer tasks -/

/-- Which timer chain a task belongs to, with what its closure holds besides the upstream. -/
inductive TaskKind where
  /-- The first-attempt chain of `fut_process_client_query`: its closure holds the
  question and the query's candidate upstreams, and runs `fut_retry_query`. -/
  | firstAttempt (normalizedQuestion : NormalizedQuestion)
      (upstreamServersForQuery : List UpstreamServerForQuery)
  /-- The retry chain of `fut_retry_query`: its closure holds the entry's key and the
  retry's server index. -/
  | retryAttempt (key : PendingQueryKey) (upstreamServerIdx : Nat)
deriving DecidableEq, Repr

/-- A timer task waiting on the reactor. -/
structure Task where
  /-- The completion channel it awaits. -/
  doneRx : Nat
  /-- The entry whose attempt armed it. Ghost. -/
  inst : Nat
  /-- The upstream of the attempt, which its closure holds. -/
  upstreamServerForQuery : UpstreamServerForQuery
  /-- The chain it belongs to. -/
  kind : TaskKind
deriving DecidableEq, Repr

/-! ### The state -/

/-- The state the handler's clones share, the tasks on the reactor, and the ghost
records of a run. -/
structure State where
  /-- `pending_queries.map_arc`. -/
  pendingQueries : PendingQueries
  /-- `upstream_servers_arc` and `upstream_servers_live_arc`. -/
  registry : Registry
  /-- `waiting_clients_count`. -/
  waitingClientsCount : Nat
  /-- The `inflight_queries` gauge. -/
  inflightQueries : Int
  /-- The timer tasks spawned and not yet run. -/
  tasks : List Task
  /-- `Instant::recent()`, in milliseconds. -/
  clock : Nat
  /-- The next channel to allocate. -/
  fresh : Nat
  /-- The client queries received so far, in order. Ghost. -/
  arrived : List ClientQuery
  /-- The responses the core produced, by client. Ghost. -/
  responses : List (Nat × Reply)
  /-- The clients abandoned without a response, by client. Ghost. -/
  abandoned : List (Nat × Abandon)
  /-- The packets sent upstream. Ghost. -/
  sends : List Send

/-- The state a resolver starts in over a registry: no entry, no task, counters at zero. -/
def State.init (r : Registry) : State where
  pendingQueries := .empty
  registry := r
  waitingClientsCount := 0
  inflightQueries := 0
  tasks := []
  clock := 0
  fresh := 0
  arrived := []
  responses := []
  abandoned := []
  sends := []

/-! ### Responses -/

/-- The response `maybe_respond_with_stale_entry` sends for a question: a cached entry
if there is one, else a SERVFAIL, else nothing. -/
def staleReply (env : Env) (nq : NormalizedQuestion) : Reply :=
  match env.cache nq with
  | some packet => .stale packet
  | none =>
    match env.buildServfailPacket nq with
    | some packet => .servfail packet
    | none => .dropped

/-- `maybe_respond_with_stale_entry`. -/
def maybeRespondWithStaleEntry (env : Env) (s : State) (cq : ClientQuery) : State :=
  { s with responses := s.responses ++ [(cq.id, staleReply env cq.normalizedQuestion)] }

/-- `maybe_respond_to_all_clients_with_stale_entry`: one response per attached client. -/
def maybeRespondToAllClientsWithStaleEntry (env : Env) (s : State) (pq : PendingQuery) : State :=
  pq.clientQueries.foldl (maybeRespondWithStaleEntry env) s

/-! ### Admission and coalescing -/

/-- `cap_pending_queries`: at the limit, evict the entry `map.keys().next()` names – the
position `first` of the iteration order – and subtract its clients. `none` is the
`assert!` failing. -/
def capPendingQueries (env : Env) (s : State) (first : Nat) : Option (Bool × State) :=
  if s.waitingClientsCount < env.config.maxWaitingClients then some (false, s) else
  match s.pendingQueries.nthKey first with
  | none => some (false, s)
  | some key =>
    match s.pendingQueries.get key with
    | none => some (true, s)
    | some pq =>
      let clientsCount := pq.clientQueries.length
      let prevCount := s.waitingClientsCount
      if clientsCount ≤ prevCount then
        some (true, { s with
          pendingQueries := s.pendingQueries.remove key
          inflightQueries := s.inflightQueries - 1
          waitingClientsCount := usizeWrappingSub prevCount clientsCount
          abandoned := s.abandoned ++ pq.clientQueries.map fun cq => (cq.id, .evicted) })
      else none

/-- `pending_query.client_queries.push(client_query.clone())`. -/
def PendingQuery.addClientQuery (cq : ClientQuery) (pq : PendingQuery) : PendingQuery :=
  { pq with clientQueries := pq.clientQueries ++ [cq] }

/-- `maybe_add_to_existing_pending_query`. -/
def maybeAddToExistingPendingQuery (s : State) (key : PendingQueryKey) (cq : ClientQuery) :
    Bool × State :=
  match s.pendingQueries.get key with
  | none => (false, s)
  | some _ =>
    (true, { s with
      pendingQueries := s.pendingQueries.modify key (PendingQuery.addClientQuery cq)
      waitingClientsCount := usizeWrappingAdd s.waitingClientsCount 1 })

/-! ### Probes -/

/-- `maybe_send_probe_to_offline_servers`. Every candidate the registry knows is
collected – the filter keeps the configured ones, live or not – and one of them, at the
random position `pick`, is probed unless it was probed less than
`UPSTREAM_PROBES_DELAY_MS` ago. The candidates are copies taken out of the registry
(`Some(&upstream_server) => Some(upstream_server)`), so the new `last_probe_ts` is
written to the copy and the registry is left as it was. -/
def maybeSendProbeToOfflineServers (env : Env) (s : State) (ups : List UpstreamServerForQuery)
    (pick : Nat) : State × Option Nat :=
  if ups.isEmpty then (s, none) else
  let offlineServers := ups.filterMap fun u =>
    (s.registry.find u.socketAddr).bind s.registry.servers.get?
  match offlineServers.get? (pick % offlineServers.length) with
  | none => (s, none)
  | some srv =>
    if srv.lastProbeTs.any fun ts => s.clock - ts < env.upstreamProbesDelayMs then (s, none)
    else ({ s with sends := s.sends ++ [.probe srv.socketAddr] }, some srv.socketAddr)

/-! ### The first attempt -/

/-- The entry a first attempt creates, and what is registered with it: the counters,
the server's pending count, the packet sent and the timer task armed. -/
def createPendingQuery (s : State) (key : PendingQueryKey) (cq : ClientQuery) (idx : Nat)
    (probe : Option Nat) (u : UpstreamServerForQuery) (j : Nat) : State :=
  let c := s.fresh
  { s with
    fresh := c + 1
    waitingClientsCount := usizeWrappingAdd s.waitingClientsCount 1
    inflightQueries := s.inflightQueries + 1
    registry := s.registry.incPending j
    pendingQueries := s.pendingQueries.insert key ⟨[cq], idx, probe, c, c⟩
    sends := s.sends ++ [.primary c u.socketAddr]
    tasks := s.tasks ++ [⟨c, c, u, .firstAttempt cq.normalizedQuestion cq.upstreamServersForQuery⟩] }

/-- `fut_process_client_query`, for the client query with question `nq` and candidate
upstreams `ups`. `first` is the table position eviction would take and `pick` the
random probe position. `none` is a panic. -/
def futProcessClientQuery (env : Env) (s : State) (nq : NormalizedQuestion)
    (ups : List UpstreamServerForQuery) (first pick : Nat) : Option State :=
  let cq : ClientQuery := ⟨s.arrived.length, nq, ups⟩
  let s := { s with arrived := s.arrived ++ [cq] }
  if s.registry.live.isEmpty then some (maybeRespondWithStaleEntry env s cq) else
  let key := nq.pendingQueryKey
  match capPendingQueries env s first with
  | none => none
  | some (_, s) =>
  match maybeAddToExistingPendingQuery s key cq with
  | (true, s) => some s
  | (false, s) =>
  match newPendingQuery env s.registry nq false with
  | .error _ => some s
  | .ok idx =>
  let (s, probe) := maybeSendProbeToOfflineServers env s ups pick
  match ups.get? idx with
  | none => none
  | some u =>
  match s.registry.find u.socketAddr with
  | none => some { s with abandoned := s.abandoned ++ [(cq.id, .notConfigured)] }
  | some j => some (createPendingQuery s key cq idx probe u j)

/-! ### The retry -/

/-- The retry `fut_retry_query` registers: the entry moves to server index `idx` and a
new channel (dropping its old sender), the server's pending count grows, the packet is
sent and the retry's timer task armed. -/
def retryPendingQuery (s : State) (key : PendingQueryKey) (pq : PendingQuery) (idx : Nat)
    (u : UpstreamServerForQuery) (j : Nat) : State :=
  let c := s.fresh
  { s with
    fresh := c + 1
    registry := s.registry.incPending j
    pendingQueries := s.pendingQueries.modify key fun pq =>
      { pq with upstreamServerIdx := idx, doneTx := c }
    sends := s.sends ++ [.retry pq.inst u.socketAddr]
    tasks := s.tasks ++ [⟨c, pq.inst, u, .retryAttempt key idx⟩] }

/-- `fut_retry_query`, for the question and candidate upstreams a first-attempt closure
holds. The entry is found by key alone. The decrement at line 365 discards its result,
and is left out; each early return leaves the state as it is. `none` is a panic. -/
def futRetryQuery (env : Env) (s : State) (nq : NormalizedQuestion)
    (ups : List UpstreamServerForQuery) : Option State :=
  let key := nq.pendingQueryKey
  match s.pendingQueries.get key with
  | none => some s
  | some pq =>
  match ups.get? pq.upstreamServerIdx with
  | none => none
  | some u =>
  match s.registry.find u.socketAddr with
  | none => some s
  | some _ =>
  match newPendingQuery env s.registry nq true with
  | .error _ => some s
  | .ok idx =>
  match ups.get? idx with
  | none => none
  | some u' =>
  match s.registry.find u'.socketAddr with
  | none => some s
  | some j => some (retryPendingQuery s key pq idx u' j)

/-- What both closures do to the server of the attempt that ended: its pending count
drops (saturating) and a failure is recorded. -/
def failAttempt (env : Env) (s : State) (j : Nat) : State :=
  { s with registry := (s.registry.decPending j).recordFailure env.config.upstreamMaxFailures j }

/-- The first-attempt closure's block on the registry: the attempt's server, when it is
configured, fails the attempt. -/
def failUpstream (env : Env) (s : State) (u : UpstreamServerForQuery) : State :=
  match s.registry.find u.socketAddr with
  | none => s
  | some j => failAttempt env s j

/-- The `or_else` closure of `fut_process_client_query`. -/
def firstAttemptTimeout (env : Env) (s : State) (u : UpstreamServerForQuery)
    (nq : NormalizedQuestion) (ups : List UpstreamServerForQuery) : Option State :=
  futRetryQuery env (failUpstream env s u) nq ups

/-- The entry a retry closure removes is answered, its sender fired – which settles the
tasks on its channel – and its clients subtracted. -/
def settlePendingQuery (env : Env) (s : State) (key : PendingQueryKey) (pq : PendingQuery) : State :=
  let s := { s with
    pendingQueries := s.pendingQueries.remove key
    inflightQueries := s.inflightQueries - 1 }
  let s := maybeRespondToAllClientsWithStaleEntry env s pq
  { s with
    tasks := s.tasks.filter fun t => t.doneRx ≠ pq.doneTx
    waitingClientsCount := usizeWrappingSub s.waitingClientsCount pq.clientQueries.length }

/-- The `or_else` closure of `fut_retry_query`. -/
def retryAttemptTimeout (env : Env) (s : State) (u : UpstreamServerForQuery)
    (key : PendingQueryKey) : State :=
  match s.registry.find u.socketAddr with
  | none => s
  | some j =>
    let s := failAttempt env s j
    match s.pendingQueries.get key with
    | none => s
    | some pq => settlePendingQuery env s key pq

/-- A timer task wakes: it leaves the reactor and its closure runs. -/
def wakeTask (env : Env) (s : State) (t : Task) : Option State :=
  let s := { s with tasks := s.tasks.erase t }
  match t.kind with
  | .firstAttempt nq ups => firstAttemptTimeout env s t.upstreamServerForQuery nq ups
  | .retryAttempt key _ => some (retryAttemptTimeout env s t.upstreamServerForQuery key)

/-! ### Runs -/

/-- One step of the handler, or of the world around it: a client query arrives, a
timer task wakes, the response path brings a server back to life, or time passes. -/
inductive Step (env : Env) : State → State → Prop
  /-- A client query arrives and `fut_process_client_query` runs. -/
  | arrive {s s' : State} (nq : NormalizedQuestion) (ups : List UpstreamServerForQuery)
      (first pick : Nat) :
      futProcessClientQuery env s nq ups first pick = some s' → Step env s s'
  /-- A timer task wakes, by expiry or by cancellation, and its closure runs. -/
  | wake {s s' : State} (t : Task) : t ∈ s.tasks → wakeTask env s t = some s' → Step env s s'
  /-- A response from server `i` reaches the response path. -/
  | recordSuccess (s : State) (i : Nat) (h : i < s.registry.servers.length) :
      Step env s { s with registry := s.registry.recordSuccess i h }
  /-- The clock moves forward. -/
  | tick (s : State) (now : Nat) : s.clock ≤ now → Step env s { s with clock := now }

/-- The states a resolver reaches from its start over some registry. -/
inductive Reachable (env : Env) : State → Prop
  /-- The start. -/
  | init (r : Registry) : Reachable env (State.init r)
  /-- One step further. -/
  | step {s s' : State} : Reachable env s → Step env s s' → Reachable env s'

/-- A step named by its arguments, so that a run can be written down and computed. -/
inductive Event where
  /-- A client query arrives. -/
  | arrive (nq : NormalizedQuestion) (ups : List UpstreamServerForQuery) (first pick : Nat)
  /-- The task at this position of the reactor's list wakes. -/
  | wake (k : Nat)
  /-- Server `i` answers on the response path. -/
  | recordSuccess (i : Nat)
  /-- The clock reads `now`. -/
  | tick (now : Nat)

/-- The state after an event, when it can happen and does not panic. -/
def Event.apply (env : Env) (s : State) : Event → Option State
  | .arrive nq ups first pick => futProcessClientQuery env s nq ups first pick
  | .wake k => (s.tasks.get? k).bind (wakeTask env s)
  | .recordSuccess i =>
    if h : i < s.registry.servers.length then some { s with registry := s.registry.recordSuccess i h }
    else none
  | .tick now => if s.clock ≤ now then some { s with clock := now } else none

/-- The state after a list of events. -/
def run (env : Env) (s : State) : List Event → Option State
  | [] => some s
  | ev :: evs => (ev.apply env s).bind fun s' => run env s' evs

theorem Event.step {env : Env} {s s' : State} {ev : Event} (h : ev.apply env s = some s') :
    Step env s s' := by
  cases ev with
  | arrive nq ups first pick => exact .arrive nq ups first pick h
  | wake k =>
    obtain ⟨t, ht, hw⟩ := Option.bind_eq_some.mp h
    exact .wake t (List.get?_mem ht) hw
  | recordSuccess i =>
    simp only [Event.apply] at h
    split at h <;> cases h
    exact .recordSuccess _ _ _
  | tick now =>
    simp only [Event.apply] at h
    split at h <;> cases h
    exact .tick _ _ ‹_›

/-- A computed run from a reachable state ends in a reachable state. -/
theorem Reachable.run {env : Env} {s s' : State} (hs : Reachable env s) :
    ∀ (evs : List Event), run env s evs = some s' → Reachable env s'
  | [], h => by cases h; exact hs
  | ev :: evs, h => by
    obtain ⟨s₁, h₁, h₂⟩ := Option.bind_eq_some.mp h
    exact (hs.step (Event.step h₁)).run evs h₂

theorem run_append (env : Env) (s : State) (evs : List Event) (ev : Event) :
    run env s (evs ++ [ev]) = (run env s evs).bind (ev.apply env) := by
  induction evs generalizing s with
  | nil => simp [run]
  | cons e evs ih => simp [run, ih, Option.bind_assoc]

/-- Every step is the application of an event: a task that wakes is named by its
position on the reactor. -/
theorem Step.exists_event {env : Env} {s s' : State} (h : Step env s s') :
    ∃ ev : Event, ev.apply env s = some s' := by
  cases h with
  | arrive nq ups first pick h => exact ⟨.arrive nq ups first pick, h⟩
  | wake t ht h => exact ⟨.wake (s.tasks.indexOf t), by simp [Event.apply, List.getElem?_indexOf ht, h]⟩
  | recordSuccess i hi => exact ⟨.recordSuccess i, by simp [Event.apply, hi]⟩
  | tick now hle => exact ⟨.tick now, by simp [Event.apply, hle]⟩

/-- **The event interpreter reaches exactly the reachable states**: a state is reachable
if and only if some list of events, run from a start, computes it. -/
theorem reachable_iff_run {env : Env} {s : State} :
    Reachable env s ↔ ∃ r evs, run env (State.init r) evs = some s := by
  constructor
  · intro h
    induction h with
    | init r => exact ⟨r, [], rfl⟩
    | step _ hs ih =>
      obtain ⟨r, evs, hrun⟩ := ih
      obtain ⟨ev, hev⟩ := hs.exists_event
      exact ⟨r, evs ++ [ev], by rw [run_append, hrun]; exact hev⟩
  · rintro ⟨r, evs, h⟩
    exact (Reachable.init r).run evs h

/-! ### A small resolver

The configuration the concrete runs of the later modules start from: one upstream
server, at address `1`, live; a jump hasher that puts every name in the first bucket;
nothing cached, and a codec that can always build a SERVFAIL. -/

/-- A jump hasher that answers the first bucket for every name. -/
def JumpHasher.firstBucket : JumpHasher := ⟨fun _ _ => 0, fun _ _ h => h, fun _ _ => Nat.two_pow_pos 32⟩

/-- One configured server, at address `1`, live. -/
def Registry.single : Registry := ⟨[⟨1, 0, 0, none⟩], [0], by decide, by decide⟩

/-- The small resolver's environment, for a balancer, an admission limit and a failure
threshold. -/
def smallEnv (lbmode : LoadBalancingMode) (maxWaitingClients upstreamMaxFailures : Nat)
    (h : maxWaitingClients < 2 ^ 64) : Env :=
  ⟨⟨maxWaitingClients, h, lbmode, upstreamMaxFailures⟩, .firstBucket, fun _ => none,
    fun _ => some 0, 1000⟩

end EdgeDns
