import EdgeDns.ArmedRuns

/-!
# What a server's pending count counts

`pending_queries_count` is raised when an attempt is sent to a server – the primary in
`fut_process_client_query`, a retry in `fut_retry_query` – and lowered when the timer
task of an attempt to that server wakes: both closures lower it before anything else.
It is never touched when an entry is evicted, nor when the retry closure fires an entry's
channel. So it counts the timer tasks still waiting on an attempt sent to the server
(`EdgeDns.State.tasksOn`), as long as no firing settles a task whose attempt was counted.

In an armed run no firing does: the retry closure that settles an entry is that entry's
own retry task, which has left the reactor, and no other task awaits the channel it
fires. Hence `EdgeDns.ArmedReachable.pendingInv`: in every armed run from a registry
with nothing pending that has sent fewer than `u64::MAX` packets, each server's count is
the number of its attempts in flight, and it is back to zero once no task is left
(`EdgeDns.armed_pendingCount_eq_tasksOn`). It is not the number of entries
sent to the server: an evicted entry's task still counts, an entry stranded by an early
return of `fut_retry_query` does not.
-/

namespace EdgeDns

/-- The registry as the resolver builds it: no query pending on any server. -/
def Registry.Idle (r : Registry) : Prop := ∀ srv ∈ r.servers, srv.pendingQueriesCount = 0

instance (r : Registry) : Decidable r.Idle := inferInstanceAs (Decidable (∀ _ ∈ _, _))

example : Registry.single.Idle := by decide

/-- The timer tasks waiting on an attempt sent to server `j`. -/
def State.tasksOn (s : State) (j : Nat) : Nat :=
  s.tasks.countP fun t => s.registry.find t.upstreamServerForQuery.socketAddr = some j

/-- **The count invariant**: each configured server's pending count is the number of
timer tasks waiting on an attempt sent to it. -/
def PendingInv (s : State) : Prop :=
  ∀ j < s.registry.servers.length, s.registry.pendingCount j = some (s.tasksOn j)

/-! ### Lemmas on the steps -/

@[simp] theorem find_failUpstream (env : Env) (s : State) (u : UpstreamServerForQuery) (a : Nat) :
    (failUpstream env s u).registry.find a = s.registry.find a := by
  cases h : s.registry.find u.socketAddr <;> simp [failUpstream, failAttempt, h]

theorem pendingCount_failUpstream (env : Env) (s : State) (u : UpstreamServerForQuery) (i : Nat) :
    (failUpstream env s u).registry.pendingCount i =
      if s.registry.find u.socketAddr = some i then
        (s.registry.pendingCount i).map (u64SaturatingSub · 1)
      else s.registry.pendingCount i := by
  cases h : s.registry.find u.socketAddr <;> simp [failUpstream, failAttempt, h]

theorem capPendingQueries_tasks_sends {env : Env} {s s₁ : State} {first : Nat} {b : Bool}
    (h : capPendingQueries env s first = some (b, s₁)) : s₁.tasks = s.tasks ∧ s₁.sends = s.sends := by
  rcases capPendingQueries_cases h with ⟨rfl, -⟩ | ⟨_, _, -, -, -, rfl⟩ <;> exact ⟨rfl, rfl⟩

theorem countP_eq_countP_erase {α : Type} [DecidableEq α] {p : α → Bool} {l : List α} {a : α}
    (h : a ∈ l) : l.countP p = (l.erase a).countP p + if p a then 1 else 0 := by
  rw [(List.perm_cons_erase h).countP_eq, List.countP_cons]

/-- An arrival sends before it arms, and arms at most one task. -/
theorem futProcessClientQuery_sends {env : Env} {s s' : State} {nq : NormalizedQuestion}
    {ups : List UpstreamServerForQuery} {first pick : Nat}
    (h : futProcessClientQuery env s nq ups first pick = some s') :
    s.sends.length ≤ s'.sends.length ∧ s'.tasks.length + s.sends.length ≤
      s.tasks.length + s'.sends.length := by
  cases futProcessClientQuery_cases h with
  | allDown _ => exact ⟨le_rfl, le_rfl⟩
  | attached _ hcap _ | notConfigured _ hcap | created _ hcap =>
    obtain ⟨ht, hs⟩ := capPendingQueries_tasks_sends hcap
    simp only [createPendingQuery, List.length_append, List.length_singleton, ht, hs]
    omega

/-- A wake-up sends at most one retry, and arms a task only with it. -/
theorem wakeTask_sends {env : Env} {s s' : State} {t : Task} (ht : t ∈ s.tasks)
    (h : wakeTask env s t = some s') :
    s.sends.length ≤ s'.sends.length ∧ s'.tasks.length + s.sends.length ≤
      s.tasks.length + s'.sends.length := by
  have he := List.length_erase_of_mem ht
  have hpos := List.length_pos_of_mem ht
  cases wakeTask_cases h with
  | failed => exact ⟨le_rfl, by simp only [he]; omega⟩
  | retried =>
    simp only [retryPendingQuery, List.length_append, List.length_singleton, he]
    omega
  | @settled _ _ pq _ _ _ =>
    simp only [settlePendingQuery_eq]
    have := List.length_filter_le (fun t' : Task => decide (t'.doneRx ≠ pq.doneTx)) (s.tasks.erase t)
    omega

/-- Every task was armed by an attempt sent. -/
theorem Reachable.tasks_length_le {env : Env} {s : State} (h : Reachable env s) :
    s.tasks.length ≤ s.sends.length := by
  induction h with
  | init r => exact le_rfl
  | step _ hs ih =>
    cases hs with
    | arrive _ _ _ _ h => have := futProcessClientQuery_sends h; omega
    | wake _ ht h => have := wakeTask_sends ht h; omega
    | recordSuccess => exact ih
    | tick => exact ih

/-- A task is alone on its channel. -/
theorem ChannelInv.doneRx_ne {s : State} (hc : ChannelInv s) {t t' : Task} (ht : t ∈ s.tasks)
    (ht' : t' ∈ s.tasks.erase t) : t'.doneRx ≠ t.doneRx := by
  have hnd := hc.tasks.1
  obtain ⟨hne, ht'⟩ := (hnd.of_map _).mem_erase_iff.mp ht'
  exact fun h => hne (List.inj_on_of_nodup_map hnd ht' ht h)

/-! ### The count invariant -/

namespace PendingInv

variable {env : Env} {s s' : State}

/-- The invariant reads the registry and the tasks only. -/
theorem congr (hi : PendingInv s) (hr : s'.registry = s.registry) (ht : s'.tasks = s.tasks) :
    PendingInv s' := by
  unfold PendingInv State.tasksOn
  rw [hr, ht]
  exact hi

theorem init {r : Registry} (hr : r.Idle) : PendingInv (State.init r) := by
  intro j (hj : j < r.servers.length)
  simp [State.tasksOn, State.init, Registry.pendingCount, List.getElem?_eq_getElem hj,
    hr _ (List.getElem_mem hj)]

theorem recordSuccess (hi : PendingInv s) (i : Nat) (h : i < s.registry.servers.length) :
    PendingInv { s with registry := s.registry.recordSuccess i h } := by
  intro j hj
  simp only [State.tasksOn, Registry.find_recordSuccess, Registry.pendingCount_recordSuccess]
  exact hi j (by simpa using hj)

/-- Arming a task on server `j` while raising `j`'s count keeps the invariant, as long as
the count does not saturate. -/
theorem arm (hi : PendingInv s) {t : Task} {j : Nat}
    (hj : s.registry.find t.upstreamServerForQuery.socketAddr = some j)
    (hb : s.tasks.length < 2 ^ 64 - 1)
    (hr : s'.registry = s.registry.incPending j) (ht : s'.tasks = s.tasks ++ [t]) :
    PendingInv s' := by
  intro i hi'
  rw [hr, Registry.length_incPending] at hi'
  have hle : s.tasksOn i ≤ s.tasks.length := List.countP_le_length _
  rw [State.tasksOn, hr, ht, Registry.pendingCount_incPending, hi i hi', List.countP_append]
  unfold State.tasksOn at hle ⊢
  rcases eq_or_ne j i with rfl | hne
  · simp [hj, u64SaturatingAdd]
    omega
  · simp [hj, hne]

/-- A task leaving the reactor while its closure fails its attempt keeps the invariant. -/
theorem disarm (hi : PendingInv s) {t : Task} (ht : t ∈ s.tasks)
    (hr : s'.registry = (failUpstream env s t.upstreamServerForQuery).registry)
    (hts : s'.tasks = s.tasks.erase t) : PendingInv s' := by
  intro i hi'
  rw [hr, length_failUpstream] at hi'
  rw [State.tasksOn, hr, hts, pendingCount_failUpstream, hi i hi', State.tasksOn, countP_eq_countP_erase ht]
  by_cases hf : s.registry.find t.upstreamServerForQuery.socketAddr = some i <;>
    simp [hf, u64SaturatingSub]

/-- An arrival keeps the invariant, below `u64::MAX` sends. -/
theorem arrive (hi : PendingInv s) (hts : s.tasks.length ≤ s.sends.length)
    {nq : NormalizedQuestion} {ups : List UpstreamServerForQuery} {first pick : Nat}
    (h : futProcessClientQuery env s nq ups first pick = some s')
    (hb : s'.sends.length < 2 ^ 64 - 1) : PendingInv s' := by
  have hi₀ : PendingInv { s with arrived := s.arrived ++ [⟨s.arrived.length, nq, ups⟩] } :=
    hi.congr rfl rfl
  have hi₁ {b : Bool} {s₁ : State} (hcap : capPendingQueries env
      { s with arrived := s.arrived ++ [⟨s.arrived.length, nq, ups⟩] } first = some (b, s₁)) :
      PendingInv s₁ :=
    hi₀.congr (capPendingQueries_registry hcap) (capPendingQueries_tasks_sends hcap).1
  cases futProcessClientQuery_cases h with
  | allDown _ => exact hi₀.congr rfl rfl
  | attached _ hcap _ => exact (hi₁ hcap).congr rfl rfl
  | notConfigured _ hcap => exact (hi₁ hcap).congr rfl rfl
  | created _ hcap _ _ _ _ hj =>
    obtain ⟨ht, hs⟩ := capPendingQueries_tasks_sends hcap
    simp only [createPendingQuery, List.length_append, List.length_singleton, hs] at hb
    exact ((hi₁ hcap).congr rfl rfl).arm hj (by simp only [ht]; omega) rfl rfl

/-- The wake-up of an armed task keeps the invariant, below `u64::MAX` sends: a retry
closure settles no task but its own. -/
theorem wake (hi : PendingInv s) (hc : ChannelInv s) (ha : AttemptInv s)
    (hts : s.tasks.length ≤ s.sends.length) {t : Task} (ht : t ∈ s.tasks)
    (harmed : ¬ t.Cancelled s) (h : wakeTask env s t = some s')
    (hb : s'.sends.length < 2 ^ 64 - 1) : PendingInv s' := by
  have hi₁ : PendingInv { s with
      tasks := s.tasks.erase t
      registry := (failUpstream env s t.upstreamServerForQuery).registry } :=
    hi.disarm ht rfl rfl
  have hlen := List.length_erase_of_mem ht
  cases wakeTask_cases h with
  | failed => exact hi₁
  | retried _ _ _ _ _ _ hj =>
    simp only [retryPendingQuery, List.length_append, List.length_singleton] at hb
    exact hi₁.arm hj (by dsimp only; omega) rfl rfl
  | settled hk _ hget =>
    rw [settlePendingQuery_eq]
    have hrx := (ha.armed_of_get ht harmed (by rw [hk]; exact hget)).2
    refine hi₁.congr rfl (List.filter_eq_self.mpr fun t' ht' => ?_)
    simpa [hrx] using hc.doneRx_ne ht ht'

end PendingInv

/-- **Every armed run from a registry with nothing pending keeps the count invariant**, as
long as it has sent fewer than `u64::MAX` packets. -/
theorem ArmedReachable.pendingInv {env : Env} {r : Registry} {s : State}
    (h : ArmedReachable env r s) (hr : r.Idle) (hb : s.sends.length < 2 ^ 64 - 1) :
    PendingInv s := by
  induction h with
  | init => exact PendingInv.init hr
  | arrive _ _ _ _ hs h ih =>
    have := futProcessClientQuery_sends h
    exact (ih (by omega)).arrive hs.reachable.tasks_length_le h hb
  | wake t hs ht harmed h ih =>
    have := wakeTask_sends ht h
    exact (ih (by omega)).wake hs.reachable.channelInv hs.attemptInv
      hs.reachable.tasks_length_le ht harmed h hb
  | recordSuccess i hi _ ih => exact (ih hb).recordSuccess i hi
  | tick _ _ _ ih => exact (ih hb).congr rfl rfl

/-- **Once no task is left, every count is back to zero** in an armed run from a registry
with nothing pending. -/
theorem armed_pendingCount_eq_zero_of_tasks_eq_nil {env : Env} {r : Registry} {s : State}
    (h : ArmedReachable env r s) (hr : r.Idle) (hb : s.sends.length < 2 ^ 64 - 1)
    (hnil : s.tasks = []) : s.registry.Idle := fun srv hsrv => by
  obtain ⟨j, hj, rfl⟩ := List.getElem_of_mem hsrv
  have := h.pendingInv hr hb j hj
  simpa [Registry.pendingCount, List.getElem?_eq_getElem hj, State.tasksOn, hnil] using this

/-- **In every armed run from an idle registry, a server's count is its attempts in
flight.** As long as the run has sent fewer than `u64::MAX` packets, each configured
server's pending count is the number of timer tasks waiting on an attempt sent to it, and
every count is back to zero once no task is left. -/
theorem armed_pendingCount_eq_tasksOn {env : Env} {r : Registry} {s : State}
    (h : ArmedReachable env r s) (hr : r.Idle) (hb : s.sends.length < 2 ^ 64 - 1) :
    PendingInv s ∧ (s.tasks = [] → s.registry.Idle) :=
  ⟨h.pendingInv hr hb, armed_pendingCount_eq_zero_of_tasks_eq_nil h hr hb⟩

/-- One client query reaches the small resolver, idle at the start: the server's count is
its one first-attempt task. -/
theorem armed_pendingCount_eq_tasksOn_one_arrival :
    ∃ s, ArmedReachable (smallEnv .fallback 10 10 (by decide)) .single s ∧
      s.registry.pendingCount 0 = some 1 ∧ s.tasksOn 0 = 1 ∧
      (PendingInv s ∧ (s.tasks = [] → s.registry.Idle)) := by
  have h : ArmedReachable (smallEnv .fallback 10 10 (by decide)) .single _ :=
    .arrive ⟨0, 0, 0⟩ [⟨1⟩] 0 0 .init rfl
  exact ⟨_, h, rfl, rfl, armed_pendingCount_eq_tasksOn h (by decide) (by decide)⟩

end EdgeDns
