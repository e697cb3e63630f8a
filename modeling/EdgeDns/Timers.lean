import EdgeDns.Steps

/-!
# Timer tasks and their channels

Every attempt opens a `oneshot` channel: the entry keeps the sender `done_tx`, and the
attempt's timer task races the receiver against its timer. Channels are drawn fresh, so
no two tasks ever await one channel and no two entries ever hold one
(`EdgeDns.ChannelInv`, kept by every step).

A task's receiver is *cancelled* once no entry holds its sender any more: the sender was
dropped with an evicted entry, or replaced when a retry gave the entry a new channel
(`EdgeDns.Task.Cancelled`). The reactor wakes such a task at once, and its closure runs
as on a timeout, since `done_rx.map_err(|_| ())` makes the cancellation the same error. A
state is *quiescent* when no task with a cancelled receiver is left to run
(`EdgeDns.Quiescent`).

The second half of the file runs the handler on small inputs where it does what it was
not meant to:

* a retry that finds every server down returns early and leaves its entry in the table
  with no task awaiting it, where later clients join it
  (`EdgeDns.retry_allDown_strands_entry`);
* a closure woken by the eviction of its entry counts a failure against its server
  (`EdgeDns.evicted_timer_records_failure`), and finds its entry by key alone, so that
  it retries a newer entry under the same key (`EdgeDns.stale_timer_retries_newer_entry`)
  – a third attempt for that entry (`EdgeDns.stale_timer_sends_third_attempt`), and
  pending counts that no longer match the table once every task has run
  (`EdgeDns.stale_timers_unbalance_pending_count`).
-/

namespace EdgeDns

/-! ### Fresh channels -/

/-- The channels of a list are distinct and all drawn before `n`. -/
def FreshBelow (n : Nat) (l : List Nat) : Prop :=
  l.Nodup ∧ ∀ c ∈ l, c < n

namespace FreshBelow

variable {n : Nat} {l l' : List Nat}

theorem sublist (h : FreshBelow n l) (hs : l'.Sublist l) : FreshBelow n l' :=
  ⟨h.1.sublist hs, fun c hc => h.2 c (hs.subset hc)⟩

theorem perm (h : FreshBelow n l) (hp : l'.Perm l) : FreshBelow n l' :=
  ⟨hp.nodup_iff.mpr h.1, fun c hc => h.2 c (hp.subset hc)⟩

/-- Drawing the channel `n` keeps the channels distinct. -/
theorem cons (h : FreshBelow n l) : FreshBelow (n + 1) (n :: l) := by
  refine ⟨List.nodup_cons.mpr ⟨fun hn => Nat.lt_irrefl n (h.2 n hn), h.1⟩, fun c hc => ?_⟩
  rcases List.mem_cons.mp hc with rfl | hc
  · exact Nat.lt_succ_self c
  · exact Nat.lt_succ_of_lt (h.2 c hc)

theorem concat (h : FreshBelow n l) : FreshBelow (n + 1) (l ++ [n]) :=
  h.cons.perm (List.perm_append_singleton _ _)

theorem mono (h : FreshBelow n l) {n' : Nat} (hn : n ≤ n') : FreshBelow n' l :=
  ⟨h.1, fun c hc => Nat.lt_of_lt_of_le (h.2 c hc) hn⟩

end FreshBelow

/-! ### The channel invariant -/

/-- The channels of the tasks, and those the entries hold. -/
def State.taskChannels (s : State) : List Nat := s.tasks.map Task.doneRx

def State.entryChannels (s : State) : List Nat := s.pendingQueries.entries.map fun p => p.2.doneTx

/-- **The channel invariant**: no channel is awaited twice or held twice, and none is the
next one to be drawn. -/
structure ChannelInv (s : State) : Prop where
  /-- The tasks await distinct channels. -/
  tasks : FreshBelow s.fresh s.taskChannels
  /-- The entries hold distinct channels. -/
  entries : FreshBelow s.fresh s.entryChannels

theorem entryChannels_remove_sublist (m : PendingQueries) (k : PendingQueryKey) :
    ((m.remove k).entries.map fun p => p.2.doneTx).Sublist (m.entries.map fun p => p.2.doneTx) :=
  (List.filter_sublist _).map _

/-- An update in place that keeps the channel keeps the channels. -/
theorem entryChannels_modify (m : PendingQueries) (k : PendingQueryKey)
    {f : PendingQuery → PendingQuery} (hf : ∀ v, (f v).doneTx = v.doneTx) :
    ((m.modify k f).entries.map fun p => p.2.doneTx) = m.entries.map fun p => p.2.doneTx := by
  simp only [PendingQueries.modify, List.map_map]
  congr 1
  funext p
  simp only [Function.comp_apply]
  split
  · exact hf p.2
  · rfl

/-- Eviction only drops entries, and with them the channels they hold. -/
theorem capPendingQueries_entryChannels {env : Env} {s s₁ : State} {first : Nat} {b : Bool}
    (h : capPendingQueries env s first = some (b, s₁)) : s₁.entryChannels ⊆ s.entryChannels := by
  rcases capPendingQueries_cases h with ⟨rfl, -⟩ | ⟨key, _, -, -, -, rfl⟩
  · exact List.Subset.refl _
  · exact (entryChannels_remove_sublist _ key).subset

namespace ChannelInv

variable {env : Env} {s s' : State}

theorem capPendingQueries (hi : ChannelInv s) {first : Nat} {b : Bool} {s₁ : State}
    (h : EdgeDns.capPendingQueries env s first = some (b, s₁)) : ChannelInv s₁ := by
  rcases capPendingQueries_cases h with ⟨rfl, -⟩ | ⟨key, pq, -, -, -, rfl⟩
  · exact hi
  · exact ⟨hi.tasks, hi.entries.sublist (entryChannels_remove_sublist _ key)⟩

/-- An arrival keeps the invariant: a new entry and its task share a fresh channel. -/
theorem arrive (hi : ChannelInv s) {nq : NormalizedQuestion} {ups : List UpstreamServerForQuery}
    {first pick : Nat} (h : futProcessClientQuery env s nq ups first pick = some s') :
    ChannelInv s' := by
  have hi₀ : ChannelInv { s with arrived := s.arrived ++ [⟨s.arrived.length, nq, ups⟩] } :=
    ⟨hi.tasks, hi.entries⟩
  cases futProcessClientQuery_cases h with
  | allDown _ => exact ⟨hi₀.tasks, hi₀.entries⟩
  | attached _ hcap _ =>
    have hi₁ := hi₀.capPendingQueries hcap
    refine ⟨hi₁.tasks, ?_⟩
    rw [State.entryChannels,
      entryChannels_modify _ _ (f := PendingQuery.addClientQuery _) fun _ => rfl]
    exact hi₁.entries
  | notConfigured _ hcap =>
    have hi₁ := hi₀.capPendingQueries hcap
    exact ⟨hi₁.tasks, hi₁.entries⟩
  | created _ hcap =>
    have hi₁ := hi₀.capPendingQueries hcap
    refine ⟨by simpa [State.taskChannels, createPendingQuery] using hi₁.tasks.concat, ?_⟩
    simpa [State.entryChannels, createPendingQuery, PendingQueries.insert] using
      (hi₁.entries.sublist (entryChannels_remove_sublist _ _)).concat

/-- A wake-up keeps the invariant: a retry moves its entry to a fresh channel, and the
retry closure removes its entry with the tasks on its channel. -/
theorem wake (hi : ChannelInv s) {t : Task} (h : wakeTask env s t = some s') : ChannelInv s' := by
  have hts : FreshBelow s.fresh ((s.tasks.erase t).map Task.doneRx) :=
    hi.tasks.sublist ((List.erase_sublist _ _).map _)
  cases wakeTask_cases h with
  | failed => exact ⟨hts, hi.entries⟩
  | retried _ hget =>
    refine ⟨by simpa [State.taskChannels, retryPendingQuery] using hts.concat, ?_⟩
    exact (hi.entries.sublist (entryChannels_remove_sublist _ _)).cons.perm
      ((PendingQueries.perm_modify _ hget).map _)
  | settled =>
    rw [settlePendingQuery_eq]
    exact ⟨hts.sublist ((List.filter_sublist _).map _),
      hi.entries.sublist (entryChannels_remove_sublist _ _)⟩

/-- **Every step keeps the channel invariant.** -/
theorem step (hi : ChannelInv s) (h : Step env s s') : ChannelInv s' := by
  cases h with
  | arrive _ _ _ _ h => exact hi.arrive h
  | wake _ _ h => exact hi.wake h
  | recordSuccess => exact ⟨hi.tasks, hi.entries⟩
  | tick => exact ⟨hi.tasks, hi.entries⟩

end ChannelInv

theorem Reachable.channelInv {env : Env} {s : State} (h : Reachable env s) : ChannelInv s := by
  induction h with
  | init r => exact ⟨⟨List.nodup_nil, fun _ hc => (nomatch hc)⟩, ⟨List.nodup_nil, fun _ hc => (nomatch hc)⟩⟩
  | step _ hs ih => exact ih.step hs

/-! ### Cancelled receivers and quiescence -/

/-- A task's receiver is cancelled once no entry holds its channel: the sender was
dropped with an evicted entry, or replaced by a retry. -/
def Task.Cancelled (s : State) (t : Task) : Prop :=
  ∀ p ∈ s.pendingQueries.entries, p.2.doneTx ≠ t.doneRx

instance (s : State) (t : Task) : Decidable (t.Cancelled s) :=
  inferInstanceAs (Decidable (∀ p ∈ s.pendingQueries.entries, p.2.doneTx ≠ t.doneRx))

/-- A task that is not cancelled awaits an entry. -/
theorem Task.exists_of_not_cancelled {s : State} {t : Task} (h : ¬ t.Cancelled s) :
    ∃ p ∈ s.pendingQueries.entries, p.2.doneTx = t.doneRx := by
  simpa [Task.Cancelled] using h

/-- No task with a cancelled receiver is left to run. -/
def Quiescent (s : State) : Prop :=
  ∀ t ∈ s.tasks, ¬ t.Cancelled s

instance (s : State) : Decidable (Quiescent s) :=
  inferInstanceAs (Decidable (∀ t ∈ s.tasks, ¬ t.Cancelled s))

/-- A task waits on the entry's current channel. -/
def Awaited (s : State) (p : PendingQueryKey × PendingQuery) : Prop :=
  ∃ t ∈ s.tasks, t.doneRx = p.2.doneTx

instance (s : State) (p : PendingQueryKey × PendingQuery) : Decidable (Awaited s p) :=
  inferInstanceAs (Decidable (∃ t ∈ s.tasks, t.doneRx = p.2.doneTx))

/-! ### Where the handler falls short

The runs below start from the small resolver (`EdgeDns.smallEnv`, one server at address
`1`), and every client query names that server as its only candidate. Questions are
told apart by their key. -/

/-- **A retry with every server down strands its entry.** The first attempt times out,
its failure takes the only server off the live list, and `fut_retry_query` returns at the
error of `new_pending_query` without removing the entry. Once the server is back, a second
client joins the entry, which no task awaits: the state is quiescent, and no closure will
answer either client. -/
theorem retry_allDown_strands_entry :
    ∃ s, run (smallEnv .fallback 2 1 (by decide)) (State.init .single)
        [.arrive ⟨0, 0, 0⟩ [⟨1⟩] 0 0, .wake 0, .recordSuccess 0, .arrive ⟨0, 0, 0⟩ [⟨1⟩] 0 0] =
        some s ∧
      Quiescent s ∧ s.responses = [] ∧
      ∃ p ∈ s.pendingQueries.entries, ¬ Awaited s p ∧ p.2.clientQueries.length = 2 :=
  ⟨_, rfl, by decide, rfl, by decide⟩

/-- **Stale closures unbalance the pending counts.** Under a limit of one waiting client,
the entry of key `0` is evicted by that of key `1`, which is evicted by a new entry of key
`0`. The first closure, woken by the first eviction, retries the new entry; the closure
of the new entry's own first attempt, cancelled by that retry, retries it again; the
first retry's closure, cancelled in turn, settles the entry. Once every task has run, the
table is empty but the server still counts one pending query. -/
theorem stale_timers_unbalance_pending_count :
    ∃ s, run (smallEnv .fallback 1 10 (by decide)) (State.init .single)
        [.arrive ⟨0, 0, 0⟩ [⟨1⟩] 0 0, .arrive ⟨1, 0, 0⟩ [⟨1⟩] 0 0, .arrive ⟨0, 0, 0⟩ [⟨1⟩] 0 0,
          .wake 0, .wake 1, .wake 0, .wake 0] = some s ∧
      Quiescent s ∧ s.tasks = [] ∧ s.pendingQueries.entries = [] ∧
      s.registry.servers.map UpstreamServer.pendingQueriesCount = [1] :=
  ⟨_, rfl, by decide, rfl, rfl, rfl⟩

/-- **A closure woken by an eviction records a failure.** The second client query evicts
the first one's entry, which drops the sender of the first task's channel; waking that
task runs the timeout closure, which counts a failure against the server. -/
theorem evicted_timer_records_failure :
    ∃ s s' t, run (smallEnv .fallback 1 10 (by decide)) (State.init .single)
        [.arrive ⟨0, 0, 0⟩ [⟨1⟩] 0 0, .arrive ⟨1, 0, 0⟩ [⟨1⟩] 0 0] = some s ∧
      s.tasks.get? 0 = some t ∧ t.Cancelled s ∧
      s.registry.servers.map UpstreamServer.failures = [0] ∧
      wakeTask (smallEnv .fallback 1 10 (by decide)) s t = some s' ∧
      s'.registry.servers.map UpstreamServer.failures = [1] :=
  ⟨_, _, _, rfl, rfl, by decide, rfl, rfl, rfl⟩

/-- The packet is an attempt of the entry `inst`, sent to a server the balancer chose: its
primary or a retry. -/
def Send.isAttemptOf (inst : Nat) : Send → Bool
  | .primary i _ => i = inst
  | .retry i _ => i = inst
  | .probe _ => false

/-- The attempts sent on behalf of the entry `inst`, probes apart. -/
def attemptSends (s : State) (inst : Nat) : Nat :=
  s.sends.countP (Send.isAttemptOf inst)

/-- **A stale closure sends a third attempt.** In the run of
`EdgeDns.stale_timers_unbalance_pending_count`, after the first closure has retried the
entry of key `0` that the third client query created, that entry's own first closure –
cancelled by the retry – retries it once more while it is still in the table. -/
theorem stale_timer_sends_third_attempt :
    ∃ s, run (smallEnv .fallback 1 10 (by decide)) (State.init .single)
        [.arrive ⟨0, 0, 0⟩ [⟨1⟩] 0 0, .arrive ⟨1, 0, 0⟩ [⟨1⟩] 0 0, .arrive ⟨0, 0, 0⟩ [⟨1⟩] 0 0,
          .wake 0, .wake 1] = some s ∧
      (∃ p ∈ s.pendingQueries.entries, p.2.inst = 2) ∧ attemptSends s 2 = 3 :=
  ⟨_, rfl, by decide, rfl⟩

/-- **A stale closure acts on a newer entry.** The task armed for the first attempt of
entry `0` wakes after that entry was evicted and key `0` was given to entry `2`; it
retries entry `2`, replacing its channel. -/
theorem stale_timer_retries_newer_entry :
    ∃ s s' t, run (smallEnv .fallback 1 10 (by decide)) (State.init .single)
        [.arrive ⟨0, 0, 0⟩ [⟨1⟩] 0 0, .arrive ⟨1, 0, 0⟩ [⟨1⟩] 0 0, .arrive ⟨0, 0, 0⟩ [⟨1⟩] 0 0] =
        some s ∧
      s.tasks.get? 0 = some t ∧ t.inst = 0 ∧
      (s.pendingQueries.get ⟨0, (0, 0)⟩).map PendingQuery.inst = some 2 ∧
      wakeTask (smallEnv .fallback 1 10 (by decide)) s t = some s' ∧
      s'.sends = s.sends ++ [.retry 2 1] ∧
      (s'.pendingQueries.get ⟨0, (0, 0)⟩).map PendingQuery.doneTx = some 3 :=
  ⟨_, _, _, rfl, rfl, rfl, rfl, rfl, rfl, rfl⟩

end EdgeDns
