import EdgeDns.InBounds
import EdgeDns.PendingCounts

/-!
# Where the packets go

The core sends three kinds of packets upstream, each to an address it has just looked up
in the registry:

* `fut_process_client_query` sends the primary query to the server that
  `upstream_servers.get` finds for the chosen candidate, and gives up on the client when
  there is none;
* `fut_retry_query` sends the retry to the candidate at the retry's pick, once the
  registry has it;
* `maybe_send_probe_to_offline_servers` probes a server it took out of the registry for
  one of the query's candidates.

No step adds a server to the registry or takes one away (`EdgeDns.Step.find`): the handler
only writes pending counts, failures and the live list. So every packet the core has sent
went to a configured server that some client query received names among its candidates
(`EdgeDns.sends_to_configured_candidates`). The same holds of the upstream each timer
task's closure holds, whose failure the closure records: the invariant `EdgeDns.DestInv`
keeps both.
-/

namespace EdgeDns

/-- The address a packet is sent to. -/
def Send.addr : Send → Nat
  | .primary _ addr => addr
  | .retry _ addr => addr
  | .probe addr => addr

/-- The address is that of a configured server, which a client query received names among
its candidates. -/
def Nominated (s : State) (addr : Nat) : Prop :=
  (s.registry.find addr).isSome ∧
    ∃ cq ∈ s.arrived, ∃ u ∈ cq.upstreamServersForQuery, u.socketAddr = addr

/-! ### The registry keeps its servers -/

theorem futProcessClientQuery_find {env : Env} {s s' : State} {nq : NormalizedQuestion}
    {ups : List UpstreamServerForQuery} {first pick : Nat}
    (h : futProcessClientQuery env s nq ups first pick = some s') (a : Nat) :
    s'.registry.find a = s.registry.find a := by
  cases futProcessClientQuery_cases h with
  | allDown _ => rfl
  | attached _ hcap _ => exact congrArg (Registry.find · a) (capPendingQueries_registry hcap :)
  | notConfigured _ hcap => exact congrArg (Registry.find · a) (capPendingQueries_registry hcap :)
  | created _ hcap =>
    rw [createPendingQuery, Registry.find_incPending]
    exact congrArg (Registry.find · a) (capPendingQueries_registry hcap :)

theorem wakeTask_find {env : Env} {s s' : State} {t : Task} (h : wakeTask env s t = some s')
    (a : Nat) : s'.registry.find a = s.registry.find a := by
  cases wakeTask_cases h with
  | failed => exact find_failUpstream ..
  | retried => simp [retryPendingQuery]
  | settled => simp [settlePendingQuery_eq]

/-- **No step changes which servers are configured.** -/
theorem Step.find {env : Env} {s s' : State} (h : Step env s s') (a : Nat) :
    s'.registry.find a = s.registry.find a := by
  cases h with
  | arrive _ _ _ _ h => exact futProcessClientQuery_find h a
  | wake _ _ h => exact wakeTask_find h a
  | recordSuccess => simp
  | tick => rfl

/-- A probe goes to a configured candidate of the query. -/
theorem probes_of_maybeSendProbeToOfflineServers {env : Env} {s : State}
    {ups : List UpstreamServerForQuery} {pick : Nat} {l : List Nat} {probe : Option Nat}
    (h : maybeSendProbeToOfflineServers env s ups pick =
      ({ s with sends := s.sends ++ l.map Send.probe }, probe)) :
    ∀ a ∈ l, (s.registry.find a).isSome ∧ ∃ u ∈ ups, u.socketAddr = a := by
  intro a ha
  have hs := congrArg (fun x => x.1.sends) h
  have hmem := List.mem_map_of_mem Send.probe ha
  rcases maybeSendProbeToOfflineServers_cases env s ups pick with h' | ⟨u, hu, j, -, hj, -, h'⟩
  · rw [h'] at hs
    simp only [List.self_eq_append_right] at hs
    simp [hs] at hmem
  · rw [h'] at hs
    simp only [List.append_cancel_left_eq] at hs
    obtain rfl : a = u.socketAddr := by simpa [← hs] using hmem
    exact ⟨by simp [hj], u, hu, rfl⟩

/-! ### The invariant -/

/-- **The destination invariant**: every packet sent, and the upstream of every timer task,
is a configured candidate of a client query received. -/
structure DestInv (s : State) : Prop where
  /-- The packets. -/
  sends : ∀ snd ∈ s.sends, Nominated s snd.addr
  /-- The upstreams the closures hold. -/
  tasks : ∀ t ∈ s.tasks, Nominated s t.upstreamServerForQuery.socketAddr

namespace DestInv

variable {env : Env} {s s' : State}

/-- A step that keeps the servers and the record, and whose new packets and tasks go to
configured candidates, keeps the invariant. -/
theorem of_frame (hi : DestInv s) (hf : ∀ a, s'.registry.find a = s.registry.find a)
    (ha : s.arrived ⊆ s'.arrived)
    (hs : ∀ snd ∈ s'.sends, snd ∈ s.sends ∨ Nominated s' snd.addr)
    (ht : ∀ t ∈ s'.tasks, t ∈ s.tasks ∨ Nominated s' t.upstreamServerForQuery.socketAddr) :
    DestInv s' := by
  have hmono : ∀ a, Nominated s a → Nominated s' a := fun a ⟨hfa, cq, hcq, hu⟩ =>
    ⟨(hf a).symm ▸ hfa, cq, ha hcq, hu⟩
  exact ⟨fun snd h => (hs snd h).elim (fun h => hmono _ (hi.sends snd h)) id,
    fun t h => (ht t h).elim (fun h => hmono _ (hi.tasks t h)) id⟩

/-- An arrival keeps the invariant: its probe and its primary go to candidates of the client
query just received, found in the registry, and so does its task's upstream. -/
theorem arrive (hi : DestInv s) {nq : NormalizedQuestion} {ups : List UpstreamServerForQuery}
    {first pick : Nat} (h : futProcessClientQuery env s nq ups first pick = some s') :
    DestInv s' := by
  have hf := futProcessClientQuery_find h
  have harr := futProcessClientQuery_arrived h
  have ha : s.arrived ⊆ s'.arrived := harr ▸ List.subset_append_left _ _
  have hnom : ∀ a, (s.registry.find a).isSome → (∃ u ∈ ups, u.socketAddr = a) → Nominated s' a :=
    fun a hfa hu => ⟨(hf a).symm ▸ hfa, _, harr ▸ List.mem_append_right _ (List.mem_singleton_self _),
      hu⟩
  have hprobe {L : List Send} {l : List Nat} (hL : L = s.sends)
      (hl : ∀ a ∈ l, (s.registry.find a).isSome ∧ ∃ u ∈ ups, u.socketAddr = a) :
      ∀ snd ∈ L ++ l.map Send.probe, snd ∈ s.sends ∨ Nominated s' snd.addr := by
    intro snd h
    rcases List.mem_append.mp h with h | h
    · exact .inl (hL ▸ h)
    · obtain ⟨a, ha, rfl⟩ := List.mem_map.mp h
      exact .inr (hnom a (hl a ha).1 (hl a ha).2)
  cases futProcessClientQuery_cases h with
  | allDown _ => exact hi.of_frame hf ha (fun _ h => .inl h) fun _ h => .inl h
  | attached _ hcap _ =>
    obtain ⟨ht, hs⟩ := capPendingQueries_tasks_sends hcap
    exact hi.of_frame hf ha (fun _ h => .inl (hs ▸ h)) fun _ h => .inl (ht ▸ h)
  | notConfigured _ hcap _ _ hl =>
    obtain ⟨ht, hs⟩ := capPendingQueries_tasks_sends hcap
    have hreg : _ = s.registry := (capPendingQueries_registry hcap :)
    exact hi.of_frame hf ha (hprobe hs (hreg ▸ probes_of_maybeSendProbeToOfflineServers hl))
      fun _ h => .inl (ht ▸ h)
  | created _ hcap _ _ hl hu hj =>
    obtain ⟨ht, hs⟩ := capPendingQueries_tasks_sends hcap
    have hreg : _ = s.registry := (capPendingQueries_registry hcap :)
    have hn := hnom _ (by rw [← hreg, hj]; rfl) ⟨_, List.get?_mem hu, rfl⟩
    refine hi.of_frame hf ha (fun snd h => ?_) fun t h => ?_ <;>
      rcases List.mem_append.mp h with h | h
    · exact hprobe hs (hreg ▸ probes_of_maybeSendProbeToOfflineServers hl) snd h
    · obtain rfl := List.mem_singleton.mp h
      exact .inr hn
    · exact .inl (ht ▸ h)
    · obtain rfl := List.mem_singleton.mp h
      exact .inr hn

/-- A wake-up keeps the invariant: a retry goes to a candidate of the client query whose
candidates the first-attempt closure holds, found in the registry, and so does the retry
task's upstream. -/
theorem wake (hi : DestInv s) (hx : IndexInv s) {t : Task} (ht : t ∈ s.tasks)
    (h : wakeTask env s t = some s') : DestInv s' := by
  have hf := wakeTask_find h
  have ha : s.arrived ⊆ s'.arrived := (wakeTask_arrived h).symm ▸ List.Subset.refl _
  have hts : s.tasks.erase t ⊆ s.tasks := List.erase_subset _ _
  cases wakeTask_cases h with
  | failed => exact hi.of_frame hf ha (fun _ h => .inl h) fun _ h => .inl (hts h)
  | retried hk _ _ _ _ hu' hj =>
    obtain ⟨cq, hcq, rfl⟩ := hx.tasks t ht _ _ hk
    have hn : Nominated _ _ := ⟨by rw [hf, ← find_failUpstream env s t.upstreamServerForQuery, hj]; rfl,
      cq, ha hcq, _, List.get?_mem hu', rfl⟩
    refine hi.of_frame hf ha (fun _ h => ?_) fun _ h => ?_ <;>
      rcases List.mem_append.mp h with h | h
    · exact .inl h
    · obtain rfl := List.mem_singleton.mp h
      exact .inr hn
    · exact .inl (hts h)
    · obtain rfl := List.mem_singleton.mp h
      exact .inr hn
  | settled =>
    refine hi.of_frame hf ha (fun _ h => ?_) fun _ h => ?_ <;> rw [settlePendingQuery_eq] at h
    · exact .inl h
    · exact .inl (hts (List.mem_of_mem_filter h))

theorem step (hi : DestInv s) (hx : IndexInv s) (h : Step env s s') : DestInv s' := by
  cases h with
  | arrive _ _ _ _ h => exact hi.arrive h
  | wake _ ht h => exact hi.wake hx ht h
  | recordSuccess =>
    exact hi.of_frame (by simp) (List.Subset.refl _) (fun _ h => .inl h) fun _ h => .inl h
  | tick => exact hi.of_frame (fun _ => rfl) (List.Subset.refl _) (fun _ h => .inl h) fun _ h => .inl h

end DestInv

theorem Reachable.destInv {env : Env} {s : State} (h : Reachable env s) : DestInv s := by
  induction h with
  | init r => exact ⟨fun _ h => (nomatch h), fun _ h => (nomatch h)⟩
  | step hr hs ih => exact ih.step hr.indexInv hs

/-- **Every packet goes to a configured candidate.** In every reachable state, each packet
the core has sent upstream – primary query, retry or probe – went to the address of a
server in the registry, which some client query received names among its candidates; and
no step from it adds a server to the registry or takes one away. -/
theorem sends_to_configured_candidates {env : Env} {s : State} (h : Reachable env s) :
    (∀ snd ∈ s.sends, (s.registry.find snd.addr).isSome ∧
      ∃ cq ∈ s.arrived, ∃ u ∈ cq.upstreamServersForQuery, u.socketAddr = snd.addr) ∧
      ∀ s', Step env s s' → ∀ a, s'.registry.find a = s.registry.find a :=
  ⟨h.destInv.sends, fun _ hs => hs.find⟩

/-- A client query reaches the small resolver and its first attempt times out: the probe,
the primary and the retry all went to the one configured server, address `1`. -/
theorem sends_to_configured_candidates_retried :
    ∃ s, Reachable (smallEnv .fallback 10 10 (by decide)) s ∧
      s.sends = [.probe 1, .primary 0 1, .retry 0 1] ∧
      ((∀ snd ∈ s.sends, (s.registry.find snd.addr).isSome ∧
        ∃ cq ∈ s.arrived, ∃ u ∈ cq.upstreamServersForQuery, u.socketAddr = snd.addr) ∧
        ∀ s', Step (smallEnv .fallback 10 10 (by decide)) s s' →
          ∀ a, s'.registry.find a = s.registry.find a) := by
  have hr := (Reachable.init .single : Reachable (smallEnv .fallback 10 10 (by decide)) _).run
    [.arrive ⟨0, 0, 0⟩ [⟨1⟩] 0 0, .wake 0] rfl
  exact ⟨_, hr, rfl, sends_to_configured_candidates hr⟩

end EdgeDns
