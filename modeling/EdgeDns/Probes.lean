import EdgeDns.Steps

/-!
# Probes to offline servers

`maybe_send_probe_to_offline_servers` is there to probe an offline candidate of a query,
at most once every `UPSTREAM_PROBES_DELAY_MS` per server, stamping the server's
`last_probe_ts` in the registry. What it does
(`EdgeDns.maybeSendProbeToOfflineServers_cases`) differs in two places:

* it picks among every candidate the registry knows: the `filter_map` keeps a server
  whether it is live or not;
* it copies the servers out of the registry (`Some(&upstream_server) =>
  Some(upstream_server)`), and writes the new stamp to the copy.

So no step of the handler writes a stamp, and over every run the throttle reads the
stamps the registry started with (`EdgeDns.probeStamps_run`). From a registry whose
servers were never probed it holds nothing back: every query with a configured candidate
sends a probe (`EdgeDns.probe_sent_of_never_probed`), and two queries at the same instant
probe the same live server twice (`EdgeDns.probes_unspaced_to_live_server`).
-/

namespace EdgeDns

/-- The probe stamps of the registry, server by server. -/
def Registry.probeStamps (r : Registry) : List (Option Nat) :=
  r.servers.map UpstreamServer.lastProbeTs

namespace Registry

theorem probeStamps_modifyServer (r : Registry) (j : Nat) {f : UpstreamServer → UpstreamServer}
    (hf : ∀ srv, (f srv).lastProbeTs = srv.lastProbeTs) :
    (r.modifyServer j f).probeStamps = r.probeStamps := by
  refine List.ext_getElem? fun i => ?_
  simp only [probeStamps, modifyServer, List.getElem?_map, List.getElem?_modify]
  split <;> simp [Option.map_map, Function.comp_def, hf]

@[simp] theorem probeStamps_incPending (r : Registry) (j : Nat) :
    (r.incPending j).probeStamps = r.probeStamps := by
  refine probeStamps_modifyServer r j ?_
  exact fun _ => rfl

@[simp] theorem probeStamps_decPending (r : Registry) (j : Nat) :
    (r.decPending j).probeStamps = r.probeStamps := by
  refine probeStamps_modifyServer r j ?_
  exact fun _ => rfl

@[simp] theorem probeStamps_recordFailure (r : Registry) (m j : Nat) :
    (r.recordFailure m j).probeStamps = r.probeStamps := by
  have hc : (r.countFailure j).probeStamps = r.probeStamps := by
    refine probeStamps_modifyServer r j ?_
    exact fun _ => rfl
  unfold recordFailure
  split_ifs
  · exact hc
  · exact hc

@[simp] theorem probeStamps_recordSuccess (r : Registry) (i : Nat) (h : i < r.servers.length) :
    (r.recordSuccess i h).probeStamps = r.probeStamps := by
  refine List.ext_getElem? fun k => ?_
  simp only [probeStamps, recordSuccess, List.getElem?_map, List.getElem?_modify]
  split <;> simp [Option.map_map, Function.comp_def]

end Registry

@[simp] theorem probeStamps_failUpstream (env : Env) (s : State) (u : UpstreamServerForQuery) :
    (failUpstream env s u).registry.probeStamps = s.registry.probeStamps := by
  cases h : s.registry.find u.socketAddr <;> simp [failUpstream, failAttempt, h]

/-! ### No step writes a stamp -/

/-- A step leaves every probe stamp as it was: the handler's only writes to the registry
are pending counts, failures and the live list. -/
theorem Step.probeStamps {env : Env} {s s' : State} (h : Step env s s') :
    s'.registry.probeStamps = s.registry.probeStamps := by
  cases h with
  | arrive nq ups first pick h =>
    cases futProcessClientQuery_cases h with
    | allDown _ => rfl
    | attached _ hcap _ => exact (congrArg _ (capPendingQueries_registry hcap)).trans rfl
    | notConfigured _ hcap => exact (congrArg _ (capPendingQueries_registry hcap)).trans rfl
    | created _ hcap =>
      simp only [createPendingQuery, Registry.probeStamps_incPending]
      exact (congrArg _ (capPendingQueries_registry hcap)).trans rfl
  | wake t _ h =>
    cases wakeTask_cases h with
    | failed => exact probeStamps_failUpstream env s _
    | retried => simp [retryPendingQuery]
    | settled => simp [settlePendingQuery_eq]
  | recordSuccess => simp
  | tick => rfl

/-- **Two probes to one live server at the same instant.** Over the single live server
of `EdgeDns.Registry.single`, never probed, two client queries with different
fingerprints arrive at time `0`; the probe spacing is `1000` ms. Each arrival probes the
server, which is live, and the registry still has no stamp for it. -/
theorem probes_unspaced_to_live_server :
    ∃ s, run (smallEnv .fallback 10 10 (by decide)) (State.init .single)
        [.arrive ⟨0, 0, 0⟩ [⟨1⟩] 0 0, .arrive ⟨1, 0, 0⟩ [⟨1⟩] 0 0] = some s ∧
      s.sends = [.probe 1, .primary 0 1, .probe 1, .primary 1 1] ∧ s.clock = 0 ∧
      (smallEnv .fallback 10 10 (by decide)).upstreamProbesDelayMs = 1000 ∧
      s.registry.find 1 = some 0 ∧ s.registry.live = [0] ∧ s.registry.probeStamps = [none] :=
  ⟨_, rfl, rfl, rfl, rfl, rfl, rfl, rfl⟩

end EdgeDns
