import EdgeDns.Clients
import EdgeDns.Coalescing
import Mathlib.Logic.Relation

/-!
# The service the clients see

A client of the resolver sees little of the handler: its query is received, and then it
waits, is answered by the core (a stale entry, a SERVFAIL, or nothing when the codec
fails), or is abandoned. `EdgeDns.Serves` is that service as a state machine over the
client queries received, each with its `EdgeDns.Status`. It has three steps: a client
query is received (waiting, answered at once, or abandoned as not configured); the clients
waiting with one fingerprint are all answered, each with the reply to its own question;
or they are all abandoned.

`EdgeDns.State.service` reads a handler state as a state of the service: the client
queries on record, each with the status its responses and abandonments give it. The
handler refines the service (`EdgeDns.handler_refines_service`): from every reachable state,
each step is one `EdgeDns.HandlerMove` – an arrival is seen as the eviction of one
fingerprint, or of none, and the reception of the query, the retry closure that removes an
entry as the settling of its fingerprint, and every other step – a retry, a failure, a
response on the response path, time – as nothing.

The step that needs the invariants is the settling: the clients of the entry removed
must be exactly the clients waiting with its fingerprint. That is the ledger
(`EdgeDns.LedgerInv`: a client waits exactly when it is attached to an entry), coalescing
(`EdgeDns.CoalesceInv`: an entry's clients have its fingerprint), distinct keys, and
identities by position (`EdgeDns.Reachable.arrived_ids`).

What the service guarantees then holds of the handler (`EdgeDns.served_once_and_together`):
over every run, a client's response or abandonment is final, every response is the
reply to the client's own question, and clients waiting with one fingerprint are served
together.
-/

namespace EdgeDns

/-! ### The abstract service -/

/-- What a client query has had from the core so far. -/
inductive Status where
  /-- Nothing yet. -/
  | waiting
  /-- A response from the core. -/
  | answered (reply : Reply)
  /-- Given up without a response. -/
  | abandoned (reason : Abandon)
deriving DecidableEq, Repr

/-- The clients waiting with fingerprint `k` get the status `f` gives them; the others
keep theirs. -/
def closeGroup (k : PendingQueryKey) (f : ClientQuery → Status) (c : ClientQuery × Status) :
    ClientQuery × Status :=
  if c.2 = .waiting ∧ c.1.normalizedQuestion.pendingQueryKey = k then (c.1, f c.1) else c

/-- One step of the service, over the client queries received with their statuses. -/
inductive Serves (env : Env) : List (ClientQuery × Status) → List (ClientQuery × Status) → Prop
  /-- A client query is received, numbered by its place: it waits, is answered at once
  with the reply to its question, or is abandoned because its backend is not configured. -/
  | receive {C : List (ClientQuery × Status)} {cq : ClientQuery} {st : Status} :
      cq.id = C.length →
      (st = .waiting ∨ st = .answered (staleReply env cq.normalizedQuestion) ∨
        st = .abandoned .notConfigured) →
      Serves env C (C ++ [(cq, st)])
  /-- The clients waiting with a fingerprint are answered, each with the reply to its own
  question. -/
  | settle (C : List (ClientQuery × Status)) (k : PendingQueryKey) :
      Serves env C (C.map (closeGroup k fun cq => .answered (staleReply env cq.normalizedQuestion)))
  /-- The clients waiting with a fingerprint are abandoned. -/
  | evict (C : List (ClientQuery × Status)) (k : PendingQueryKey) :
      Serves env C (C.map (closeGroup k fun _ => .abandoned .evicted))

/-- What one step of the handler is to its clients: nothing; the settling of one
fingerprint; or the reception of one client query, after the eviction of one fingerprint
or of none. -/
inductive HandlerMove (env : Env) (C : List (ClientQuery × Status)) :
    List (ClientQuery × Status) → Prop
  | nothing : HandlerMove env C C
  | settle (k : PendingQueryKey) :
      HandlerMove env C (C.map (closeGroup k fun cq => .answered (staleReply env cq.normalizedQuestion)))
  | receive {C₁ : List (ClientQuery × Status)} {cq : ClientQuery} {st : Status} :
      (C₁ = C ∨ ∃ k, C₁ = C.map (closeGroup k fun _ => .abandoned .evicted)) →
      Serves env C₁ (C₁ ++ [(cq, st)]) → HandlerMove env C (C₁ ++ [(cq, st)])

/-- Each such move is a run of the service of at most two steps. -/
theorem HandlerMove.reflTransGen {env : Env} {C C' : List (ClientQuery × Status)}
    (h : HandlerMove env C C') : Relation.ReflTransGen (Serves env) C C' := by
  cases h with
  | nothing => exact .refl
  | settle k => exact .single (.settle C k)
  | receive hC hrecv =>
    rcases hC with rfl | ⟨k, rfl⟩
    · exact .single hrecv
    · exact .head (.evict C k) (.single hrecv)

/-! ### What the service guarantees -/

/-- `C'` keeps `C`: the same client queries in the same places, and each that has had a
response or was abandoned keeps that status. -/
def Keeps (C C' : List (ClientQuery × Status)) : Prop :=
  ∀ (i : Nat) (c : ClientQuery × Status), C[i]? = some c → ∃ st, C'[i]? = some (c.1, st) ∧ (c.2 ≠ .waiting → st = c.2)

/-- Two client queries waiting in `C` with one fingerprint are both waiting in `C'`, or
neither is. -/
def Together (C C' : List (ClientQuery × Status)) : Prop :=
  ∀ (i j : Nat) (ci cj : ClientQuery × Status), C[i]? = some ci → C[j]? = some cj → ci.2 = .waiting → cj.2 = .waiting →
    ci.1.normalizedQuestion.pendingQueryKey = cj.1.normalizedQuestion.pendingQueryKey →
    ((C'[i]?).map Prod.snd = some .waiting ↔ (C'[j]?).map Prod.snd = some .waiting)

/-- Every response is the reply to the client's own question. -/
def RepliesOwn (env : Env) (C : List (ClientQuery × Status)) : Prop :=
  ∀ c ∈ C, ∀ r, c.2 = .answered r → r = staleReply env c.1.normalizedQuestion

theorem Keeps.refl (C : List (ClientQuery × Status)) : Keeps C C :=
  fun _ c h => ⟨c.2, h, fun _ => rfl⟩

theorem Keeps.trans {C C' C'' : List (ClientQuery × Status)} (h : Keeps C C') (h' : Keeps C' C'') :
    Keeps C C'' := by
  intro i c hc
  obtain ⟨st, hst, hkeep⟩ := h i c hc
  obtain ⟨st', hst', hkeep'⟩ := h' i _ hst
  refine ⟨st', hst', fun hw => ?_⟩
  rw [hkeep' (by rwa [hkeep hw]), hkeep hw]

theorem closeGroup_fst (k : PendingQueryKey) (f : ClientQuery → Status) (c : ClientQuery × Status) :
    (closeGroup k f c).1 = c.1 := by
  unfold closeGroup
  split <;> rfl

/-- Closing a group keeps every client, and closes two waiting clients of one fingerprint
together, when it gives no client the status `waiting`. -/
theorem keeps_together_map_closeGroup (C : List (ClientQuery × Status)) (k : PendingQueryKey)
    {f : ClientQuery → Status} (hf : ∀ cq, f cq ≠ .waiting) :
    Keeps C (C.map (closeGroup k f)) ∧ Together C (C.map (closeGroup k f)) := by
  refine ⟨fun i c hc => ⟨(closeGroup k f c).2, ?_, fun hw => ?_⟩,
    fun i j ci cj hi hj hwi hwj hk => ?_⟩
  · rw [List.getElem?_map, hc, Option.map_some']
    exact congrArg some (Prod.ext (closeGroup_fst k f c) rfl)
  · simp [closeGroup, hw]
  · simp only [List.getElem?_map, hi, hj, Option.map_some', closeGroup, hwi, hwj, true_and, hk]
    by_cases hkj : cj.1.normalizedQuestion.pendingQueryKey = k <;> simp [hkj, hf, hwi, hwj]

theorem Serves.keeps_together {env : Env} {C C' : List (ClientQuery × Status)}
    (h : Serves env C C') : Keeps C C' ∧ Together C C' := by
  cases h with
  | receive =>
    refine ⟨fun i c hc => ⟨c.2, ?_, fun _ => rfl⟩, fun i j ci cj hi hj hwi hwj _ => ?_⟩
    · rw [List.getElem?_append_left (List.getElem?_eq_some_iff.mp hc).1, hc]
    · rw [List.getElem?_append_left (List.getElem?_eq_some_iff.mp hi).1,
        List.getElem?_append_left (List.getElem?_eq_some_iff.mp hj).1, hi, hj]
      simp [hwi, hwj]
  | settle => exact keeps_together_map_closeGroup _ _ fun _ => nofun
  | evict => exact keeps_together_map_closeGroup _ _ fun _ => nofun

theorem Serves.repliesOwn {env : Env} {C C' : List (ClientQuery × Status)} (h : Serves env C C')
    (hC : RepliesOwn env C) : RepliesOwn env C' := by
  cases h with
  | receive _ hst =>
    intro c hc r hr
    rcases List.mem_append.mp hc with hc | hc
    · exact hC c hc r hr
    · obtain rfl := List.mem_singleton.mp hc
      rcases hst with rfl | rfl | rfl <;> cases hr
      rfl
  | settle | evict =>
    intro c hc r hr
    obtain ⟨c, hcC, rfl⟩ := List.mem_map.mp hc
    rw [closeGroup_fst]
    unfold closeGroup at hr
    split at hr
    · cases hr <;> rfl
    · exact hC c hcC r hr

theorem Together.refl (C : List (ClientQuery × Status)) : Together C C :=
  fun _ _ _ _ hi hj hwi hwj _ => by simp [hi, hj, hwi, hwj]

/-- Two stretches of a run that each serve waiting clients of one fingerprint together, the
first keeping what it served, serve them together. -/
theorem Together.trans {C C' C'' : List (ClientQuery × Status)} (hk : Keeps C C')
    (ht : Together C C') (hk' : Keeps C' C'') (ht' : Together C' C'') : Together C C'' := by
  intro i j ci cj hi hj hwi hwj hkey
  obtain ⟨sti, hsti, -⟩ := hk i ci hi
  obtain ⟨stj, hstj, -⟩ := hk j cj hj
  have hmid := ht i j ci cj hi hj hwi hwj hkey
  simp only [hsti, hstj, Option.map_some', Option.some.injEq] at hmid
  by_cases hw : sti = .waiting
  · exact ht' i j _ _ hsti hstj hw (hmid.mp hw) hkey
  · have hwj : stj ≠ .waiting := fun h => hw (hmid.mpr h)
    obtain ⟨_, hsti', hi'⟩ := hk' i _ hsti
    obtain ⟨_, hstj', hj'⟩ := hk' j _ hstj
    simp only [hsti', hstj', Option.map_some', Option.some.injEq, hi' hw, hj' hwj, hw, hwj]

/-- **What every run of the service keeps.** Along every run, the client queries keep their
places, each that had a response or was abandoned keeps it, and two waiting with one
fingerprint stay waiting together or are served together. -/
theorem keeps_together_of_reflTransGen {env : Env} {C C' : List (ClientQuery × Status)}
    (h : Relation.ReflTransGen (Serves env) C C') : Keeps C C' ∧ Together C C' := by
  induction h with
  | refl => exact ⟨Keeps.refl _, Together.refl _⟩
  | tail _ hstep ih =>
    obtain ⟨hk', ht'⟩ := hstep.keeps_together
    exact ⟨ih.1.trans hk', Together.trans ih.1 ih.2 hk' ht'⟩

theorem repliesOwn_of_reflTransGen {env : Env} {C C' : List (ClientQuery × Status)}
    (h : Relation.ReflTransGen (Serves env) C C') (hC : RepliesOwn env C) : RepliesOwn env C' := by
  induction h with
  | refl => exact hC
  | tail _ hstep ih => exact hstep.repliesOwn ih

/-! ### Reading a handler state -/

/-- The first record a log by client keeps for client `i`. -/
def logged {α : Type} (log : List (Nat × α)) (i : Nat) : Option α :=
  (log.find? fun e => e.1 = i).map Prod.snd

theorem logged_eq_none {α : Type} {log : List (Nat × α)} {i : Nat} :
    logged log i = none ↔ i ∉ log.map Prod.fst := by
  simp only [logged, Option.map_eq_none', List.find?_eq_none, decide_eq_true_eq, List.mem_map,
    not_exists, not_and]

theorem logged_append {α : Type} (log log' : List (Nat × α)) (i : Nat) :
    logged (log ++ log') i = (logged log i).or (logged log' i) := by
  simp only [logged, List.find?_append]
  cases log.find? fun e => e.1 = i <;> rfl

/-- The record of a group of clients, for one of them or for a client outside it, when
client identities are distinct. -/
theorem logged_map_clients {α : Type} (f : ClientQuery → α) {cq : ClientQuery} :
    ∀ (cqs : List ClientQuery), (∀ c ∈ cqs, c.id = cq.id → c = cq) →
      logged (cqs.map fun c => (c.id, f c)) cq.id = if cq ∈ cqs then some (f cq) else none
  | [], _ => rfl
  | c :: cqs, hinj => by
    have ih := logged_map_clients f cqs fun c' hc' => hinj c' (List.mem_cons_of_mem _ hc')
    by_cases hc : c.id = cq.id
    · obtain rfl := hinj c (List.mem_cons_self _ _) hc
      simp [logged]
    · have hne : cq ≠ c := fun h => hc (h ▸ rfl)
      simp only [logged, List.map_cons, List.find?_cons, hc, decide_False] at ih ⊢
      simpa [hne] using ih

/-- What client `i` has had, read off a log of responses and a log of abandonments: its
response, else its abandonment, else nothing yet. -/
def Status.read (R : List (Nat × Reply)) (A : List (Nat × Abandon)) (i : Nat) : Status :=
  match logged R i, logged A i with
  | some r, _ => .answered r
  | none, some a => .abandoned a
  | none, none => .waiting

namespace Status

variable {R R' : List (Nat × Reply)} {A A' : List (Nat × Abandon)} {i : Nat}

theorem read_eq_waiting : read R A i = .waiting ↔ i ∉ R.map Prod.fst ∧ i ∉ A.map Prod.fst := by
  rw [← logged_eq_none, ← logged_eq_none]
  unfold read
  split <;> simp_all

/-- Records for other clients change nothing. -/
theorem read_append_of_not_mem (hR : i ∉ R'.map Prod.fst) (hA : i ∉ A'.map Prod.fst) :
    read (R ++ R') (A ++ A') i = read R A i := by
  unfold read
  rw [logged_append, logged_append, logged_eq_none.mpr hR, logged_eq_none.mpr hA,
    Option.or_none, Option.or_none]

/-- A waiting client gets what the new records give it. -/
theorem read_append_of_waiting (h : read R A i = .waiting) :
    read (R ++ R') (A ++ A') i = read R' A' i := by
  obtain ⟨hR, hA⟩ := read_eq_waiting.mp h
  unfold read
  rw [logged_append, logged_append, logged_eq_none.mpr hR, logged_eq_none.mpr hA,
    Option.none_or, Option.none_or]

end Status

/-- What client `i` has had in a state. -/
def statusOf (s : State) : Nat → Status := Status.read s.responses s.abandoned

/-- **The abstraction**: the client queries on record, each with its status. -/
def State.service (s : State) : List (ClientQuery × Status) :=
  s.arrived.map fun cq => (cq, statusOf s cq.id)

/-! ### What reachability gives the abstraction -/

section Reachable

variable {env : Env} {s : State}

/-- Client queries on record are told apart by their identities. -/
theorem Reachable.eq_of_id_eq (h : Reachable env s) {c c' : ClientQuery} (hc : c ∈ s.arrived)
    (hc' : c' ∈ s.arrived) (hid : c.id = c'.id) : c = c' := by
  have hnd : (s.arrived.map ClientQuery.id).Nodup := h.arrived_ids ▸ List.nodup_range _
  exact List.inj_on_of_nodup_map hnd hc hc' hid

/-- The clients of an entry are on record, with the entry's fingerprint. -/
theorem Reachable.mem_arrived_of_mem_clients (h : Reachable env s)
    {p : PendingQueryKey × PendingQuery} (hp : p ∈ s.pendingQueries.entries) {c : ClientQuery}
    (hc : c ∈ p.2.clientQueries) : c ∈ s.arrived ∧ c.normalizedQuestion.pendingQueryKey = p.1 := by
  have := (h.coalesceInv p hp).subset hc
  simpa [arrivalsWith] using this

/-- Every identity in the logs belongs to a client query on record. -/
theorem Reachable.lt_of_mem_logs (h : Reachable env s) {i : Nat}
    (hi : i ∈ s.responses.map Prod.fst ∨ i ∈ s.abandoned.map Prod.fst) : i < s.arrived.length := by
  have : i ∈ ledger s := by rcases hi with hi | hi <;> simp [ledger, hi]
  exact List.mem_range.mp (h.ledgerInv.subset this)

/-- **A client waits exactly when it is attached to an entry.** -/
theorem Reachable.statusOf_eq_waiting_iff (h : Reachable env s) {cq : ClientQuery}
    (hcq : cq ∈ s.arrived) :
    statusOf s cq.id = .waiting ↔ ∃ p ∈ s.pendingQueries.entries, cq ∈ p.2.clientQueries := by
  have hnd : (ledger s).Nodup := h.ledgerInv.nodup_iff.mpr (List.nodup_range _)
  simp only [ledger, List.nodup_append, List.disjoint_append_left] at hnd
  obtain ⟨⟨-, -, hdr⟩, -, hda, -⟩ := hnd
  unfold statusOf
  rw [Status.read_eq_waiting]
  constructor
  · rintro ⟨hr, ha⟩
    have hlt : cq.id < s.arrived.length := by
      simpa [h.arrived_ids] using List.mem_map_of_mem ClientQuery.id hcq
    have hmem : cq.id ∈ ledger s := h.ledgerInv.mem_iff.mpr (List.mem_range.mpr hlt)
    simp only [ledger, List.mem_append, hr, ha, or_false] at hmem
    obtain ⟨p, hp, hid⟩ := List.mem_flatMap.mp hmem
    obtain ⟨c, hc, hcid⟩ := List.mem_map.mp hid
    obtain ⟨hca, -⟩ := h.mem_arrived_of_mem_clients hp hc
    exact ⟨p, hp, h.eq_of_id_eq hca hcq hcid ▸ hc⟩
  · rintro ⟨p, hp, hc⟩
    have hid : cq.id ∈ s.pendingQueries.clientIds :=
      List.mem_flatMap.mpr ⟨p, hp, List.mem_map_of_mem _ hc⟩
    exact ⟨fun hr => hdr hid hr, fun ha => hda hid ha⟩

/-- **The clients of the entry at a key are the clients waiting with that fingerprint.** -/
theorem Reachable.mem_clients_iff (h : Reachable env s) {k : PendingQueryKey} {pq : PendingQuery}
    (hget : s.pendingQueries.get k = some pq) {cq : ClientQuery} (hcq : cq ∈ s.arrived) :
    cq ∈ pq.clientQueries ↔
      statusOf s cq.id = .waiting ∧ cq.normalizedQuestion.pendingQueryKey = k := by
  have hk := PendingQueries.mem_of_get hget
  rw [h.statusOf_eq_waiting_iff hcq]
  constructor
  · intro hc
    exact ⟨⟨_, hk, hc⟩, (h.mem_arrived_of_mem_clients hk hc).2⟩
  · rintro ⟨⟨p, hp, hc⟩, rfl⟩
    have hkey := (h.mem_arrived_of_mem_clients hp hc).2
    obtain rfl : p = (cq.normalizedQuestion.pendingQueryKey, pq) :=
      List.inj_on_of_nodup_map s.pendingQueries.keys_nodup hp hk hkey.symm
    exact hc

/-- **Closing the entry at `k`.** When a step records, for the clients of the entry at `k`
and for no other client, what `f` says of each, its clients see the clients waiting with
fingerprint `k` get what `f` says. -/
theorem Reachable.service_close (h : Reachable env s) {k : PendingQueryKey} {pq : PendingQuery}
    (hget : s.pendingQueries.get k = some pq) {s' : State} {R : List (Nat × Reply)}
    {A : List (Nat × Abandon)} (harr : s'.arrived = s.arrived)
    (hR : s'.responses = s.responses ++ R) (hA : s'.abandoned = s.abandoned ++ A)
    (hids : ∀ i, i ∈ R.map Prod.fst ∨ i ∈ A.map Prod.fst → i ∈ pq.clientQueries.map ClientQuery.id)
    {f : ClientQuery → Status} (hf : ∀ cq ∈ pq.clientQueries, Status.read R A cq.id = f cq) :
    s'.service = s.service.map (closeGroup k f) := by
  unfold State.service
  rw [harr, List.map_map]
  refine List.map_congr_left fun cq hcq => ?_
  have hs' : statusOf s' cq.id = Status.read (s.responses ++ R) (s.abandoned ++ A) cq.id := by
    rw [statusOf, hR, hA]
  simp only [Function.comp_apply, closeGroup, hs']
  by_cases hmem : cq ∈ pq.clientQueries
  · have hw := (h.mem_clients_iff hget hcq).mp hmem
    rw [if_pos hw, Status.read_append_of_waiting hw.1, hf cq hmem]
  · have hout : ∀ i, i ∈ R.map Prod.fst ∨ i ∈ A.map Prod.fst → i ≠ cq.id := by
      rintro _ hi rfl
      obtain ⟨c, hc, hid⟩ := List.mem_map.mp (hids _ hi)
      exact hmem (h.eq_of_id_eq (h.mem_arrived_of_mem_clients
        (PendingQueries.mem_of_get hget) hc).1 hcq hid ▸ hc)
    rw [if_neg (mt (h.mem_clients_iff hget hcq).mpr hmem),
      Status.read_append_of_not_mem (fun hi => hout _ (.inl hi) rfl) fun hi => hout _ (.inr hi) rfl]
    rfl

/-- The clients of an entry are told apart by their identities. -/
theorem Reachable.eq_of_mem_clients (h : Reachable env s) {k : PendingQueryKey}
    {pq : PendingQuery} (hget : s.pendingQueries.get k = some pq) {cq : ClientQuery}
    (hcq : cq ∈ pq.clientQueries) : ∀ c ∈ pq.clientQueries, c.id = cq.id → c = cq :=
  have hk := PendingQueries.mem_of_get hget
  fun _ hc hid => h.eq_of_id_eq (h.mem_arrived_of_mem_clients hk hc).1
    (h.mem_arrived_of_mem_clients hk hcq).1 hid

/-- The retry closure that removes the entry at `k` and answers its clients settles `k`. -/
theorem Reachable.service_settle (h : Reachable env s) {k : PendingQueryKey} {pq : PendingQuery}
    (hget : s.pendingQueries.get k = some pq) {s' : State} (harr : s'.arrived = s.arrived)
    (hR : s'.responses = s.responses ++
      pq.clientQueries.map fun cq => (cq.id, staleReply env cq.normalizedQuestion))
    (hA : s'.abandoned = s.abandoned) :
    s'.service = s.service.map (closeGroup k fun cq => .answered (staleReply env cq.normalizedQuestion)) :=
  h.service_close hget harr hR (hA.trans (List.append_nil _).symm)
    (fun i hi => by simpa [Function.comp_def] using hi) fun cq hcq => by
    unfold Status.read
    rw [logged_map_clients _ _ (h.eq_of_mem_clients hget hcq), if_pos hcq]

/-- Eviction of the entry at `k` evicts `k`. -/
theorem Reachable.service_evict (h : Reachable env s) {k : PendingQueryKey} {pq : PendingQuery}
    (hget : s.pendingQueries.get k = some pq) {s' : State} (harr : s'.arrived = s.arrived)
    (hR : s'.responses = s.responses)
    (hA : s'.abandoned = s.abandoned ++ pq.clientQueries.map fun cq => (cq.id, .evicted)) :
    s'.service = s.service.map (closeGroup k fun _ => .abandoned .evicted) :=
  h.service_close hget harr (hR.trans (List.append_nil _).symm) hA
    (fun i hi => by simpa [Function.comp_def] using hi) fun cq hcq => by
    unfold Status.read
    rw [logged_map_clients _ _ (h.eq_of_mem_clients hget hcq), if_pos hcq]
    rfl

/-- A client query on record is numbered below the number on record. -/
theorem Reachable.id_lt (h : Reachable env s) {c : ClientQuery} (hc : c ∈ s.arrived) :
    c.id < s.arrived.length :=
  List.mem_range.mp (h.arrived_ids ▸ List.mem_map_of_mem _ hc)

/-- No log has a record for the next client. -/
theorem Reachable.statusOf_length (h : Reachable env s) :
    statusOf s s.arrived.length = .waiting :=
  Status.read_eq_waiting.mpr ⟨fun hi => (h.lt_of_mem_logs (.inl hi)).false,
    fun hi => (h.lt_of_mem_logs (.inr hi)).false⟩

/-- Eviction, on the arrival of a client query, evicts one fingerprint or nothing, and
leaves no record for the arriving client. -/
theorem Reachable.service_capPendingQueries (h : Reachable env s) {cq : ClientQuery}
    {first : Nat} {b : Bool} {s₁ : State}
    (hcap : capPendingQueries env { s with arrived := s.arrived ++ [cq] } first = some (b, s₁)) :
    ({ s₁ with arrived := s.arrived }.service = s.service ∨
      ∃ k, { s₁ with arrived := s.arrived }.service =
        s.service.map (closeGroup k fun _ => .abandoned .evicted)) ∧
      statusOf s₁ s.arrived.length = .waiting := by
  rcases capPendingQueries_cases hcap with ⟨rfl, -⟩ | ⟨key, pq, -, hget, -, rfl⟩
  · exact ⟨.inl rfl, h.statusOf_length⟩
  · refine ⟨.inr ⟨key, h.service_evict hget rfl rfl rfl⟩, ?_⟩
    have hout : s.arrived.length ∉ (pq.clientQueries.map fun cq => (cq.id, Abandon.evicted)).map
        Prod.fst := fun hi => by
      obtain ⟨c, hc, hid⟩ := List.mem_map.mp (by simpa [Function.comp_def] using hi)
      exact (h.id_lt (h.mem_arrived_of_mem_clients (PendingQueries.mem_of_get hget) hc).1).ne hid
    unfold statusOf
    rw [← List.append_nil s.responses]
    exact (Status.read_append_of_not_mem (List.not_mem_nil _) hout).trans h.statusOf_length

end Reachable

/-- **Receiving a client query.** When a step puts a client query on record, numbered by
its place, and records something for it and for no other client, its clients see the
query received with what those records give it, after what took `C` to `s₁`. -/
theorem move_snoc {env : Env} {C : List (ClientQuery × Status)} (s₁ : State) {s' : State}
    (cq : ClientQuery)
    (hC : s₁.service = C ∨ ∃ k, s₁.service = C.map (closeGroup k fun _ => .abandoned .evicted))
    {R : List (Nat × Reply)} {A : List (Nat × Abandon)} (harr : s'.arrived = s₁.arrived ++ [cq])
    (hR : s'.responses = s₁.responses ++ R) (hA : s'.abandoned = s₁.abandoned ++ A)
    (hRid : R.map Prod.fst ⊆ [cq.id]) (hAid : A.map Prod.fst ⊆ [cq.id])
    (hold : ∀ c ∈ s₁.arrived, c.id ≠ cq.id) (hid : cq.id = s₁.arrived.length)
    (hfresh : statusOf s₁ cq.id = .waiting)
    (hst : Status.read R A cq.id = .waiting ∨
      Status.read R A cq.id = .answered (staleReply env cq.normalizedQuestion) ∨
      Status.read R A cq.id = .abandoned .notConfigured) :
    HandlerMove env C s'.service := by
  have hs' : s'.service = s₁.service ++ [(cq, Status.read R A cq.id)] := by
    unfold State.service statusOf at *
    rw [harr, hR, hA, List.map_append, List.map_singleton, Status.read_append_of_waiting hfresh]
    refine congrArg (· ++ _) (List.map_congr_left fun c hc => ?_)
    rw [Status.read_append_of_not_mem (fun hi => hold c hc (List.mem_singleton.mp (hRid hi)))
      fun hi => hold c hc (List.mem_singleton.mp (hAid hi))]
  rw [hs']
  exact .receive hC (.receive (by simp [State.service, hid]) hst)

section Steps

variable {env : Env} {s s' : State}

/-- **An arrival is seen as the eviction of one fingerprint, or none, and the reception of
the client query**: waiting when it is attached or an entry is created for it, answered
at once when no server is live, abandoned when its backend is not configured. -/
theorem Reachable.service_arrive (h : Reachable env s) {nq : NormalizedQuestion}
    {ups : List UpstreamServerForQuery} {first pick : Nat}
    (hs : futProcessClientQuery env s nq ups first pick = some s') :
    HandlerMove env s.service s'.service := by
  have hold : ∀ c ∈ s.arrived, c.id ≠ s.arrived.length := fun c hc => (h.id_lt hc).ne
  cases futProcessClientQuery_cases hs with
  | allDown _ =>
    exact move_snoc s _ (.inl rfl) rfl rfl (List.append_nil _).symm (by simp) (by simp) hold rfl
      h.statusOf_length (.inr (.inl (by simp [Status.read, logged])))
  | @attached b s₁ pq _ hcap _ | @created b s₁ _ _ _ _ _ _ hcap =>
    obtain ⟨hC, hfresh⟩ := h.service_capPendingQueries hcap
    exact move_snoc { s₁ with arrived := s.arrived } _ hC (capPendingQueries_arrived hcap)
      (List.append_nil _).symm (List.append_nil _).symm (by simp) (by simp) hold rfl hfresh
      (.inl rfl)
  | @notConfigured b s₁ _ _ _ _ _ hcap =>
    obtain ⟨hC, hfresh⟩ := h.service_capPendingQueries hcap
    exact move_snoc { s₁ with arrived := s.arrived } _ hC (capPendingQueries_arrived hcap)
      (List.append_nil _).symm rfl (by simp) (by simp) hold rfl hfresh
      (.inr (.inr (by simp [Status.read, logged])))

/-- **A wake-up is seen as the settling of one fingerprint, or as nothing.** -/
theorem Reachable.service_wake (h : Reachable env s) {t : Task} (hw : wakeTask env s t = some s') :
    HandlerMove env s.service s'.service := by
  cases wakeTask_cases hw with
  | failed | retried => exact .nothing
  | settled _ _ hget =>
    rw [settlePendingQuery_eq]
    exact Eq.mpr (congrArg (HandlerMove env s.service) (h.service_settle hget rfl rfl rfl)) (.settle _)

/-- **Each step of the handler is one move of the service.** From every reachable state,
an arrival is seen by the clients as the eviction of one fingerprint, or none, followed by
the reception of the client query; the wake-up of a retry task that removes an entry as the
settling of the entry's fingerprint; every other step – a retry, a failure, a response on
the response path, time passing – as nothing. -/
theorem Step.move (h : Reachable env s) (hs : Step env s s') :
    HandlerMove env s.service s'.service := by
  cases hs with
  | arrive _ _ _ _ hs => exact h.service_arrive hs
  | wake _ _ hw => exact h.service_wake hw
  | recordSuccess | tick => exact .nothing

/-- Each step of the handler is a run of the service. -/
theorem Step.refines_service (h : Reachable env s) (hs : Step env s s') :
    Relation.ReflTransGen (Serves env) s.service s'.service :=
  (Step.move h hs).reflTransGen

end Steps

/-! ### Every run -/

/-- Every reachable state is seen by its clients as a state the service reaches from
nothing. -/
theorem Reachable.service_reachable {env : Env} {s : State} (h : Reachable env s) :
    Relation.ReflTransGen (Serves env) [] s.service := by
  induction h with
  | init r => exact .refl
  | step hs hstep ih => exact ih.trans (Step.refines_service hs hstep)

/-- **The handler refines the service.** Every reachable state of the handler is seen by
its clients as a state the service reaches from nothing, and every step from it as a run
of the service: nothing, the settling of one fingerprint, or the reception of one client
query after the eviction of one fingerprint or of none. -/
theorem handler_refines_service {env : Env} {s : State} (h : Reachable env s) :
    Relation.ReflTransGen (Serves env) [] s.service ∧
      ∀ s', Step env s s' → HandlerMove env s.service s'.service ∧
        Relation.ReflTransGen (Serves env) s.service s'.service :=
  ⟨h.service_reachable, fun _ hs => ⟨Step.move h hs, Step.refines_service h hs⟩⟩

/-- The retry closure settles an entry with one client: the client, waiting, is answered
with the SERVFAIL the small resolver builds. -/
theorem handler_refines_service_settle :
    ∃ s s', Reachable (smallEnv .fallback 10 10 (by decide)) s ∧
      Step (smallEnv .fallback 10 10 (by decide)) s s' ∧
      s.service = [(⟨0, ⟨0, 0, 0⟩, [⟨1⟩]⟩, .waiting)] ∧
      s'.service = [(⟨0, ⟨0, 0, 0⟩, [⟨1⟩]⟩, .answered (.servfail 0))] ∧
      (Relation.ReflTransGen (Serves (smallEnv .fallback 10 10 (by decide))) [] s.service ∧
        ∀ s', Step (smallEnv .fallback 10 10 (by decide)) s s' →
          HandlerMove (smallEnv .fallback 10 10 (by decide)) s.service s'.service ∧
            Relation.ReflTransGen (Serves (smallEnv .fallback 10 10 (by decide))) s.service s'.service) := by
  have hr := (Reachable.init .single : Reachable (smallEnv .fallback 10 10 (by decide)) _).run
    [.arrive ⟨0, 0, 0⟩ [⟨1⟩] 0 0, .wake 0] rfl
  exact ⟨_, _, hr, .wake ⟨1, 0, ⟨1⟩, .retryAttempt ⟨0, (0, 0)⟩ 0⟩ (by decide) rfl, rfl, rfl,
    handler_refines_service hr⟩

/-- A computed run from a reachable state is seen as a run of the service. -/
theorem serves_of_run {env : Env} {s s' : State} (h : Reachable env s) :
    ∀ evs, run env s evs = some s' → Relation.ReflTransGen (Serves env) s.service s'.service
  | [], hrun => by cases hrun; exact .refl
  | _ :: evs, hrun => by
    obtain ⟨s₁, h₁, h₂⟩ := Option.bind_eq_some.mp hrun
    have hstep := Event.step h₁
    exact (Step.refines_service h hstep).trans (serves_of_run (h.step hstep) evs h₂)

/-- **Served once, with its own reply, and together.** Over every run from a reachable
state: each client query on record keeps its place, and once answered or abandoned keeps
that response or that reason; two client queries waiting with one fingerprint are both
still waiting, or both have been served; and every response the core has produced is the
reply to its client's own question. -/
theorem served_once_and_together {env : Env} {s s' : State} (h : Reachable env s)
    {evs : List Event} (hrun : run env s evs = some s') :
    Keeps s.service s'.service ∧ Together s.service s'.service ∧ RepliesOwn env s'.service :=
  have hkt := keeps_together_of_reflTransGen (serves_of_run h evs hrun)
  ⟨hkt.1, hkt.2, repliesOwn_of_reflTransGen (h.run evs hrun).service_reachable fun _ h => nomatch h⟩

/-- Two client queries with one fingerprint share an entry of the small resolver; its two
timers run out, and both clients are answered at once. -/
theorem served_once_and_together_pair :
    ∃ s s', Reachable (smallEnv .fallback 10 10 (by decide)) s ∧
      run (smallEnv .fallback 10 10 (by decide)) s [.wake 0, .wake 0] = some s' ∧
      s.service.map Prod.snd = [.waiting, .waiting] ∧
      s'.service.map Prod.snd = [.answered (.servfail 0), .answered (.servfail 0)] ∧
      (Keeps s.service s'.service ∧ Together s.service s'.service ∧
        RepliesOwn (smallEnv .fallback 10 10 (by decide)) s'.service) := by
  have hr := (Reachable.init .single : Reachable (smallEnv .fallback 10 10 (by decide)) _).run
    [.arrive ⟨0, 0, 0⟩ [⟨1⟩] 0 0, .arrive ⟨0, 0, 1⟩ [⟨1⟩] 0 0] rfl
  exact ⟨_, _, hr, rfl, rfl, rfl, @served_once_and_together _ _ _ hr [.wake 0, .wake 0] rfl⟩

end EdgeDns
