import EdgeDns.Timers

/-!
# Runs in which no cancelled task wakes

Two of the failures found in `EdgeDns/Timers.lean` – a closure that acts on a newer
entry under its key, and an entry that gets a third attempt – start with a closure that
runs because its receiver was cancelled. This file shows that they need one. In an
*armed* run every task that wakes is armed: an entry still holds its channel, so what
woke it is its timer (`EdgeDns.ArmedReachable`). Every run of the handler is armed up to
the first wake-up of a cancelled task, and every armed run is a run
(`EdgeDns.ArmedReachable.reachable`).

For the timers an entry is its key, its instance and its current channel
(`EdgeDns.EntryHead`). The invariant `EdgeDns.AttemptInv` counts the attempts of every
instance – one until its entry is retried, two after – and says that a task whose
channel an entry holds is armed for that entry: a first-attempt task for an entry not yet
retried, a retry task for one that was, found under its own key. So in an armed run a
wake-up acts on the entry its task was armed for, and no instance gets more than its
primary and one retry (`EdgeDns.armed_attempts_le_two`).
-/

namespace EdgeDns

/-! ### Entries as the timers see them -/

/-- An entry, for the timers: its key, its instance and the channel it holds. -/
structure EntryHead where
  /-- The key the entry is stored under. -/
  key : PendingQueryKey
  /-- The entry's instance. -/
  inst : Nat
  /-- The channel whose sender the entry holds. -/
  doneTx : Nat

namespace PendingQueries

/-- The entries, as the timers see them. -/
def heads (m : PendingQueries) : List EntryHead :=
  m.entries.map fun p => ⟨p.1, p.2.inst, p.2.doneTx⟩

theorem heads_remove_sublist (m : PendingQueries) (k : PendingQueryKey) :
    (m.remove k).heads.Sublist m.heads :=
  (List.filter_sublist _).map _

/-- An update in place that keeps the instance and the channel keeps the heads. -/
theorem heads_modify (m : PendingQueries) (k : PendingQueryKey) {f : PendingQuery → PendingQuery}
    (hf : ∀ v, (f v).inst = v.inst ∧ (f v).doneTx = v.doneTx) : (m.modify k f).heads = m.heads := by
  simp only [heads, modify, List.map_map]
  congr 1
  funext p
  simp only [Function.comp_apply]
  split
  · rw [(hf p.2).1, (hf p.2).2]
  · rfl

theorem heads_insert_of_get_eq_none {m : PendingQueries} {k : PendingQueryKey} (v : PendingQuery)
    (h : m.get k = none) : (m.insert k v).heads = m.heads ++ [⟨k, v.inst, v.doneTx⟩] := by
  simp [heads, insert, remove_of_get_eq_none h]

theorem heads_perm_remove {m : PendingQueries} {k : PendingQueryKey} {v : PendingQuery}
    (h : m.get k = some v) : m.heads.Perm (⟨k, v.inst, v.doneTx⟩ :: (m.remove k).heads) :=
  (perm_remove h).map _

theorem heads_perm_modify {m : PendingQueries} {k : PendingQueryKey} {v : PendingQuery}
    (f : PendingQuery → PendingQuery) (h : m.get k = some v) :
    (m.modify k f).heads.Perm (⟨k, (f v).inst, (f v).doneTx⟩ :: (m.remove k).heads) :=
  (perm_modify f h).map _

/-- Two entries with one key are one entry. -/
theorem eq_of_mem_heads {m : PendingQueries} {e e' : EntryHead} (he : e ∈ m.heads)
    (he' : e' ∈ m.heads) (hk : e.key = e'.key) : e = e' :=
  List.inj_on_of_nodup_map (by simpa [heads, List.map_map, Function.comp_def] using m.keys_nodup)
    he he' hk

theorem mem_heads_of_get {m : PendingQueries} {k : PendingQueryKey} {v : PendingQuery}
    (h : m.get k = some v) : ⟨k, v.inst, v.doneTx⟩ ∈ m.heads :=
  List.mem_map_of_mem _ (mem_of_get h)

end PendingQueries

theorem entryChannels_eq_heads (s : State) :
    s.entryChannels = s.pendingQueries.heads.map EntryHead.doneTx := by
  simp [State.entryChannels, PendingQueries.heads, Function.comp_def]

/-! ### Attempts -/

theorem attemptSends_probes (s : State) (l : List Nat) (i : Nat) :
    attemptSends { s with sends := s.sends ++ l.map Send.probe } i = attemptSends s i := by
  simp [attemptSends, List.countP_map, Function.comp_def, Send.isAttemptOf]

theorem attemptSends_createPendingQuery (s : State) (key : PendingQueryKey) (cq : ClientQuery)
    (idx : Nat) (probe : Option Nat) (u : UpstreamServerForQuery) (j i : Nat) :
    attemptSends (createPendingQuery s key cq idx probe u j) i =
      attemptSends s i + if s.fresh = i then 1 else 0 := by
  simp [attemptSends, createPendingQuery, Send.isAttemptOf, List.countP_cons]

theorem attemptSends_retryPendingQuery (s : State) (key : PendingQueryKey) (pq : PendingQuery)
    (idx : Nat) (u : UpstreamServerForQuery) (j i : Nat) :
    attemptSends (retryPendingQuery s key pq idx u j) i =
      attemptSends s i + if pq.inst = i then 1 else 0 := by
  simp [attemptSends, retryPendingQuery, Send.isAttemptOf, List.countP_cons]

/-! ### Armed runs -/

/-- The key a task's closure looks its entry up by. -/
def TaskKind.key : TaskKind → PendingQueryKey
  | .firstAttempt nq _ => nq.pendingQueryKey
  | .retryAttempt key _ => key

/-- The task belongs to a first attempt. -/
def TaskKind.isFirstAttempt : TaskKind → Bool
  | .firstAttempt _ _ => true
  | .retryAttempt _ _ => false

/-- A task is armed for an entry: the task belongs to an attempt of the entry's
instance, looks it up under its key, and is a first attempt exactly when the entry has
not been retried. -/
def Task.ArmedFor (t : Task) (e : EntryHead) : Prop :=
  t.inst = e.inst ∧ t.kind.key = e.key ∧ (t.kind.isFirstAttempt = true ↔ e.doneTx = e.inst)

/-- The states of the runs from the start over registry `r` in which every task that
wakes is armed. -/
inductive ArmedReachable (env : Env) (r : Registry) : State → Prop
  /-- The start. -/
  | init : ArmedReachable env r (State.init r)
  /-- A client query arrives. -/
  | arrive {s s' : State} (nq : NormalizedQuestion) (ups : List UpstreamServerForQuery)
      (first pick : Nat) : ArmedReachable env r s →
      futProcessClientQuery env s nq ups first pick = some s' → ArmedReachable env r s'
  /-- A task whose channel an entry still holds wakes: its timer expired. -/
  | wake {s s' : State} (t : Task) : ArmedReachable env r s → t ∈ s.tasks → ¬ t.Cancelled s →
      wakeTask env s t = some s' → ArmedReachable env r s'
  /-- A response from server `i` reaches the response path. -/
  | recordSuccess {s : State} (i : Nat) (h : i < s.registry.servers.length) :
      ArmedReachable env r s →
        ArmedReachable env r { s with registry := s.registry.recordSuccess i h }
  /-- The clock moves forward. -/
  | tick {s : State} (now : Nat) : ArmedReachable env r s → s.clock ≤ now →
      ArmedReachable env r { s with clock := now }

/-- An armed run is a run. -/
theorem ArmedReachable.reachable {env : Env} {r : Registry} {s : State}
    (h : ArmedReachable env r s) : Reachable env s := by
  induction h with
  | init => exact .init r
  | arrive nq ups first pick _ h ih => exact ih.step (.arrive nq ups first pick h)
  | wake t _ ht _ h ih => exact ih.step (.wake t ht h)
  | recordSuccess i hi _ ih => exact ih.step (.recordSuccess _ i hi)
  | tick now _ hle ih => exact ih.step (.tick _ now hle)

/-! ### The attempt invariant -/

/-- **The attempt invariant.** -/
structure AttemptInv (s : State) : Prop where
  /-- The entries are distinct instances, all drawn. -/
  insts : FreshBelow s.fresh (s.pendingQueries.heads.map EntryHead.inst)
  /-- An entry's channel was drawn no earlier than the entry. -/
  inst_le : ∀ e ∈ s.pendingQueries.heads, e.inst ≤ e.doneTx
  /-- An entry has had its primary, and one retry once it holds a later channel. -/
  sends_entry : ∀ e ∈ s.pendingQueries.heads,
    attemptSends s e.inst = if e.doneTx = e.inst then 1 else 2
  /-- No instance has had more than two attempts. -/
  sends_le : ∀ i, attemptSends s i ≤ 2
  /-- No attempt was sent for an instance not yet drawn. -/
  sends_fresh : ∀ i, s.fresh ≤ i → attemptSends s i = 0
  /-- A task whose channel an entry holds is armed for it. -/
  armed : ∀ t ∈ s.tasks, ∀ e ∈ s.pendingQueries.heads, e.doneTx = t.doneRx → t.ArmedFor e

namespace AttemptInv

variable {env : Env} {s s' : State}

/-- A step that drops entries or tasks, and sends no attempt, keeps the invariant. -/
theorem of_sublist (hi : AttemptInv s)
    (hh : s'.pendingQueries.heads.Sublist s.pendingQueries.heads) (hts : s'.tasks ⊆ s.tasks)
    (hs : ∀ i, attemptSends s' i = attemptSends s i) (hf : s'.fresh = s.fresh) : AttemptInv s' where
  insts := by rw [hf]; exact hi.insts.sublist (hh.map _)
  inst_le e he := hi.inst_le e (hh.subset he)
  sends_entry e he := (hs _).trans (hi.sends_entry e (hh.subset he))
  sends_le i := (hs i).trans_le (hi.sends_le i)
  sends_fresh i h := (hs i).trans (hi.sends_fresh i (hf ▸ h))
  armed t ht e he := hi.armed t (hts ht) e (hh.subset he)

theorem inst_lt (hi : AttemptInv s) {e : EntryHead} (he : e ∈ s.pendingQueries.heads) :
    e.inst < s.fresh :=
  hi.insts.2 _ (List.mem_map_of_mem _ he)

theorem init (r : Registry) : AttemptInv (State.init r) where
  insts := ⟨List.nodup_nil, fun _ hc => (nomatch hc)⟩
  inst_le _ he := nomatch he
  sends_entry _ he := nomatch he
  sends_le _ := Nat.zero_le 2
  sends_fresh _ _ := rfl
  armed _ ht := nomatch ht

theorem capPendingQueries (hi : AttemptInv s) {first : Nat} {b : Bool} {s₁ : State}
    (h : EdgeDns.capPendingQueries env s first = some (b, s₁)) : AttemptInv s₁ := by
  rcases capPendingQueries_cases h with ⟨rfl, -⟩ | ⟨key, pq, -, -, -, rfl⟩
  · exact hi
  · exact hi.of_sublist (PendingQueries.heads_remove_sublist _ key) (List.Subset.refl _)
      (fun _ => rfl) rfl

/-- One more attempt for an instance drawn already that had at most one, while the next
channel is drawn, keeps both bounds on the attempts. -/
theorem sends_of_bump (hi : AttemptInv s) {c : Nat} (hc : c ≤ s.fresh)
    (hone : attemptSends s c ≤ 1)
    (hsends : ∀ i, attemptSends s' i = attemptSends s i + if c = i then 1 else 0) :
    (∀ i, attemptSends s' i ≤ 2) ∧ ∀ i, s.fresh + 1 ≤ i → attemptSends s' i = 0 := by
  refine ⟨fun i => ?_, fun i h => ?_⟩
  · rw [hsends]
    split
    · subst i
      omega
    · exact hi.sends_le i
  · rw [hsends, if_neg (by omega), hi.sends_fresh i (by omega)]

/-- Creating an entry keeps the invariant: the entry is a new instance on a fresh channel,
its primary is its first attempt, and the first-attempt task that awaits the channel is
armed for it. -/
theorem createPendingQuery (hi : AttemptInv s) (hc : ChannelInv s) {key : PendingQueryKey}
    {cq : ClientQuery} {idx : Nat} {probe : Option Nat} {u : UpstreamServerForQuery} {j : Nat}
    (hget : s.pendingQueries.get key = none) (hkey : cq.normalizedQuestion.pendingQueryKey = key) :
    AttemptInv (EdgeDns.createPendingQuery s key cq idx probe u j) := by
  have hheads : (EdgeDns.createPendingQuery s key cq idx probe u j).pendingQueries.heads =
      s.pendingQueries.heads ++ [⟨key, s.fresh, s.fresh⟩] :=
    PendingQueries.heads_insert_of_get_eq_none _ hget
  have hsends := attemptSends_createPendingQuery s key cq idx probe u j
  have hdone : ∀ e ∈ s.pendingQueries.heads, e.doneTx < s.fresh := fun e he =>
    hc.entries.2 _ (by rw [entryChannels_eq_heads]; exact List.mem_map_of_mem _ he)
  have hb := hi.sends_of_bump le_rfl (by rw [hi.sends_fresh _ le_rfl]; omega) hsends
  refine ⟨?_, fun e he => ?_, fun e he => ?_, hb.1, hb.2, fun t ht e he hrx => ?_⟩
  · rw [hheads, List.map_append]
    exact hi.insts.concat
  · rw [hheads] at he
    rcases List.mem_append.mp he with he | he
    · exact hi.inst_le e he
    · rw [List.mem_singleton.mp he]
  · rw [hheads] at he
    rcases List.mem_append.mp he with he | he
    · rw [hsends, if_neg (hi.inst_lt he).ne', hi.sends_entry e he, Nat.add_zero]
    · rw [List.mem_singleton.mp he, hsends, hi.sends_fresh _ le_rfl]
      simp
  · rw [hheads] at he
    simp only [EdgeDns.createPendingQuery, List.mem_append, List.mem_singleton] at ht
    rcases ht with ht | rfl
    · rcases List.mem_append.mp he with he | he
      · exact hi.armed t ht e he hrx
      · rw [List.mem_singleton.mp he] at hrx
        exact absurd hrx (hc.tasks.2 _ (List.mem_map_of_mem _ ht)).ne'
    · rcases List.mem_append.mp he with he | he
      · exact absurd hrx (hdone e he).ne
      · rw [List.mem_singleton.mp he]
        exact ⟨rfl, hkey, by simp [TaskKind.isFirstAttempt]⟩

/-- A retry of an entry not yet retried keeps the invariant: the entry moves to a fresh
channel that only the retry task awaits, and has its second attempt. -/
theorem retryPendingQuery (hi : AttemptInv s) (hc : ChannelInv s) {key : PendingQueryKey}
    {pq : PendingQuery} {idx : Nat} {u : UpstreamServerForQuery} {j : Nat}
    (hget : s.pendingQueries.get key = some pq) (hfirst : pq.doneTx = pq.inst) :
    AttemptInv (EdgeDns.retryPendingQuery s key pq idx u j) := by
  have hperm : (EdgeDns.retryPendingQuery s key pq idx u j).pendingQueries.heads.Perm
      (⟨key, pq.inst, s.fresh⟩ :: (s.pendingQueries.remove key).heads) :=
    PendingQueries.heads_perm_modify _ hget
  have hold := PendingQueries.heads_perm_remove hget
  have hpq := PendingQueries.mem_heads_of_get hget
  have hlt : pq.inst < s.fresh := hi.inst_lt hpq
  have hrest : ∀ e ∈ (s.pendingQueries.remove key).heads,
      e ∈ s.pendingQueries.heads ∧ e.inst ≠ pq.inst := fun e he =>
    ⟨(PendingQueries.heads_remove_sublist _ _).subset he, fun hi' =>
      (List.nodup_cons.mp ((hold.map EntryHead.inst).nodup_iff.mp hi.insts.1)).1
        (List.mem_map.mpr ⟨e, he, hi'⟩)⟩
  have hdone : ∀ e ∈ s.pendingQueries.heads, e.doneTx < s.fresh := fun e he =>
    hc.entries.2 _ (by rw [entryChannels_eq_heads]; exact List.mem_map_of_mem _ he)
  have hsends := attemptSends_retryPendingQuery s key pq idx u j
  have hone : attemptSends s pq.inst = 1 := by simpa [hfirst] using hi.sends_entry _ hpq
  have hb := hi.sends_of_bump hlt.le hone.le hsends
  refine ⟨?_, fun e he => ?_, fun e he => ?_, hb.1, hb.2, fun t ht e he hrx => ?_⟩
  · exact (hi.insts.perm ((hperm.map _).trans (hold.map EntryHead.inst).symm)).mono (Nat.le_succ _)
  · rcases List.mem_cons.mp (hperm.subset he) with rfl | he
    · exact hlt.le
    · exact hi.inst_le e (hrest e he).1
  · rcases List.mem_cons.mp (hperm.subset he) with rfl | he
    · rw [hsends, hone, if_neg hlt.ne', if_pos rfl]
    · rw [hsends, if_neg (hrest e he).2.symm, hi.sends_entry e (hrest e he).1]
      rfl
  · simp only [EdgeDns.retryPendingQuery, List.mem_append, List.mem_singleton] at ht
    rcases List.mem_cons.mp (hperm.subset he) with rfl | he
    · rcases ht with ht | rfl
      · exact absurd hrx (hc.tasks.2 _ (List.mem_map_of_mem _ ht)).ne'
      · exact ⟨rfl, rfl, by simp [TaskKind.isFirstAttempt, hlt.ne']⟩
    · rcases ht with ht | rfl
      · exact hi.armed t ht e (hrest e he).1 hrx
      · exact absurd hrx (hdone e (hrest e he).1).ne

/-- An arrival keeps the invariant. -/
theorem arrive (hi : AttemptInv s) (hc : ChannelInv s) {nq : NormalizedQuestion}
    {ups : List UpstreamServerForQuery} {first pick : Nat}
    (h : futProcessClientQuery env s nq ups first pick = some s') : AttemptInv s' := by
  have hi₀ : AttemptInv { s with arrived := s.arrived ++ [⟨s.arrived.length, nq, ups⟩] } :=
    hi.of_sublist (List.Sublist.refl _) (List.Subset.refl _) (fun _ => rfl) rfl
  have hc₀ : ChannelInv { s with arrived := s.arrived ++ [⟨s.arrived.length, nq, ups⟩] } :=
    ⟨hc.tasks, hc.entries⟩
  cases futProcessClientQuery_cases h with
  | allDown _ => exact hi₀.of_sublist (List.Sublist.refl _) (List.Subset.refl _) (fun _ => rfl) rfl
  | attached _ hcap _ =>
    exact (hi₀.capPendingQueries hcap).of_sublist
      (by rw [PendingQueries.heads_modify _ _ (f := PendingQuery.addClientQuery _)
        fun _ => ⟨rfl, rfl⟩]) (List.Subset.refl _)
      (fun _ => rfl) rfl
  | notConfigured _ hcap =>
    refine (hi₀.capPendingQueries hcap).of_sublist ?_ ?_ (fun i => attemptSends_probes _ _ i) rfl
    exacts [List.Sublist.refl _, List.Subset.refl _]
  | @created b s₁ _ l _ _ _ _ hcap hget =>
    have hc₁ := hc₀.capPendingQueries hcap
    have hi₂ : AttemptInv { s₁ with sends := s₁.sends ++ l.map Send.probe } :=
      (hi₀.capPendingQueries hcap).of_sublist (List.Sublist.refl _) (List.Subset.refl _)
        (fun i => attemptSends_probes _ _ i) rfl
    exact hi₂.createPendingQuery ⟨hc₁.tasks, hc₁.entries⟩ hget rfl

/-- A task that is not cancelled is armed for the entry under its key, and that entry
holds the task's channel. -/
theorem armed_of_get (hi : AttemptInv s) {t : Task} (ht : t ∈ s.tasks) (harmed : ¬ t.Cancelled s)
    {pq : PendingQuery} (hget : s.pendingQueries.get t.kind.key = some pq) :
    t.ArmedFor ⟨t.kind.key, pq.inst, pq.doneTx⟩ ∧ pq.doneTx = t.doneRx := by
  obtain ⟨p, hp, hrx⟩ := Task.exists_of_not_cancelled harmed
  have he : (⟨p.1, p.2.inst, p.2.doneTx⟩ : EntryHead) ∈ s.pendingQueries.heads :=
    List.mem_map_of_mem _ hp
  have harm := hi.armed t ht _ he hrx
  obtain ⟨hk, hinst, hdone⟩ :=
    EntryHead.mk.inj (PendingQueries.eq_of_mem_heads (PendingQueries.mem_heads_of_get hget) he harm.2.1)
  rw [hk, hinst, hdone]
  exact ⟨harm, hrx⟩

/-- The wake-up of an armed task keeps the invariant. A first-attempt task is armed for
an entry not yet retried, under its own key: the entry its retry finds. -/
theorem wake (hi : AttemptInv s) (hc : ChannelInv s) {t : Task} (ht : t ∈ s.tasks)
    (harmed : ¬ t.Cancelled s) (h : wakeTask env s t = some s') : AttemptInv s' := by
  have hts : (s.tasks.erase t) ⊆ s.tasks := List.erase_subset _ _
  have hi₁ (r : Registry) : AttemptInv { s with tasks := s.tasks.erase t, registry := r } :=
    hi.of_sublist (List.Sublist.refl _) hts (fun _ => rfl) rfl
  cases wakeTask_cases h with
  | failed => exact hi₁ _
  | retried hk hget =>
    have hfirst := (hi.armed_of_get ht harmed (by rw [hk]; exact hget)).1.2.2
    rw [hk] at hfirst
    exact (hi₁ _).retryPendingQuery ⟨hc.tasks.sublist ((List.erase_sublist _ _).map _), hc.entries⟩
      hget (hfirst.mp rfl)
  | settled =>
    rw [settlePendingQuery_eq]
    exact hi.of_sublist (PendingQueries.heads_remove_sublist _ _)
      ((List.filter_sublist _).subset.trans hts) (fun _ => rfl) rfl

end AttemptInv

/-- **Every armed run keeps the attempt invariant.** -/
theorem ArmedReachable.attemptInv {env : Env} {r : Registry} {s : State}
    (h : ArmedReachable env r s) : AttemptInv s := by
  induction h with
  | init => exact AttemptInv.init r
  | arrive _ _ _ _ hs h ih => exact ih.arrive hs.reachable.channelInv h
  | wake t hs ht harmed h ih => exact ih.wake hs.reachable.channelInv ht harmed h
  | recordSuccess _ _ _ ih =>
    exact ih.of_sublist (List.Sublist.refl _) (List.Subset.refl _) (fun _ => rfl) rfl
  | tick _ _ _ ih =>
    exact ih.of_sublist (List.Sublist.refl _) (List.Subset.refl _) (fun _ => rfl) rfl

/-- **In an armed run a wake-up acts on its own entry, and no instance has more than two
attempts.** Every task that can wake is armed for the entry that holds its channel – of
its own instance, under its own key – and each instance has had at most its primary and
one retry. -/
theorem armed_attempts_le_two {env : Env} {r : Registry} {s : State}
    (h : ArmedReachable env r s) :
    (∀ i, attemptSends s i ≤ 2) ∧
      ∀ t ∈ s.tasks, ¬ t.Cancelled s →
        ∃ e ∈ s.pendingQueries.heads, e.doneTx = t.doneRx ∧ t.ArmedFor e := by
  have hi := h.attemptInv
  refine ⟨hi.sends_le, fun t ht harmed => ?_⟩
  obtain ⟨p, hp, hrx⟩ := Task.exists_of_not_cancelled harmed
  exact ⟨_, List.mem_map_of_mem _ hp, hrx, hi.armed t ht _ (List.mem_map_of_mem _ hp) hrx⟩

/-- One client query reaches the small resolver and its first attempt times out while its
entry still holds the channel: the entry has had its primary and its retry, and the
retry task is armed for it. -/
theorem armed_attempts_le_two_retried :
    ∃ s, ArmedReachable (smallEnv .fallback 10 10 (by decide)) .single s ∧
      attemptSends s 0 = 2 ∧ s.tasks.length = 1 ∧
      ((∀ i, attemptSends s i ≤ 2) ∧
        ∀ t ∈ s.tasks, ¬ t.Cancelled s →
          ∃ e ∈ s.pendingQueries.heads, e.doneTx = t.doneRx ∧ t.ArmedFor e) := by
  have h₁ : ArmedReachable (smallEnv .fallback 10 10 (by decide)) .single _ :=
    .arrive ⟨0, 0, 0⟩ [⟨1⟩] 0 0 .init rfl
  have h₂ := h₁.wake ⟨0, 0, ⟨1⟩, .firstAttempt ⟨0, 0, 0⟩ [⟨1⟩]⟩ (by decide) (by decide) rfl
  exact ⟨_, h₂, rfl, rfl, armed_attempts_le_two h₂⟩

end EdgeDns
