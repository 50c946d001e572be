import TestSequencer.Locking
import TestSequencer.Sequence

/-!
# No abort, and drain loops that always go on

* `FanOut.Tagged` — every outstanding tag points to a written slot for a node of `node_map_`,
  and no tag is outstanding twice.
* `SlotInv` — besides, `CancelTraffic`'s dispatch loop has issued at most one RPC per entry of
  `node_map_` it passed, into `node_map_.size()` slots, and `RunTraffic`'s exactly one per entry
  of `node_service_map`. `reachable_slotInv` — every call keeps it over every interleaving;
  that `node_map_` does not grow under a running `CancelTraffic` comes from `mutex_`
  (`LockInv.layout_fixed`).
* `no_step_aborts` — no step of a reachable state aborts the process: every `QCHECK` passes,
  `pending_rpcs[rpc_count]` is always inside the vector, and `IsCancelled()` is never called
  through a null handle.
* `drain_takes_every_outstanding` — in a drain loop `rpc_count` counts the outstanding tags,
  and `cq.Next` handing back any of them is taken, whatever its status and response: the
  node its slot points to is in `node_map_`, `rpc_count` drops by one and the tag is retired.
-/

set_option autoImplicit false

namespace Distbench

namespace FanOut

/-- Every outstanding tag points to a written slot for a node of `keys`, and no tag is
outstanding twice. -/
structure Tagged (keys : List String) (f : FanOut) : Prop where
  written : ∀ tag ∈ f.outstanding, ∃ rpc, f.slot tag = some rpc ∧ rpc.node ∈ keys
  nodup : f.outstanding.Nodup

variable {keys : List String} {f f' : FanOut}

theorem tagged_init (size : Nat) : (init size).Tagged keys :=
  ⟨by simp, List.nodup_nil⟩

theorem Tagged.mono (h : f.Tagged keys) {keys' : List String} (hk : ∀ k ∈ keys, k ∈ keys') :
    f.Tagged keys' :=
  ⟨fun tag ht => let ⟨rpc, hs, hn⟩ := h.written tag ht; ⟨rpc, hs, hk _ hn⟩, h.nodup⟩

theorem issue_length {rpc : PendingRpc} (hf : f.issue rpc = .ok f') :
    f'.pendingRpcs.length = f.pendingRpcs.length := by
  unfold issue at hf
  split_ifs at hf
  cases hf
  simp

/-- One iteration of a dispatch loop writes the slot of the tag it hands out. -/
theorem Tagged.issue (h : f.Tagged keys) {rpc : PendingRpc} (hf : f.issue rpc = .ok f')
    (hfresh : f.rpcCount ∉ f.outstanding) (hn : rpc.node ∈ keys) : f'.Tagged keys := by
  obtain ⟨-, ho, hs, hs'⟩ := issue_ok hf
  refine ⟨fun tag ht => ?_, ?_⟩
  · rw [ho, List.mem_append, List.mem_singleton] at ht
    by_cases htag : tag = f.rpcCount
    · subst htag; exact ⟨rpc, hs, hn⟩
    · rw [hs' tag htag]; exact h.written tag (ht.resolve_right htag)
  · rw [ho, List.nodup_append]
    exact ⟨h.nodup, List.nodup_singleton _, by simpa using hfresh⟩

theorem Tagged.finish (h : f.Tagged keys) (tag : Nat) (code : StatusCode) :
    (f.finish tag code).Tagged keys :=
  ⟨fun t ht => h.written t (List.mem_of_mem_erase ht), h.nodup.erase tag⟩

/-- The dispatch loop of `ConfigureNodes` or `IntroducePeers` writes a slot per tag. -/
theorem tagged_dispatchAll {nodeMap : StdMap Node} {nsm : StdMap StdSet}
    {services : StdSet → List String} {serviceMap : ServiceEndpointMap}
    (hk : ∀ k ∈ nsm.keys, k ∈ keys) :
    Tagged keys ⟨nsm.entries.map (some ∘ slotFor nodeMap services serviceMap), nsm.size,
      List.range nsm.size, .OK⟩ := by
  refine ⟨fun tag ht => ?_, List.nodup_range _⟩
  have hlt : tag < nsm.entries.length := List.mem_range.mp ht
  rw [slot_dispatched, List.getElem?_eq_getElem hlt]
  exact ⟨_, rfl, hk _ (List.mem_map_of_mem Prod.fst (List.getElem_mem hlt))⟩

end FanOut

/-- What keeps a call's next `pending_rpcs[rpc_count]` inside the vector, and the tags it
handed out usable. -/
structure SlotInv (nodeMap : StdMap Node) (cl : Call) : Prop where
  /-- `CancelTraffic` has issued at most one RPC per entry of `node_map_` it passed, into
  `node_map_.size()` slots. -/
  scan : ∀ k, cl.pc = .cancelScan k →
    cl.fanOut.rpcCount ≤ k ∧ cl.fanOut.pendingRpcs.length = nodeMap.size
  /-- `RunTraffic` has issued one RPC per entry of `node_service_map` it passed, into
  `node_service_map.size()` slots. -/
  traffic : ∀ i j, (cl.pc = .markBusy i j ∨ ∃ node, cl.pc = .issueRunTraffic i j node) →
    cl.fanOut.rpcCount = j ∧ cl.fanOut.pendingRpcs.length = cl.nodeServiceMap.size
  tagged : cl.fanOut.Tagged nodeMap.keys

namespace SlotInv

variable {nodeMap : StdMap Node} {cl cl' : Call}

/-- Outside a dispatch loop only the tags matter. -/
theorem of_not_dispatching (hd : cl'.pc.dispatching = false)
    (ht : cl'.fanOut.Tagged nodeMap.keys) : SlotInv nodeMap cl' where
  scan k hp := by simp [hp, Pc.dispatching] at hd
  traffic i j hp := by rcases hp with hp | ⟨_, hp⟩ <;> simp [hp, Pc.dispatching] at hd
  tagged := ht

/-- At entry `k` of `CancelTraffic`'s dispatch loop. -/
theorem scanning {k : Nat} (hp : cl'.pc = .cancelScan k) (hle : cl'.fanOut.rpcCount ≤ k)
    (hlen : cl'.fanOut.pendingRpcs.length = nodeMap.size)
    (ht : cl'.fanOut.Tagged nodeMap.keys) : SlotInv nodeMap cl' where
  scan k' hk := by rw [hp] at hk; cases hk; exact ⟨hle, hlen⟩
  traffic i j hj := by rcases hj with hj | ⟨_, hj⟩ <;> rw [hp] at hj <;> cases hj
  tagged := ht

/-- At entry `j` of `RunTraffic`'s dispatch loop. -/
theorem trafficking {i j : Nat}
    (hp : cl'.pc = .markBusy i j ∨ ∃ node, cl'.pc = .issueRunTraffic i j node)
    (hc : cl'.fanOut.rpcCount = j) (hlen : cl'.fanOut.pendingRpcs.length = cl'.nodeServiceMap.size)
    (ht : cl'.fanOut.Tagged nodeMap.keys) : SlotInv nodeMap cl' where
  scan k hk := by rcases hp with hp | ⟨_, hp⟩ <;> rw [hp] at hk <;> cases hk
  traffic i' j' hj := by
    rcases hp with hp | ⟨_, hp⟩ <;> rcases hj with hj | ⟨_, hj⟩ <;> rw [hp] at hj <;> cases hj <;>
      exact ⟨hc, hlen⟩
  tagged := ht

theorem mono (h : SlotInv nodeMap cl) {nodeMap' : StdMap Node}
    (hk : ∀ k ∈ nodeMap.keys, k ∈ nodeMap'.keys)
    (hs : ∀ k, cl.pc = .cancelScan k → nodeMap'.size = nodeMap.size) : SlotInv nodeMap' cl where
  scan k hp := hs k hp ▸ h.scan k hp
  traffic := h.traffic
  tagged := h.tagged.mono hk

end SlotInv

/-! ## Every step keeps `SlotInv` -/

section Step

variable {s s' : Sys} {c : Nat} {events : List Event}

/-- The steps of call `c` itself. -/
theorem runCall_slotInv (hc : CallInv s.registry.nodeMap (s.calls c))
    (hsl : SlotInv s.registry.nodeMap (s.calls c)) (h : runCall s c = .ok s' events) :
    SlotInv s.registry.nodeMap (s'.calls c) := by
  have fresh : (s.calls c).pc.dispatching = true →
      (s.calls c).fanOut.rpcCount ∉ (s.calls c).fanOut.outstanding :=
    fun hd => by rw [hc.dispatched hd]; exact List.not_mem_range_self
  simp only [runCall] at h
  cases hpc : (s.calls c).pc <;> simp only [hpc] at h
  case start =>
    split_ifs at h
    cases h
    exact .scanning (k := 0) (by simp) (by simp) (by simp [FanOut.init, StdMap.size])
      (by simpa using FanOut.tagged_init _)
  case cancelScan k =>
    obtain ⟨hle, hlen⟩ := hsl.scan k hpc
    split at h
    · cases h
      exact .of_not_dispatching (by simp [Pc.dispatching]) (by simpa using hsl.tagged)
    rename_i node n hentry
    split_ifs at h
    · cases h
      exact .scanning (k := k + 1) (by simp) (by simp; omega) (by simpa using hlen) (by simpa using hsl.tagged)
    split at h
    · cases h
    rename_i f hf
    cases h
    obtain ⟨hcount, -⟩ := FanOut.issue_ok hf
    have hn : node ∈ s.registry.nodeMap.keys :=
      List.mem_map_of_mem Prod.fst (List.getElem?_mem hentry)
    exact .scanning (k := k + 1) (by simp) (by simp [hcount]; omega) (by simp [FanOut.issue_length hf, hlen])
      (by simpa using hsl.tagged.issue hf (fresh (by simp [hpc, Pc.dispatching])) hn)
  case configureNodes i | introducePeers i =>
    split_ifs at h
    rw [dispatchAll_eq hc.placed] at h
    cases h
    exact .of_not_dispatching (by simp [Pc.dispatching])
      (by simpa using FanOut.tagged_dispatchAll hc.placed)
  case runTraffic i =>
    split_ifs at h
    cases h
    exact .trafficking (i := i) (j := 0) (.inl (by simp)) (by simp) (by simp [FanOut.init, StdMap.size])
      (by simpa using FanOut.tagged_init _)
  case markBusy i j =>
    obtain ⟨hj, hlen⟩ := hsl.traffic i j (.inl hpc)
    split at h
    · cases h
      exact .of_not_dispatching (by simp [Pc.dispatching]) (by simpa using hsl.tagged)
    rename_i node _
    split at h
    · cases h
    cases h
    exact .trafficking (i := i) (j := j) (.inr ⟨node, by simp⟩) (by simpa using hj) (by simpa using hlen)
      (by simpa using hsl.tagged)
  case issueRunTraffic i j node =>
    obtain ⟨hj, hlen⟩ := hsl.traffic i j (.inr ⟨node, hpc⟩)
    split at h
    · cases h
    rename_i f hf
    cases h
    obtain ⟨hcount, -⟩ := FanOut.issue_ok hf
    have hn : node ∈ s.registry.nodeMap.keys :=
      hc.placed node (List.getElem?_mem (hc.issuing i j node hpc))
    exact .trafficking (i := i) (j := j + 1) (.inl (by simp)) (by simp [hcount, hj]) (by simp [FanOut.issue_length hf, hlen])
      (by simpa using hsl.tagged.issue hf (fresh (by simp [hpc, Pc.dispatching])) hn)
  all_goals
    repeat' split at h
    all_goals first
      | (cases h; done)
      | (cases h; exact .of_not_dispatching
          (by simp [Sys.finishSequence, Sys.preempt, Pc.dispatching])
          (by simpa [Sys.finishSequence, Sys.preempt] using hsl.tagged))

theorem completeCall_fanOut {tag : Nat} {code : StatusCode} {response : ProtoMap String}
    (h : completeCall s c tag code response = .ok s' events) :
    (s'.calls c).fanOut = (s.calls c).fanOut.finish tag code := by
  simp only [completeCall] at h
  repeat' split at h
  all_goals first | (cases h; done) | (cases h; simp [configureComplete])

/-- A completion taken by call `c`'s drain loop. -/
theorem completeCall_slotInv {tag : Nat} {code : StatusCode} {response : ProtoMap String}
    (hsl : SlotInv s.registry.nodeMap (s.calls c))
    (h : completeCall s c tag code response = .ok s' events) :
    SlotInv s.registry.nodeMap (s'.calls c) := by
  obtain ⟨hpc, hk⟩ := completeCall_pc h
  refine .of_not_dispatching ?_ (completeCall_fanOut h ▸ hsl.tagged.finish tag code)
  rw [hpc]
  cases hp : (s.calls c).pc <;> simp_all [Pc.draining, Pc.dispatching]

theorem SlotInv.next {a : Action} (hi : SysInv s) (hl : LockInv s)
    (hsl : ∀ d, SlotInv s.registry.nodeMap (s.calls d)) (h : step s a = .ok s' events)
    (c : Nat) : SlotInv s'.registry.nodeMap (s'.calls c) := by
  have hk : ∀ k ∈ s.registry.nodeMap.keys, k ∈ s'.registry.nodeMap.keys :=
    fun _ hk => step_keys h hk
  -- only a `RegisterNode`, which needs `mutex_` free, can grow `node_map_`
  have hsize : (∀ request stubOk, a ≠ .registerNode request stubOk) →
      s'.registry.nodeMap.size = s.registry.nodeMap.size := fun ha => by
    rcases step_layout h with h' | ⟨request, stubOk, h', -⟩
    · exact Registry.size_of_layout h'.1
    · exact absurd h' (ha request stubOk)
  cases a with
  | registerNode request stubOk =>
    have hcalls : s'.calls = s.calls := by
      simp only [step] at h
      split_ifs at h
      cases h
      rfl
    rw [hcalls]
    exact (hsl c).mono hk fun k hp =>
      Registry.size_of_layout (hl.layout_fixed (c := c) (by simp [hp, Pc.hold]) h).1
  | run d =>
    have hs := hsize fun _ _ => Action.noConfusion
    by_cases hd : c = d
    · subst hd
      exact (runCall_slotInv (hi.calls c) (hsl c) h).mono hk fun _ _ => hs
    · rw [runCall_calls_ne h hd]
      exact (hsl c).mono hk fun _ _ => hs
  | complete d tag code response =>
    have hs := hsize fun _ _ => Action.noConfusion
    by_cases hd : c = d
    · subst hd
      exact (completeCall_slotInv (hsl c) h).mono hk fun _ _ => hs
    · rw [completeCall_calls_ne h hd]
      exact (hsl c).mono hk fun _ _ => hs

end Step

theorem reachable_slotInv {requests : Nat → List DistributedSystemDescription} {s : Sys}
    (h : Reachable requests s) (c : Nat) : SlotInv s.registry.nodeMap (s.calls c) := by
  induction h generalizing c with
  | init =>
    exact .of_not_dispatching (by simp [Sys.init, Call.init, Pc.dispatching])
      (FanOut.tagged_init 0)
  | step hr hs ih => exact SlotInv.next (reachable_inv hr) (reachable_lockInv hr) ih hs c

/-! ## No abort -/

section Abort

variable {s : Sys} {c : Nat}

theorem step_panic_run {a : Action} {fault : Fault} (h : step s a = .panic fault) :
    ∃ c, a = .run c ∧ runCall s c = .panic fault := by
  cases a with
  | registerNode request stubOk => simp only [step] at h; split_ifs at h
  | complete d tag code response =>
    simp only [step, completeCall] at h
    repeat' split at h
    all_goals cases h
  | run d => exact ⟨d, rfl, h⟩

/-- With `SlotInv`, no dispatch loop writes past the end of `pending_rpcs`. -/
theorem runCall_ne_slotOutOfRange (hc : CallInv s.registry.nodeMap (s.calls c))
    (hsl : SlotInv s.registry.nodeMap (s.calls c)) : runCall s c ≠ .panic .slotOutOfRange := by
  intro h
  simp only [runCall] at h
  cases hpc : (s.calls c).pc <;> simp only [hpc] at h
  case cancelScan k =>
    obtain ⟨hle, hlen⟩ := hsl.scan k hpc
    split at h
    · cases h
    rename_i node n hentry
    have hk : k < s.registry.nodeMap.size := (List.getElem?_eq_some_iff.mp hentry).1
    split_ifs at h
    have hlt : (s.calls c).fanOut.rpcCount < (s.calls c).fanOut.pendingRpcs.length := by omega
    simp [FanOut.issue, hlt] at h
  case issueRunTraffic i j node =>
    obtain ⟨hj, hlen⟩ := hsl.traffic i j (.inr ⟨node, hpc⟩)
    have hk : j < (s.calls c).nodeServiceMap.size := by
      simpa [StdMap.keys, StdMap.size] using
        (List.getElem?_eq_some_iff.mp (hc.issuing i j node hpc)).1
    have hlt : (s.calls c).fanOut.rpcCount < (s.calls c).fanOut.pendingRpcs.length := by omega
    simp [FanOut.issue, hlt] at h
  case configureNodes i | introducePeers i =>
    split_ifs at h
    rw [dispatchAll_eq hc.placed] at h
    cases h
  all_goals
    repeat' split at h
    all_goals cases h

/-- No step of a call in a reachable state aborts. -/
theorem runCall_ne_panic {requests : Nat → List DistributedSystemDescription}
    (h : Reachable requests s) {fault : Fault} : runCall s c ≠ .panic fault := by
  intro hp
  rcases step_panic (reachable_inv h) (a := .run c) hp with rfl | ⟨rfl, d, i, hd, hn⟩
  · exact runCall_ne_slotOutOfRange ((reachable_inv h).calls c) (reachable_slotInv h c) hp
  · rw [checkCancelled_context h d i hd] at hn
    cases hn

/-- **The sequencer never aborts**, over every interleaving of any number of `RunTestSequence`
calls, `RegisterNode` calls and RPC completions: no step of a reachable state ends in a failed
`QCHECK`, a write of `pending_rpcs[rpc_count]` past the end of the vector, or `IsCancelled()`
through a null `running_test_sequence_context_`. -/
theorem no_step_aborts {requests : Nat → List DistributedSystemDescription}
    (h : Reachable requests s) (a : Action) (fault : Fault) : step s a ≠ .panic fault := by
  intro hp
  obtain ⟨c, rfl, hc⟩ := step_panic_run hp
  exact runCall_ne_panic h hc

end Abort

/-- Call 0's `RunTraffic` about to issue into its one slot: the step does not abort. -/
theorem no_step_aborts_issue :
    ∃ s events, exec (Sys.init fun _ => [⟨[⟨"A", 1⟩], ProtoMap.empty⟩])
        (.registerNode ⟨"h0", 7, ""⟩ true :: List.replicate 10 (.run 0) ++
          .complete 0 0 .OK ProtoMap.empty :: List.replicate 2 (.run 0) ++
          .complete 0 0 .OK ProtoMap.empty :: List.replicate 3 (.run 0)) = .ok s events ∧
      (s.calls 0).pc = .issueRunTraffic 0 0 "node0" ∧
      step s (.run 0) ≠ .panic .slotOutOfRange :=
  ⟨_, _, rfl, rfl, no_step_aborts (@reachable_of_exec
    (fun _ => [⟨[⟨"A", 1⟩], ProtoMap.empty⟩]) _ _
    (.registerNode ⟨"h0", 7, ""⟩ true :: List.replicate 10 (Action.run 0) ++
      .complete 0 0 .OK ProtoMap.empty :: List.replicate 2 (Action.run 0) ++
      .complete 0 0 .OK ProtoMap.empty :: List.replicate 3 (Action.run 0)) _ .init rfl) _ _⟩

/-! ## Drain loops -/

/-- **A drain loop never gets stuck**, over every interleaving: while call `c` is in the drain
loop of any of the four fan-outs, `rpc_count` is the number of outstanding tags, and `cq.Next`
handing back any outstanding tag, with any status and response, is taken: the node its slot
points to is in `node_map_` (so `finished_rpc->node` is a live entry), the call stays in its
drain loop, `rpc_count` drops by one and the tag is no longer outstanding. -/
theorem drain_takes_every_outstanding {requests : Nat → List DistributedSystemDescription}
    {s : Sys} (h : Reachable requests s) {c : Nat} {kind : Rpc}
    (hk : (s.calls c).pc.draining = some kind) :
    (s.calls c).fanOut.rpcCount = (s.calls c).fanOut.outstanding.length ∧
      ∀ tag ∈ (s.calls c).fanOut.outstanding, ∀ code response, ∃ (s' : Sys) (rpc : PendingRpc),
        completeCall s c tag code response = .ok s' [.completed c kind tag rpc.node code] ∧
        rpc.node ∈ s.registry.nodeMap.keys ∧ (s'.calls c).pc = (s.calls c).pc ∧
        (s'.calls c).fanOut.rpcCount + 1 = (s.calls c).fanOut.rpcCount ∧
        tag ∉ (s'.calls c).fanOut.outstanding := by
  have hc := (reachable_inv h).calls c
  have ht := (reachable_slotInv h c).tagged
  refine ⟨hc.count, fun tag htag code response => ?_⟩
  obtain ⟨rpc, hs, hn⟩ := ht.written tag htag
  obtain ⟨s', hs', hcl⟩ := completeCall_drain code response hk hs htag
  have hpos := List.length_pos_of_mem htag
  refine ⟨s', rpc, hs', hn, by rw [hcl]; rfl, ?_, ?_⟩
  · rw [hcl, hc.count]
    simp only [Call.takeCompletion, FanOut.finish_rpcCount, hc.count]
    omega
  · rw [hcl]
    exact ht.nodup.not_mem_erase

/-- Call 0 in `ConfigureNodes`' drain loop with its one tag outstanding. -/
theorem drain_takes_every_outstanding_configure :
    ∃ s events, exec (Sys.init fun _ => [⟨[⟨"A", 1⟩], ProtoMap.empty⟩])
        (.registerNode ⟨"h0", 7, ""⟩ true :: List.replicate 10 (.run 0)) = .ok s events ∧
      (s.calls 0).pc.draining = some .configureNode ∧
      (s.calls 0).fanOut.outstanding = [0] ∧
      ((s.calls 0).fanOut.rpcCount = (s.calls 0).fanOut.outstanding.length ∧
        ∀ tag ∈ (s.calls 0).fanOut.outstanding, ∀ code response, ∃ (s' : Sys) (rpc : PendingRpc),
          completeCall s 0 tag code response =
            .ok s' [.completed 0 .configureNode tag rpc.node code] ∧
          rpc.node ∈ s.registry.nodeMap.keys ∧ (s'.calls 0).pc = (s.calls 0).pc ∧
          (s'.calls 0).fanOut.rpcCount + 1 = (s.calls 0).fanOut.rpcCount ∧
          tag ∉ (s'.calls 0).fanOut.outstanding) :=
  ⟨_, _, rfl, rfl, rfl, drain_takes_every_outstanding (c := 0) (@reachable_of_exec
    (fun _ => [⟨[⟨"A", 1⟩], ProtoMap.empty⟩]) _ _
    (.registerNode ⟨"h0", 7, ""⟩ true :: List.replicate 10 (.run 0)) _ .init rfl) rfl⟩

end Distbench
