import TestSequencer.Interlock

/-!
# Invariants of every reachable state

* `CallInv` — what holds of one call's locals: `rpc_count` counts the outstanding tags,
  nothing is outstanding outside a fan-out, during a dispatch loop the outstanding tags are
  the slots written so far, `node_service_map`'s keys are registered, and in `RunTraffic`
  every written slot is for a key of `node_service_map`.
* `SysInv` — every call keeps `CallInv`, and a node whose `idle` is false has a `RunTraffic`
  RPC pending (`RunTrafficPending`).
* `SysInv.next` — every step keeps `SysInv`; `reachable_inv` — it holds of every reachable
  state. `step_keys` — no step removes an entry of `node_map_`.
-/

set_option autoImplicit false

namespace Distbench

namespace Pc

/-- In the dispatch or the drain loop of a fan-out. -/
def fanningOut : Pc → Bool
  | .cancelScan _ | .cancelDrain | .configureDrain _ | .introduceDrain _ | .markBusy _ _
  | .issueRunTraffic _ _ _ | .runTrafficDrain _ => true
  | _ => false

/-- In a dispatch loop that issues one RPC a step. -/
def dispatching : Pc → Bool
  | .cancelScan _ | .markBusy _ _ | .issueRunTraffic _ _ _ => true
  | _ => false

/-- In `RunTraffic`, past taking `mutex_`. -/
def inRunTraffic : Pc → Bool
  | .markBusy _ _ | .issueRunTraffic _ _ _ | .runTrafficDrain _ => true
  | _ => false

theorem fanningOut_of_dispatching {p : Pc} (h : p.dispatching = true) : p.fanningOut = true := by
  cases p <;> simp_all [dispatching, fanningOut]

theorem fanningOut_of_inRunTraffic {p : Pc} (h : p.inRunTraffic = true) : p.fanningOut = true := by
  cases p <;> simp_all [inRunTraffic, fanningOut]

end Pc

/-- The call's `RunTraffic` has marked `node` busy and has not taken the completion of its RPC
to it from `cq`: the RPC is outstanding, or about to be issued (between lines 382 and 383). -/
def RunTrafficPending (cl : Call) (node : String) : Prop :=
  (∃ i j, cl.pc = .issueRunTraffic i j node) ∨
    (cl.pc.inRunTraffic ∧
      ∃ tag ∈ cl.fanOut.outstanding, ∃ rpc, cl.fanOut.slot tag = some rpc ∧ rpc.node = node)

/-- What holds of one call's locals. -/
structure CallInv (nodeMap : StdMap Node) (cl : Call) : Prop where
  count : cl.fanOut.rpcCount = cl.fanOut.outstanding.length
  quiet : cl.pc.fanningOut = false → cl.fanOut.outstanding = []
  dispatched : cl.pc.dispatching = true → cl.fanOut.outstanding = List.range cl.fanOut.rpcCount
  placed : ∀ k ∈ cl.nodeServiceMap.keys, k ∈ nodeMap.keys
  issuing : ∀ i j node, cl.pc = .issueRunTraffic i j node → cl.nodeServiceMap.keys[j]? = some node
  slots : cl.pc.inRunTraffic = true →
    ∀ tag rpc, cl.fanOut.slot tag = some rpc → rpc.node ∈ cl.nodeServiceMap.keys

/-- The invariant of the system. -/
structure SysInv (s : Sys) : Prop where
  calls : ∀ c, CallInv s.registry.nodeMap (s.calls c)
  busy : ∀ n node, s.registry.nodeMap.find? n = some node → node.idle = false →
    ∃ c, RunTrafficPending (s.calls c) n

/-! ## Pending `RunTraffic` RPCs -/

section Pending

variable {cl cl' : Call} {n : String}

theorem RunTrafficPending.inRunTraffic (h : RunTrafficPending cl n) :
    cl.pc.inRunTraffic = true := by
  rcases h with ⟨i, j, h⟩ | ⟨h, -⟩
  · simp [h, Pc.inRunTraffic]
  · exact h

theorem not_runTrafficPending (h : cl.pc.inRunTraffic = false) : ¬RunTrafficPending cl n :=
  fun hp => by simp [hp.inRunTraffic] at h

/-- A step of the same `RunTraffic` that issues nothing and takes no completion. -/
theorem RunTrafficPending.keep (h : RunTrafficPending cl n)
    (hnot : ∀ i j, cl.pc ≠ .issueRunTraffic i j n) (hr : cl'.pc.inRunTraffic = true)
    (hf : cl'.fanOut = cl.fanOut) : RunTrafficPending cl' n := by
  rcases h with ⟨i, j, h⟩ | ⟨-, h⟩
  · exact absurd h (hnot i j)
  · exact .inr ⟨hr, hf ▸ h⟩

theorem RunTrafficPending.outstanding (h : RunTrafficPending cl n)
    (hnot : ∀ i j, cl.pc ≠ .issueRunTraffic i j n) : cl.fanOut.outstanding ≠ [] := by
  rcases h with ⟨i, j, h⟩ | ⟨-, tag, htag, -⟩
  · exact absurd h (hnot i j)
  · exact List.ne_nil_of_mem htag

end Pending

/-! ## One call -/

namespace CallInv

variable {nodeMap : StdMap Node} {cl : Call}

theorem mono (h : CallInv nodeMap cl) {nodeMap' : StdMap Node}
    (hk : ∀ k ∈ nodeMap.keys, k ∈ nodeMap'.keys) : CallInv nodeMap' cl :=
  { h with placed := fun k hk' => hk k (h.placed k hk') }

/-- A drain loop that has taken every completion has nothing outstanding. -/
theorem drained (h : CallInv nodeMap cl) (h0 : cl.fanOut.rpcCount = 0) :
    cl.fanOut.outstanding = [] :=
  List.eq_nil_of_length_eq_zero (h.count ▸ h0)

/-- A step that changes only the program counter (and locals the invariant does not read). -/
theorem move (h : CallInv nodeMap cl) {cl' : Call}
    (hf : cl'.fanOut = cl.fanOut) (hn : cl'.nodeServiceMap = cl.nodeServiceMap)
    (hq : cl'.pc.fanningOut = false → cl.fanOut.outstanding = [])
    (hd : cl'.pc.dispatching = true → cl.pc.dispatching = true)
    (hi : ∀ i j node, cl'.pc = .issueRunTraffic i j node → cl.nodeServiceMap.keys[j]? = some node)
    (hr : cl'.pc.inRunTraffic = true → cl.pc.inRunTraffic = true) : CallInv nodeMap cl' where
  count := hf ▸ h.count
  quiet hp := hf ▸ hq hp
  dispatched hp := hf ▸ h.dispatched (hd hp)
  placed := hn ▸ h.placed
  issuing i j node hp := hn ▸ hi i j node hp
  slots hp := hf ▸ hn ▸ h.slots (hr hp)

/-- A step between two program counters outside every fan-out. -/
theorem rest (h : CallInv nodeMap cl) {cl' : Call}
    (hf : cl'.fanOut = cl.fanOut) (hn : cl'.nodeServiceMap = cl.nodeServiceMap)
    (hq : cl.fanOut.outstanding = []) (hp : cl'.pc.fanningOut = false) : CallInv nodeMap cl' :=
  h.move hf hn (fun _ => hq)
    (fun hd => by simp [Pc.fanningOut_of_dispatching hd] at hp)
    (fun i j node hi => by simp [hi, Pc.fanningOut] at hp)
    (fun hr => by simp [Pc.fanningOut_of_inRunTraffic hr] at hp)

/-- `DoRunTest` has placed the services. -/
theorem place (h : CallInv nodeMap cl) {cl' : Call}
    (hf : cl'.fanOut = cl.fanOut) (hq : cl.fanOut.outstanding = [])
    (hk : ∀ k ∈ cl'.nodeServiceMap.keys, k ∈ nodeMap.keys) (hp : cl'.pc.fanningOut = false) :
    CallInv nodeMap cl' where
  count := hf ▸ h.count
  quiet _ := hf ▸ hq
  dispatched hd := by simp [Pc.fanningOut_of_dispatching hd] at hp
  placed := hk
  issuing i j node hi := by simp [hi, Pc.fanningOut] at hp
  slots hr := by simp [Pc.fanningOut_of_inRunTraffic hr] at hp

/-- The dispatch loop of `ConfigureNodes` or `IntroducePeers`, all in one step. -/
theorem dispatch (h : CallInv nodeMap cl) {cl' : Call} (size : Nat)
    (hf : cl'.fanOut = ⟨cl'.fanOut.pendingRpcs, size, List.range size, cl'.fanOut.status⟩)
    (hn : cl'.nodeServiceMap = cl.nodeServiceMap) (hfan : cl'.pc.fanningOut = true)
    (hd : cl'.pc.dispatching = false) (hr : cl'.pc.inRunTraffic = false)
    (hnot : ∀ i j node, cl'.pc ≠ .issueRunTraffic i j node) : CallInv nodeMap cl' where
  count := by rw [hf]; simp
  quiet hp := by simp [hp] at hfan
  dispatched hp := by simp [hp] at hd
  placed := hn ▸ h.placed
  issuing i j node hi := absurd hi (hnot i j node)
  slots hp := by simp [hp] at hr

/-- A fresh fan-out. -/
theorem start (h : CallInv nodeMap cl) {cl' : Call} (size : Nat)
    (hf : cl'.fanOut = FanOut.init size) (hn : cl'.nodeServiceMap = cl.nodeServiceMap)
    (hnot : ∀ i j node, cl'.pc ≠ .issueRunTraffic i j node) : CallInv nodeMap cl' where
  count := by simp [hf]
  quiet _ := by simp [hf]
  dispatched _ := by simp [hf]
  placed := hn ▸ h.placed
  issuing i j node hp := absurd hp (hnot i j node)
  slots _ tag rpc hs := by simp [hf] at hs

/-- One iteration of a dispatch loop. -/
theorem issue (h : CallInv nodeMap cl) {cl' : Call} {rpc : PendingRpc}
    (hf : cl.fanOut.issue rpc = .ok cl'.fanOut) (hn : cl'.nodeServiceMap = cl.nodeServiceMap)
    (hd : cl.pc.dispatching = true) (hd' : cl'.pc.dispatching = true)
    (hnot : ∀ i j node, cl'.pc ≠ .issueRunTraffic i j node)
    (hr : cl'.pc.inRunTraffic = true →
      cl.pc.inRunTraffic = true ∧ rpc.node ∈ cl.nodeServiceMap.keys) :
    CallInv nodeMap cl' := by
  obtain ⟨hc, ho, hs, hs'⟩ := FanOut.issue_ok hf
  refine ⟨?_, ?_, ?_, hn ▸ h.placed, fun i j node hp => absurd hp (hnot i j node), ?_⟩
  · simp [hc, ho, h.count]
  · intro h'; simp [Pc.fanningOut_of_dispatching hd'] at h'
  · intro _; rw [ho, hc, h.dispatched hd, List.range_succ]
  · intro hp tag r hr'
    obtain ⟨hrt, hnode⟩ := hr hp
    rw [hn]
    by_cases ht : tag = cl.fanOut.rpcCount
    · subst ht; rw [hs] at hr'; cases hr'; exact hnode
    · rw [hs' tag ht] at hr'; exact h.slots hrt tag r hr'

/-- A completion taken by a drain loop. -/
theorem finish (h : CallInv nodeMap cl) {cl' : Call} {tag : Nat} {code : StatusCode}
    (htag : tag ∈ cl.fanOut.outstanding) (hf : cl'.fanOut = cl.fanOut.finish tag code)
    (hn : cl'.nodeServiceMap = cl.nodeServiceMap) (hp : cl'.pc = cl.pc)
    (hfan : cl.pc.fanningOut = true) (hd : cl.pc.dispatching = false) : CallInv nodeMap cl' where
  count := by simp [hf, h.count, List.length_erase_of_mem htag]
  quiet h' := by simp [hp, hfan] at h'
  dispatched h' := by simp [hp, hd] at h'
  placed := hn ▸ h.placed
  issuing i j node h' := by simp [hp] at h'; simp [hfan, h', Pc.dispatching] at hd
  slots h' tag' rpc hs := hn ▸ h.slots (hp ▸ h') tag' rpc (by simpa [hf] using hs)

end CallInv

/-! ## The system -/

theorem inv_init (requests : Nat → List DistributedSystemDescription) :
    SysInv (Sys.init requests) where
  calls c := ⟨rfl, fun _ => rfl, fun h => by simp [Sys.init, Call.init, Pc.dispatching] at h,
    fun k hk => by simp [Sys.init, Call.init] at hk, fun i j node h => by
      simp [Sys.init, Call.init] at h,
    fun h => by simp [Sys.init, Call.init, Pc.inRunTraffic] at h⟩
  busy n node h := by simp [Sys.init, Registry.empty] at h

namespace SysInv

variable {s : Sys} {c : Nat} {f : Call → Call}

/-- A step of call `c` that leaves `node_map_` alone. -/
theorem update (hi : SysInv s) {s₀ : Sys} (hreg : s₀.registry = s.registry)
    (hcalls : s₀.calls = s.calls) (hc : CallInv s.registry.nodeMap (f (s.calls c)))
    (hpend : ∀ n, RunTrafficPending (s.calls c) n → RunTrafficPending (f (s.calls c)) n) :
    SysInv (s₀.update c f) where
  calls d := by
    by_cases hd : d = c
    · subst hd; simpa [hreg, hcalls] using hc
    · simpa [hd, hreg, hcalls] using hi.calls d
  busy n node hn hidle := by
    rw [Sys.update_registry, hreg] at hn
    obtain ⟨d, hd⟩ := hi.busy n node hn hidle
    by_cases hdc : d = c
    · subst hdc; exact ⟨d, by simpa [hcalls] using hpend n hd⟩
    · exact ⟨d, by simpa [hdc, hcalls] using hd⟩

/-- A step of call `c` that sets `idle` on one node. -/
theorem setIdle (hi : SysInv s) {node : String} {b : Bool}
    (hc : CallInv s.registry.nodeMap (f (s.calls c)))
    (hpend : ∀ n, n ≠ node → RunTrafficPending (s.calls c) n → RunTrafficPending (f (s.calls c)) n)
    (hbusy : b = false → RunTrafficPending (f (s.calls c)) node) :
    SysInv ((s.setIdle node b).update c f) where
  calls d := by
    have hk : ∀ k ∈ s.registry.nodeMap.keys, k ∈ (s.setIdle node b).registry.nodeMap.keys := by
      simp
    by_cases hd : d = c
    · subst hd; simpa using hc.mono hk
    · simpa [hd] using (hi.calls d).mono hk
  busy n node' hn hidle := by
    simp only [Sys.update_registry, Sys.setIdle, StdMap.find?_adjust] at hn
    split_ifs at hn with hnode
    · subst hnode
      obtain ⟨x, -, rfl⟩ := Option.map_eq_some'.mp hn
      exact ⟨c, by simpa using hbusy hidle⟩
    · obtain ⟨d, hd⟩ := hi.busy n node' hn hidle
      by_cases hdc : d = c
      · subst hdc; exact ⟨d, by simpa using hpend n hnode hd⟩
      · exact ⟨d, by simpa [hdc] using hd⟩

/-- `RegisterNode`. -/
theorem register (hi : SysInv s) (request : NodeRegistration) (stubOk : Bool) :
    SysInv { s with registry := (registerNode s.registry request stubOk).2 } where
  calls d := (hi.calls d).mono fun _ => registerNode_keys
  busy n node hn hidle := by
    obtain ⟨node₀, h₀, hidle₀⟩ := registerNode_busy hn hidle
    exact hi.busy n node₀ h₀ hidle₀

end SysInv

/-! ## Every step keeps the invariant -/

namespace SysInv

variable {s : Sys} {c : Nat} {f : Call → Call}

/-- A step of a call that is not in `RunTraffic` and leaves `node_map_` alone. -/
theorem update_quiet (hi : SysInv s) {s₀ : Sys} (hreg : s₀.registry = s.registry)
    (hcalls : s₀.calls = s.calls) (hc : CallInv s.registry.nodeMap (f (s.calls c)))
    (hr : (s.calls c).pc.inRunTraffic = false) : SysInv (s₀.update c f) :=
  hi.update hreg hcalls hc fun _ hp => absurd hp (not_runTrafficPending hr)

/-- A step between two program counters outside every fan-out. -/
theorem calm (hi : SysInv s) {s₀ : Sys} (hreg : s₀.registry = s.registry)
    (hcalls : s₀.calls = s.calls) (hf : (f (s.calls c)).fanOut = (s.calls c).fanOut)
    (hn : (f (s.calls c)).nodeServiceMap = (s.calls c).nodeServiceMap)
    (hp : (s.calls c).pc.fanningOut = false) (hp' : (f (s.calls c)).pc.fanningOut = false) :
    SysInv (s₀.update c f) :=
  hi.update_quiet hreg hcalls ((hi.calls c).rest hf hn ((hi.calls c).quiet hp) hp')
    (by cases h : (s.calls c).pc.inRunTraffic
        · rfl
        · simp [Pc.fanningOut_of_inRunTraffic h] at hp)

/-- Leaving a drain loop that has taken every completion. -/
theorem leave (hi : SysInv s) {s₀ : Sys} (hreg : s₀.registry = s.registry)
    (hcalls : s₀.calls = s.calls) (hf : (f (s.calls c)).fanOut = (s.calls c).fanOut)
    (hn : (f (s.calls c)).nodeServiceMap = (s.calls c).nodeServiceMap)
    (h0 : (s.calls c).fanOut.rpcCount = 0) (hnot : ∀ i j n, (s.calls c).pc ≠ .issueRunTraffic i j n)
    (hp' : (f (s.calls c)).pc.fanningOut = false) : SysInv (s₀.update c f) :=
  hi.update hreg hcalls ((hi.calls c).rest hf hn ((hi.calls c).drained h0) hp') fun n hp =>
    absurd ((hi.calls c).drained h0) (hp.outstanding fun i j => hnot i j n)

/-- Issuing the `RunTraffic` RPC of a node marked busy. -/
theorem pending_issue {cl cl' : Call} {nodeMap : StdMap Node} (hc : CallInv nodeMap cl)
    {i j : Nat} {node n : String} (hpc : cl.pc = .issueRunTraffic i j node)
    (hf : cl.fanOut.issue ⟨node, stubOf nodeMap node, [], ProtoMap.empty⟩ = .ok cl'.fanOut)
    (hr : cl'.pc.inRunTraffic = true) (hp : RunTrafficPending cl n) : RunTrafficPending cl' n := by
  obtain ⟨-, ho, hs, hs'⟩ := FanOut.issue_ok hf
  refine .inr ⟨hr, ?_⟩
  rcases hp with ⟨i', j', h⟩ | ⟨-, tag, htag, rpc, hslot, rfl⟩
  · rw [hpc] at h; cases h
    exact ⟨_, by simp [ho], _, hs, rfl⟩
  · have hlt : tag ≠ cl.fanOut.rpcCount := by
      have := hc.dispatched (by simp [hpc, Pc.dispatching])
      rw [this, List.mem_range] at htag; omega
    exact ⟨tag, by simp [ho, htag], rpc, by rw [hs' tag hlt, hslot], rfl⟩

end SysInv

/-- Every step keeps the invariant. -/
theorem SysInv.next {s s' : Sys} {a : Action} {events : List Event} (hi : SysInv s)
    (h : step s a = .ok s' events) : SysInv s' := by
  cases a with
  | registerNode request stubOk =>
    simp only [step] at h
    split_ifs at h
    cases h
    exact hi.register request stubOk
  | complete c tag code response =>
    simp only [step, completeCall] at h
    split at h
    · cases h
    rename_i rpc hslot
    split_ifs at h with htag
    have hc := hi.calls c
    have fin := fun {cl' : Call} => @CallInv.finish _ _ hc cl' tag code htag
    cases hpc : (s.calls c).pc <;> simp only [hpc] at h <;> try cases h
    · -- `CancelTraffic`
      exact hi.setIdle
        (fin rfl rfl rfl (by rw [hpc]; rfl) (by rw [hpc]; rfl))
        (fun _ _ hp => absurd hp (not_runTrafficPending (by rw [hpc]; rfl)))
        (fun h => by cases h)
    · -- `ConfigureNodes`
      exact hi.update_quiet rfl rfl (fin rfl rfl rfl (by rw [hpc]; rfl)
        (by rw [hpc]; rfl)) (by rw [hpc]; rfl)
    · -- `IntroducePeers`
      exact hi.update_quiet rfl rfl (fin rfl rfl rfl (by rw [hpc]; rfl)
        (by rw [hpc]; rfl)) (by rw [hpc]; rfl)
    · -- `RunTraffic`
      refine hi.setIdle (fin rfl rfl rfl (by rw [hpc]; rfl)
        (by rw [hpc]; rfl)) (fun n hn hp => ?_) (fun h => by cases h)
      rcases hp with ⟨i', j', h'⟩ | ⟨hr, tag', htag', rpc', hslot', rfl⟩
      · rw [hpc] at h'; cases h'
      have hne : tag' ≠ tag := by
        rintro rfl; rw [hslot] at hslot'; cases hslot'; exact hn rfl
      exact .inr ⟨by simpa [hpc] using hr, tag', by simpa [List.mem_erase_of_ne hne] using htag',
        rpc', by simpa using hslot', rfl⟩
  | run c =>
    simp only [step, runCall] at h
    have hc := hi.calls c
    cases hpc : (s.calls c).pc <;> simp only [hpc] at h
    case start =>
      split_ifs at h
      cases h
      exact hi.update_quiet rfl rfl (hc.start _ rfl rfl (by simp)) (by rw [hpc]; rfl)
    case cancelScan k =>
      have hr : (s.calls c).pc.inRunTraffic = false := by simp [hpc, Pc.inRunTraffic]
      split at h
      · cases h
        exact hi.update_quiet rfl rfl (hc.move rfl rfl (by simp [Pc.fanningOut])
          (by simp [Pc.dispatching]) (by simp) (by simp [Pc.inRunTraffic])) hr
      split_ifs at h
      · cases h
        exact hi.update_quiet rfl rfl (hc.move rfl rfl (by simp [Pc.fanningOut])
          (by simp [hpc, Pc.dispatching]) (by simp) (by simp [Pc.inRunTraffic])) hr
      split at h
      · cases h
      rename_i f' hf'
      cases h
      exact hi.update_quiet rfl rfl (hc.issue hf' rfl (by rw [hpc]; rfl)
        rfl (by simp) (by simp [Pc.inRunTraffic])) hr
    case cancelDrain =>
      split_ifs at h with h0
      cases h
      exact hi.leave rfl rfl rfl rfl h0 (by simp [hpc]) rfl
    case lockEntry =>
      split_ifs at h
      cases h
      exact hi.calm (Sys.tryCancelRunning_registry s) (Sys.tryCancelRunning_calls s) rfl rfl
        (by rw [hpc]; rfl) rfl
    case waitPrior =>
      split_ifs at h
      cases h
      exact hi.calm rfl rfl rfl rfl (by rw [hpc]; rfl) rfl
    case relock =>
      split_ifs at h
      split at h <;> cases h
      · exact hi.calm (Sys.tryCancelRunning_registry s) (Sys.tryCancelRunning_calls s) rfl rfl
          (by rw [hpc]; rfl) rfl
      · exact hi.calm rfl rfl rfl rfl (by rw [hpc]; rfl) rfl
    case checkCancelled i =>
      split at h
      · cases h
        exact hi.calm rfl rfl rfl rfl (by rw [hpc]; rfl) rfl
      split_ifs at h
      split at h
      · cases h
      split_ifs at h <;> cases h
      all_goals
        exact hi.calm rfl rfl rfl rfl (by rw [hpc]; rfl) rfl
    case runTest i =>
      split_ifs at h
      split at h <;> cases h
      · exact hi.calm rfl rfl rfl rfl (by rw [hpc]; rfl) rfl
      · rename_i nsm hnsm
        exact hi.update_quiet rfl rfl (hc.place rfl (hc.quiet (by rw [hpc]; rfl))
          (fun k hk => placeServices_keys_subset hnsm hk) rfl)
          (by rw [hpc]; rfl)
    case configureNodes i =>
      split_ifs at h
      rw [dispatchAll_eq hc.placed] at h
      cases h
      exact hi.update_quiet rfl rfl (hc.dispatch _ rfl rfl rfl
        rfl rfl (by simp))
        (by rw [hpc]; rfl)
    case configureDrain i =>
      split_ifs at h with h0
      split at h <;> cases h
      all_goals exact hi.leave rfl rfl rfl rfl h0 (by simp [hpc]) rfl
    case introducePeers i =>
      split_ifs at h
      rw [dispatchAll_eq hc.placed] at h
      cases h
      exact hi.update_quiet rfl rfl (hc.dispatch _ rfl rfl rfl
        rfl rfl (by simp))
        (by rw [hpc]; rfl)
    case introduceDrain i =>
      split_ifs at h with h0 <;> cases h
      all_goals exact hi.leave rfl rfl rfl rfl h0 (by simp [hpc]) rfl
    case runTraffic i =>
      split_ifs at h
      cases h
      exact hi.update_quiet rfl rfl (hc.start _ rfl rfl (by simp)) (by rw [hpc]; rfl)
    case markBusy i j =>
      split at h
      · cases h
        exact hi.update rfl rfl (hc.move rfl rfl (by simp [Pc.fanningOut])
          (by simp [Pc.dispatching]) (by simp) (by simp [hpc, Pc.inRunTraffic]))
          fun n hp => hp.keep (by simp [hpc]) rfl rfl
      rename_i node hnode
      split at h
      · cases h
      cases h
      refine hi.setIdle (hc.move rfl rfl (by simp [Pc.fanningOut]) (by simp [hpc, Pc.dispatching])
        (fun i' j' node' h' => ?_) (by simp [hpc, Pc.inRunTraffic]))
        (fun n _ hp => hp.keep (by simp [hpc]) rfl rfl)
        (fun _ => .inl ⟨i, j, rfl⟩)
      simp only [Pc.issueRunTraffic.injEq] at h'
      obtain ⟨rfl, rfl, rfl⟩ := h'
      exact hnode
    case issueRunTraffic i j node =>
      split at h
      · cases h
      rename_i f' hf'
      cases h
      exact hi.update rfl rfl (hc.issue hf' rfl (by rw [hpc]; rfl)
          rfl (by simp) fun _ =>
            ⟨by simp [hpc, Pc.inRunTraffic], List.getElem?_mem (hc.issuing i j node hpc)⟩)
        fun n hp => SysInv.pending_issue hc hpc hf' rfl hp
    case runTrafficDrain i =>
      split_ifs at h with h0 <;> cases h
      all_goals exact hi.leave rfl rfl rfl rfl h0 (by simp [hpc]) rfl
    case notify =>
      cases h
      exact hi.calm rfl rfl rfl rfl (by rw [hpc]; rfl) rfl
    case clear =>
      split_ifs at h
      cases h
      exact hi.calm rfl rfl rfl rfl (by rw [hpc]; rfl) rfl
    case done => cases h

theorem reachable_inv {requests : Nat → List DistributedSystemDescription} {s : Sys}
    (h : Reachable requests s) : SysInv s := by
  induction h with
  | init => exact inv_init requests
  | step _ hs ih => exact ih.next hs

/-- No step removes an entry of `node_map_`. -/
theorem step_keys {s s' : Sys} {a : Action} {events : List Event} (h : step s a = .ok s' events)
    {k : String} (hk : k ∈ s.registry.nodeMap.keys) : k ∈ s'.registry.nodeMap.keys := by
  cases a with
  | registerNode request stubOk =>
    simp only [step] at h
    split_ifs at h
    cases h
    exact registerNode_keys hk
  | complete c tag code response =>
    simp only [step, completeCall] at h
    repeat' split at h
    all_goals first | (cases h; done) | (cases h; simpa using hk)
  | run c =>
    simp only [step, runCall] at h
    repeat' split at h
    all_goals first | (cases h; done) | (cases h; simpa [Sys.finishSequence, Sys.preempt] using hk)

theorem FanOut.issue_error {f : FanOut} {rpc : PendingRpc} {fault : Fault}
    (h : f.issue rpc = .error fault) : fault = .slotOutOfRange := by
  unfold FanOut.issue at h
  split_ifs at h
  cases h
  rfl

/-- From an invariant state the process can abort only on a slot past the end of
`pending_rpcs`, or on `IsCancelled()` through a null handle: every `QCHECK` passes. -/
theorem step_panic {s : Sys} {a : Action} {fault : Fault} (hi : SysInv s)
    (h : step s a = .panic fault) :
    fault = .slotOutOfRange ∨
      fault = .nullContext ∧
        ∃ c i, (s.calls c).pc = .checkCancelled i ∧ s.runningContext = none := by
  cases a with
  | registerNode request stubOk => simp only [step] at h; split_ifs at h
  | complete c tag code response =>
    simp only [step, completeCall] at h
    repeat' split at h
    all_goals cases h
  | run c =>
    simp only [step, runCall] at h
    have hc := hi.calls c
    cases hpc : (s.calls c).pc <;> simp only [hpc] at h
    case checkCancelled i =>
      repeat' split at h
      all_goals first | cases h; done | (cases h; exact .inr ⟨rfl, c, i, hpc, ‹_›⟩)
    case configureNodes i =>
      split_ifs at h
      rw [dispatchAll_eq hc.placed] at h
      cases h
    case introducePeers i =>
      split_ifs at h
      rw [dispatchAll_eq hc.placed] at h
      cases h
    case markBusy i j =>
      split at h
      · cases h
      rename_i node hnode
      split at h
      · rename_i hfind
        have := StdMap.find?_isSome.mpr (hc.placed node (List.getElem?_mem hnode))
        simp [hfind] at this
      · cases h
    all_goals
      repeat' split at h
      all_goals first | cases h; done | (cases h; exact .inl (FanOut.issue_error ‹_›))

end Distbench
