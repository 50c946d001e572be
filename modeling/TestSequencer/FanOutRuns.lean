import TestSequencer.Invariants

/-!
# A fan-out from its dispatch loop to its verdict

The four fan-outs (`ConfigureNodes`, `IntroducePeers`, `RunTraffic`, `CancelTraffic`) share
one shape: a dispatch loop writes `pending_rpcs[rpc_count++]` and issues one RPC per target;
a drain loop takes completions from `cq` until `rpc_count` is zero; the call then returns its
verdict. Here the call runs one fan-out on its own, and `cq` returns each issued tag once, in
any order.

* `completions`, `Call.takeCompletion`, `Call.drain` — the completions `cq.Next` returns, and
  what the drain loop does to the call's locals with them. `exec_drain`: the drain loop takes
  them all, one after the other.
* `dispatched` — the vector of a dispatch loop that has issued to a list of targets;
  `dispatched_issue`: the next slot lies inside the vector. `exec_markBusy` (lines 377-386)
  and `exec_cancelScan` (lines 111-123) — the dispatch loops that take one step per
  iteration, each from its one-iteration lemma.
* `FanOutRun` — one whole fan-out of a call from its dispatch loop to its verdict;
  `configureNodes_run`, `introducePeers_run`, `runTraffic_run` and `cancelTraffic_run` — each
  of the four. `IntroducePeers` sends each node the call's `service_map` (line 334).
* `PhaseGate` — within one `DoRunTest`, a phase starts only after the phase before it has
  taken every completion and none failed.
-/

set_option autoImplicit false

namespace Distbench

theorem exec_cons_ok {s s₁ s₂ : Sys} {a : Action} {as : List Action} {e₁ e₂ : List Event}
    (h₁ : step s a = .ok s₁ e₁) (h₂ : exec s₁ as = .ok s₂ e₂) :
    exec s (a :: as) = .ok s₂ (e₁ ++ e₂) := by
  rw [exec_cons h₁, h₂]

theorem exec_single {s s₁ : Sys} {a : Action} {e : List Event} (h : step s a = .ok s₁ e) :
    exec s [a] = .ok s₁ e := by
  rw [exec_cons_ok h (rfl : exec s₁ [] = .ok s₁ []), List.append_nil]

/-! ## The drain loop -/

/-- The RPC whose completions a drain loop takes. -/
def Pc.draining : Pc → Option Rpc
  | .cancelDrain => some .cancelTraffic
  | .configureDrain _ => some .configureNode
  | .introduceDrain _ => some .introducePeers
  | .runTrafficDrain _ => some .runTraffic
  | _ => none

/-- `cq.Next` returns the tags of `order`, in that order, with `ok == true`; the RPC on tag `t`
ended with `codes t` and answered `responses t`. -/
def completions (c : Nat) (codes : Nat → StatusCode) (responses : Nat → ProtoMap String)
    (order : List Nat) : List Action :=
  order.map fun t => .complete c t (codes t) (responses t)

/-- One iteration of a drain loop on the call's locals: `--rpc_count`, the status of a failed
RPC kept, and the response merged into `ret` (`ConfigureNodes` and `RunTraffic`). -/
def Call.takeCompletion (kind : Rpc) (tag : Nat) (code : StatusCode)
    (response : ProtoMap String) (cl : Call) : Call :=
  { cl with
    fanOut := cl.fanOut.finish tag code
    serviceMap := if kind = .configureNode then cl.serviceMap.mergeFrom response else cl.serviceMap
    logs := if kind = .runTraffic then cl.logs.mergeFrom response else cl.logs }

/-- The drain loop taking the completions of `order`. -/
def Call.drain (cl : Call) (kind : Rpc) (codes : Nat → StatusCode)
    (responses : Nat → ProtoMap String) (order : List Nat) : Call :=
  order.foldl (fun cl t => cl.takeCompletion kind t (codes t) (responses t)) cl

theorem Call.drain_eq (kind : Rpc) (codes : Nat → StatusCode)
    (responses : Nat → ProtoMap String) :
    ∀ (order : List Nat) (cl : Call), cl.drain kind codes responses order =
      { cl with
        fanOut := order.foldl (fun f t => f.finish t (codes t)) cl.fanOut
        serviceMap := if kind = .configureNode then
            order.foldl (fun m t => m.mergeFrom (responses t)) cl.serviceMap
          else cl.serviceMap
        logs := if kind = .runTraffic then
            order.foldl (fun m t => m.mergeFrom (responses t)) cl.logs
          else cl.logs }
  | [], cl => by simp [Call.drain]
  | t :: order, cl => by
    rw [Call.drain, List.foldl_cons, ← Call.drain, Call.drain_eq kind codes responses order]
    by_cases hc : kind = .configureNode <;> by_cases hr : kind = .runTraffic <;>
      simp [Call.takeCompletion, hc, hr]

section Finish

variable (codes : Nat → StatusCode)

theorem foldl_finish_rpcCount :
    ∀ (order : List Nat) (f : FanOut),
      (order.foldl (fun f t => f.finish t (codes t)) f).rpcCount = f.rpcCount - order.length
  | [], f => rfl
  | t :: order, f => by
    rw [List.foldl_cons, foldl_finish_rpcCount order, FanOut.finish_rpcCount, List.length_cons]
    omega

theorem foldl_finish_outstanding :
    ∀ (order : List Nat) (f : FanOut),
      (order.foldl (fun f t => f.finish t (codes t)) f).outstanding =
        order.foldl List.erase f.outstanding
  | [], f => rfl
  | t :: order, f => by
    rw [List.foldl_cons, foldl_finish_outstanding order, FanOut.finish_outstanding]
    rfl

theorem foldl_finish_slot :
    ∀ (order : List Nat) (f : FanOut),
      (order.foldl (fun f t => f.finish t (codes t)) f).slot = f.slot
  | [], f => rfl
  | t :: order, f => by rw [List.foldl_cons, foldl_finish_slot order, FanOut.slot_finish]

/-- The status a drain loop ends with is OK exactly when it started OK and no RPC failed. -/
theorem foldl_finish_status :
    ∀ (order : List Nat) (f : FanOut),
      (order.foldl (fun f t => f.finish t (codes t)) f).status = .OK ↔
        f.status = .OK ∧ ∀ t ∈ order, codes t = .OK
  | [], f => by simp
  | t :: order, f => by
    rw [List.foldl_cons, foldl_finish_status order]
    by_cases ht : codes t = .OK <;> simp [FanOut.finish, ht]

end Finish

/-- Erasing every tag of a permutation of the list leaves nothing. -/
theorem foldl_erase_perm {l order : List Nat} (h : l.Perm order) :
    order.foldl List.erase l = [] := by
  induction order generalizing l with
  | nil => exact List.Perm.nil_eq h.symm |>.symm
  | cons t order ih =>
    rw [List.foldl_cons]
    exact ih (by simpa using h.erase t)

theorem not_mem_foldl_erase {x : Nat} :
    ∀ (order : List Nat) (l : List Nat), x ∉ l → x ∉ order.foldl List.erase l
  | [], _, h => h
  | _ :: order, _, h => not_mem_foldl_erase order _ fun hx => h (List.mem_of_mem_erase hx)

/-- A tag the drain loop has taken is no longer outstanding. -/
theorem not_mem_foldl_erase_of_mem {x : Nat} :
    ∀ (order : List Nat) (l : List Nat), l.Nodup → x ∈ order → x ∉ order.foldl List.erase l
  | t :: order, l, hl, hx => by
    rw [List.foldl_cons]
    by_cases hxt : x = t
    · subst hxt; exact not_mem_foldl_erase order _ (hl.not_mem_erase)
    · exact not_mem_foldl_erase_of_mem order _ (hl.erase t)
        ((List.mem_cons.mp hx).resolve_left hxt)

section Steps

variable {s s' : Sys} {c : Nat}

theorem completeCall_not_outstanding {tag : Nat} {code : StatusCode}
    {response : ProtoMap String} (h : tag ∉ (s.calls c).fanOut.outstanding) :
    completeCall s c tag code response = .blocked := by
  simp only [completeCall]
  split
  · rfl
  · rw [if_neg h]

theorem runCall_draining_blocked {kind : Rpc} (hk : (s.calls c).pc.draining = some kind)
    (h0 : (s.calls c).fanOut.rpcCount ≠ 0) : runCall s c = .blocked := by
  unfold runCall
  cases hpc : (s.calls c).pc <;> simp only [Pc.draining, hpc, reduceCtorEq] at hk <;>
    simp [hpc, h0]

/-- One iteration of a drain loop: the completion of an outstanding tag. -/
theorem completeCall_drain {tag : Nat} {kind : Rpc} {rpc : PendingRpc} (code : StatusCode)
    (response : ProtoMap String) (hk : (s.calls c).pc.draining = some kind)
    (hs : (s.calls c).fanOut.slot tag = some rpc) (ht : tag ∈ (s.calls c).fanOut.outstanding) :
    ∃ s', completeCall s c tag code response = .ok s' [.completed c kind tag rpc.node code] ∧
      s'.calls c = (s.calls c).takeCompletion kind tag code response := by
  simp only [completeCall, hs, ht, ↓reduceIte]
  cases hpc : (s.calls c).pc <;> simp only [Pc.draining, hpc, reduceCtorEq,
    Option.some.injEq] at hk <;> subst hk <;>
    exact ⟨_, rfl, by simp [Call.takeCompletion, configureComplete]⟩

variable (codes : Nat → StatusCode) (responses : Nat → ProtoMap String)

/-- **The drain loop** takes the completions of `order`, one after the other. -/
theorem exec_drain {kind : Rpc} :
    ∀ (order : List Nat) (s : Sys), (s.calls c).pc.draining = some kind → order.Nodup →
      (∀ t ∈ order, t ∈ (s.calls c).fanOut.outstanding) →
      (∀ t ∈ order, ∃ rpc, (s.calls c).fanOut.slot t = some rpc) →
      ∃ s', exec s (completions c codes responses order) =
          .ok s' (order.filterMap fun t => ((s.calls c).fanOut.slot t).map fun rpc =>
            .completed c kind t rpc.node (codes t)) ∧
        s'.calls c = (s.calls c).drain kind codes responses order
  | [], s, _, _, _, _ => ⟨s, rfl, rfl⟩
  | t :: order, s, hk, hn, ho, hs => by
    obtain ⟨rpc, hrpc⟩ := hs t (List.mem_cons_self _ _)
    obtain ⟨s₁, h₁, hc₁⟩ :=
      completeCall_drain (codes t) (responses t) hk hrpc
        (ho t (List.mem_cons_self _ _))
    obtain ⟨htn, hn'⟩ := List.nodup_cons.mp hn
    have hslot : (s₁.calls c).fanOut.slot = (s.calls c).fanOut.slot := by
      rw [hc₁]; rfl
    obtain ⟨s₂, h₂, hc₂⟩ := exec_drain order s₁ (by rw [hc₁]; exact hk) hn'
      (fun t' ht' => by
        rw [hc₁]
        exact (List.mem_erase_of_ne (fun h => htn (by rw [← h]; exact ht'))).mpr
          (ho t' (List.mem_cons_of_mem _ ht')))
      (fun t' ht' => hslot ▸ hs t' (List.mem_cons_of_mem _ ht'))
    have h₁' : step s (.complete c t (codes t) (responses t)) = _ := h₁
    refine ⟨s₂, exec_cons_ok h₁' h₂ |>.trans ?_, by rw [hc₂, hc₁]; rfl⟩
    rw [hslot, List.filterMap_cons, hrpc]
    rfl

end Steps

/-! ## Dispatch loops -/

/-- The vector of a dispatch loop that has issued to `targets`: the `targets` in its first
slots, `size` slots in all, one tag outstanding per target. -/
def dispatched (targets : List PendingRpc) (size : Nat) : FanOut :=
  ⟨targets.map some ++ List.replicate (size - targets.length) none, targets.length,
    List.range targets.length, .OK⟩

@[simp] theorem dispatched_rpcCount (targets : List PendingRpc) (size : Nat) :
    (dispatched targets size).rpcCount = targets.length := rfl

/-- `pending_rpcs[rpc_count]` lies inside the vector while fewer RPCs than slots are issued. -/
theorem dispatched_issue {targets : List PendingRpc} {size : Nat} (x : PendingRpc)
    (h : targets.length < size) :
    (dispatched targets size).issue x = .ok (dispatched (targets ++ [x]) size) := by
  obtain ⟨r, hr⟩ : ∃ r, size - targets.length = r + 1 := ⟨size - targets.length - 1, by omega⟩
  have hr' : size - (targets.length + 1) = r := by omega
  simp [dispatched, FanOut.issue, hr, hr', List.replicate_succ, List.range_succ]

theorem dispatched_slot (targets : List PendingRpc) (size t : Nat) :
    (dispatched targets size).slot t = targets[t]? := by
  simp only [dispatched, FanOut.slot]
  rcases Nat.lt_or_ge t targets.length with ht | ht
  · rw [List.getElem?_append_left (by simpa using ht)]
    simp [ht]
  · rw [List.getElem?_append_right (by simpa using ht), List.getElem?_replicate,
      List.getElem?_eq_none ht]
    split <;> rfl

@[simp] theorem stubOf_setIdle (s : Sys) (node : String) (b : Bool) :
    stubOf (s.setIdle node b).registry.nodeMap = stubOf s.registry.nodeMap := by
  funext k
  simp only [stubOf, Sys.setIdle, StdMap.find?_adjust]
  split_ifs with h
  · subst h; cases s.registry.nodeMap.find? k <;> rfl
  · rfl

/-- `s'` agrees with `s` on `mutex_`, the running handle, the notifications and the
cancellation tokens: only `node_map_` and the calls' locals may differ. -/
structure Sys.Shared (s s' : Sys) : Prop where
  writer : s'.writer = s.writer
  readers : s'.readers = s.readers
  runningContext : s'.runningContext = s.runningContext
  runningNotification : s'.runningNotification = s.runningNotification
  notified : s'.notified = s.notified
  cancelled : s'.cancelled = s.cancelled

theorem Sys.Shared.refl (s : Sys) : Sys.Shared s s := ⟨rfl, rfl, rfl, rfl, rfl, rfl⟩

theorem Sys.Shared.trans {s₁ s₂ s₃ : Sys} (h₁ : Sys.Shared s₁ s₂) (h₂ : Sys.Shared s₂ s₃) :
    Sys.Shared s₁ s₃ :=
  ⟨h₂.writer.trans h₁.writer, h₂.readers.trans h₁.readers,
    h₂.runningContext.trans h₁.runningContext,
    h₂.runningNotification.trans h₁.runningNotification, h₂.notified.trans h₁.notified,
    h₂.cancelled.trans h₁.cancelled⟩

theorem Sys.Shared.update (s : Sys) (c : Nat) (f : Call → Call) : Sys.Shared s (s.update c f) :=
  ⟨rfl, rfl, rfl, rfl, rfl, rfl⟩

/-- A section of call `c` under `ReaderMutexLock`: `c` joins the readers, nothing shared changes
inside, and `c` leaves the readers again. -/
theorem Sys.Shared.reader {s s' : Sys} {c : Nat} {g : Call → Call}
    (h : Sys.Shared (Sys.update { s with readers := c :: s.readers } c g) s') (f : Call → Call) :
    Sys.Shared s (Sys.update { s' with readers := s'.readers.erase c } c f) :=
  ⟨h.writer, by simp [Sys.update, h.readers], h.runningContext, h.runningNotification, h.notified,
    h.cancelled⟩

section Dispatch

variable {s : Sys} {c i : Nat}

theorem runCall_markBusy {j : Nat} {k : String} {node : Node}
    (hpc : (s.calls c).pc = .markBusy i j) (hk : (s.calls c).nodeServiceMap.keys[j]? = some k)
    (hnode : s.registry.nodeMap.find? k = some node) :
    runCall s c = .ok ((s.setIdle k false).update c fun cl =>
      { cl with pc := .issueRunTraffic i j k }) [.markedBusy c k] := by
  simp [runCall, hpc, hk, hnode]

theorem runCall_issueRunTraffic {j : Nat} {k : String} {f : FanOut}
    (hpc : (s.calls c).pc = .issueRunTraffic i j k)
    (hf : (s.calls c).fanOut.issue ⟨k, stubOf s.registry.nodeMap k, [], ProtoMap.empty⟩ = .ok f) :
    runCall s c = .ok (s.update c fun cl => { cl with pc := .markBusy i (j + 1), fanOut := f })
      [.issued c .runTraffic (s.calls c).fanOut.rpcCount k] := by
  simp [runCall, hpc, hf]

/-- The `RunTraffic` RPC to node `k`. -/
def trafficRpc (stubs : String → Option Stub) (k : String) : PendingRpc :=
  ⟨k, stubs k, [], ProtoMap.empty⟩

/-- One iteration of the dispatch loop of `RunTraffic`: the node is marked busy (line 382),
then its RPC is issued into the next slot, on its stub (lines 377-378 and 383-385). -/
theorem exec_markBusy_one {stubs : String → Option Stub} {done : List String} {k : String}
    {size : Nat} (hk : (s.calls c).nodeServiceMap.keys[done.length]? = some k)
    (hpc : (s.calls c).pc = .markBusy i done.length)
    (hf : (s.calls c).fanOut = dispatched (done.map (trafficRpc stubs)) size)
    (hsize : done.length < size) (hstub : stubOf s.registry.nodeMap = stubs)
    (hreg : k ∈ s.registry.nodeMap.keys) :
    ∃ s₂, exec s [.run c, .run c] =
        .ok s₂ [.markedBusy c k, .issued c .runTraffic done.length k] ∧
      s₂.calls c = { s.calls c with
        pc := .markBusy i (done.length + 1)
        fanOut := dispatched ((done ++ [k]).map (trafficRpc stubs)) size } ∧
      s₂.registry.nodeMap.keys = s.registry.nodeMap.keys ∧ stubOf s₂.registry.nodeMap = stubs ∧
      s₂.registry.nodeMap = s.registry.nodeMap.adjust k (fun n => { n with idle := false }) ∧
      Sys.Shared s s₂ := by
  obtain ⟨node, hnode⟩ : ∃ node, s.registry.nodeMap.find? k = some node :=
    Option.isSome_iff_exists.mp (StdMap.find?_isSome.mpr hreg)
  have h₁ : step s (.run c) = _ := runCall_markBusy hpc hk hnode
  have h₂ : step ((s.setIdle k false).update c fun cl =>
      { cl with pc := .issueRunTraffic i done.length k }) (.run c) = _ :=
    runCall_issueRunTraffic (c := c) (i := i) (j := done.length) (k := k)
      (f := dispatched ((done ++ [k]).map (trafficRpc stubs)) size) (by simp)
      (by simpa [hf, hstub, trafficRpc] using
        dispatched_issue (trafficRpc stubs k) (by simpa using hsize))
  simp only [Sys.update_calls_self, Sys.setIdle_calls, hf, dispatched_rpcCount,
    List.length_map] at h₂
  exact ⟨_, exec_cons_ok h₁ (exec_single h₂), by simp, by simp, by simp [hstub], rfl,
    ⟨rfl, rfl, rfl, rfl, rfl, rfl⟩⟩

/-- **The dispatch loop of `RunTraffic`** from entry `done.length` of `node_service_map` on,
two steps per node. -/
theorem exec_markBusy (stubs : String → Option Stub) :
    ∀ (rest done : List String) (s : Sys),
      (s.calls c).nodeServiceMap.keys = done ++ rest →
      (s.calls c).pc = .markBusy i done.length →
      (s.calls c).fanOut = dispatched (done.map (trafficRpc stubs)) (done ++ rest).length →
      stubOf s.registry.nodeMap = stubs →
      (∀ k ∈ rest, k ∈ s.registry.nodeMap.keys) →
      ∃ s', exec s (List.replicate (2 * rest.length + 1) (.run c)) =
          .ok s' ((rest.enumFrom done.length).flatMap fun e =>
            [.markedBusy c e.2, .issued c .runTraffic e.1 e.2]) ∧
        s'.calls c = { s.calls c with
          pc := .runTrafficDrain i
          fanOut := dispatched ((done ++ rest).map (trafficRpc stubs)) (done ++ rest).length } ∧
        s'.registry.nodeMap =
          rest.foldl (fun m k => m.adjust k fun n => { n with idle := false }) s.registry.nodeMap ∧
        Sys.Shared s s'
  | [], done, s, hkeys, hpc, hf, _, _ => by
    have hstep : step s (.run c) =
        .ok (s.update c fun cl => { cl with pc := .runTrafficDrain i }) [] := by
      simp [step, runCall, hpc, hkeys]
    exact ⟨_, exec_single hstep, by simp [hf], rfl, ⟨rfl, rfl, rfl, rfl, rfl, rfl⟩⟩
  | k :: rest, done, s, hkeys, hpc, hf, hstub, hreg => by
    obtain ⟨s₂, h₂, hc₂, hk₂, hs₂, hm₂, hsh₂⟩ := exec_markBusy_one
      (by rw [hkeys, List.getElem?_append_right le_rfl]; simp) hpc hf (by simp)
      hstub (hreg k (List.mem_cons_self _ _))
    obtain ⟨s', h', hc', hm', hsh'⟩ := exec_markBusy stubs rest (done ++ [k]) s₂
      (by simp [hc₂, hkeys]) (by simp [hc₂]) (by simp [hc₂]) hs₂
      (fun k' hk' => hk₂ ▸ hreg k' (List.mem_cons_of_mem _ hk'))
    refine ⟨s', ?_, by rw [hc', hc₂]; simp, by rw [hm', hm₂]; rfl, hsh₂.trans hsh'⟩
    rw [show 2 * (k :: rest).length + 1 = 2 + (2 * rest.length + 1) by simp; omega,
      List.replicate_add]
    exact (exec_append h₂ h').trans (by simp)

/-- The nodes `CancelTraffic` finds busy among entries of `node_map_`, as the RPCs it issues
them: the alias, the node's own stub, no services. -/
def cancelTargets (entries : List (String × Node)) : List PendingRpc :=
  (entries.filter fun e => !e.2.idle).map fun e => ⟨e.1, e.2.stub, [], ProtoMap.empty⟩

@[simp] theorem cancelTargets_nil : cancelTargets [] = [] := rfl

theorem cancelTargets_append (l₁ l₂ : List (String × Node)) :
    cancelTargets (l₁ ++ l₂) = cancelTargets l₁ ++ cancelTargets l₂ := by
  simp [cancelTargets]

theorem cancelTargets_length_le (l : List (String × Node)) :
    (cancelTargets l).length ≤ l.length := by
  simpa [cancelTargets] using List.length_filter_le _ l

theorem runCall_cancelScan_busy {k : Nat} {e : String × Node} {f : FanOut}
    (hpc : (s.calls c).pc = .cancelScan k) (he : s.registry.nodeMap.entries[k]? = some e)
    (hidle : e.2.idle = false) (hf : (s.calls c).fanOut.issue ⟨e.1, e.2.stub, [], ProtoMap.empty⟩ = .ok f) :
    runCall s c = .ok (s.update c fun cl => { cl with pc := .cancelScan (k + 1), fanOut := f })
      [.issued c .cancelTraffic (s.calls c).fanOut.rpcCount e.1] := by
  simp [runCall, hpc, he, hidle, hf]

theorem runCall_cancelScan_idle {k : Nat} {e : String × Node}
    (hpc : (s.calls c).pc = .cancelScan k) (he : s.registry.nodeMap.entries[k]? = some e)
    (hidle : e.2.idle = true) :
    runCall s c = .ok (s.update c fun cl => { cl with pc := .cancelScan (k + 1) }) [] := by
  simp [runCall, hpc, he, hidle]

/-- One iteration of the dispatch loop of `CancelTraffic` (lines 111-123): an idle node is
skipped, a busy one gets one RPC into the next slot, on its stub. -/
theorem exec_cancelScan_one {pre : List (String × Node)} {e : String × Node} {size : Nat}
    (he : s.registry.nodeMap.entries[pre.length]? = some e)
    (hpc : (s.calls c).pc = .cancelScan pre.length)
    (hf : (s.calls c).fanOut = dispatched (cancelTargets pre) size) (hsize : pre.length < size) :
    ∃ s₁, step s (.run c) = .ok s₁ (((cancelTargets [e]).enumFrom
        (cancelTargets pre).length).map fun e => .issued c .cancelTraffic e.1 e.2.node) ∧
      s₁.calls c = { s.calls c with
        pc := .cancelScan (pre.length + 1)
        fanOut := dispatched (cancelTargets (pre ++ [e])) size } ∧
      s₁.registry = s.registry ∧ Sys.Shared s s₁ := by
  cases hidle : e.2.idle
  · -- a busy node: one RPC into the next slot
    have hlen := cancelTargets_length_le pre
    have hct : cancelTargets (pre ++ [e]) = cancelTargets pre ++ [⟨e.1, e.2.stub, [], ProtoMap.empty⟩] := by
      simp [cancelTargets_append, cancelTargets, hidle]
    have h₁ : step s (.run c) = _ := runCall_cancelScan_busy hpc he hidle
      (f := dispatched (cancelTargets (pre ++ [e])) size)
      (by rw [hf, hct]; exact dispatched_issue _ (by omega))
    have hev : ((cancelTargets [e]).enumFrom (cancelTargets pre).length).map
        (fun e => Event.issued c .cancelTraffic e.1 e.2.node) =
        [.issued c .cancelTraffic (cancelTargets pre).length e.1] := by
      simp [cancelTargets, hidle]
    rw [hf, dispatched_rpcCount] at h₁
    exact ⟨_, hev ▸ h₁, by simp, by simp, by exact ⟨rfl, rfl, rfl, rfl, rfl, rfl⟩⟩
  · -- an idle node is skipped
    have hev : ((cancelTargets [e]).enumFrom (cancelTargets pre).length).map
        (fun e => Event.issued c .cancelTraffic e.1 e.2.node) = [] := by
      simp [cancelTargets, hidle]
    exact ⟨_, hev ▸ runCall_cancelScan_idle hpc he hidle,
      by simp [hf, cancelTargets_append, cancelTargets, hidle], by simp,
      by exact ⟨rfl, rfl, rfl, rfl, rfl, rfl⟩⟩

/-- **The dispatch loop of `CancelTraffic`** from entry `pre.length` of `node_map_` on, one
step per entry. -/
theorem exec_cancelScan :
    ∀ (rest pre : List (String × Node)) (s : Sys),
      s.registry.nodeMap.entries = pre ++ rest →
      (s.calls c).pc = .cancelScan pre.length →
      (s.calls c).fanOut = dispatched (cancelTargets pre) (pre ++ rest).length →
      ∃ s', exec s (List.replicate (rest.length + 1) (.run c)) =
          .ok s' (((cancelTargets rest).enumFrom (cancelTargets pre).length).map fun e =>
            .issued c .cancelTraffic e.1 e.2.node) ∧
        s'.calls c = { s.calls c with
          pc := .cancelDrain
          fanOut := dispatched (cancelTargets (pre ++ rest)) (pre ++ rest).length } ∧
        s'.registry = s.registry ∧ Sys.Shared s s'
  | [], pre, s, hent, hpc, hf => by
    have hstep : step s (.run c) =
        .ok (s.update c fun cl => { cl with pc := .cancelDrain }) [] := by
      simp [step, runCall, hpc, hent]
    exact ⟨_, exec_single hstep, by simp [hf], rfl, ⟨rfl, rfl, rfl, rfl, rfl, rfl⟩⟩
  | e :: rest, pre, s, hent, hpc, hf => by
    obtain ⟨s₁, h₁, hc₁, hr₁, hsh₁⟩ := exec_cancelScan_one (e := e)
      (by rw [hent, List.getElem?_append_right le_rfl]; simp) hpc hf (by simp)
    obtain ⟨s', h', hc', hr', hsh'⟩ := exec_cancelScan rest (pre ++ [e]) s₁
      (by simp [hr₁, hent]) (by simp [hc₁]) (by simp [hc₁])
    refine ⟨s', ?_, by rw [hc', hc₁]; simp, hr'.trans hr₁, hsh₁.trans hsh'⟩
    rw [List.length_cons, List.replicate_succ, exec_cons_ok h₁ h', ← List.map_append,
      cancelTargets_append, List.length_append, ← List.enumFrom_append,
      ← cancelTargets_append, List.singleton_append]

end Dispatch

/-! ## One whole fan-out -/

section Run

variable {c : Nat} (codes : Nat → StatusCode) (responses : Nat → ProtoMap String)

@[simp] theorem Call.drain_pc (cl : Call) (kind : Rpc) (order : List Nat) :
    (cl.drain kind codes responses order).pc = cl.pc := by
  rw [Call.drain_eq]

@[simp] theorem Call.drain_fanOut (cl : Call) (kind : Rpc) (order : List Nat) :
    (cl.drain kind codes responses order).fanOut =
      order.foldl (fun f t => f.finish t (codes t)) cl.fanOut := by
  rw [Call.drain_eq]

/-- **One whole fan-out** of call `c` from `s`, the call running alone: `steps` steps of the
dispatch loop log `dispatchLog` and leave the `targets` in the first slots of a vector of
`size`; `cq` then returns the tags of `order`. The drain loop takes each of them, and only
once: before the last it still waits, and a tag it took is never taken again. Right after the
last it leaves the loop, into a call of which `leave` holds. -/
def FanOutRun (s : Sys) (c : Nat) (kind : Rpc) (steps size : Nat) (targets : List PendingRpc)
    (dispatchLog : List Event) (order : List Nat) (leave : Call → Prop) : Prop :=
  ∃ s₁ s₂ s₃,
    exec s (List.replicate steps (.run c)) = .ok s₁ dispatchLog ∧
    targets.length ≤ size ∧ (s₁.calls c).fanOut = dispatched targets size ∧
    exec s₁ (completions c codes responses order) = .ok s₂ (order.filterMap fun t =>
      targets[t]?.map fun rpc => .completed c kind t rpc.node (codes t)) ∧
    s₂.calls c = (s₁.calls c).drain kind codes responses order ∧
    (∀ k < order.length, ∃ sk ek,
      exec s₁ (completions c codes responses (order.take k)) = .ok sk ek ∧
      runCall sk c = .blocked ∧
      ∀ t ∈ order.take k, ∀ code response, completeCall sk c t code response = .blocked) ∧
    (∀ t code response, completeCall s₂ c t code response = .blocked) ∧
    runCall s₂ c = .ok s₃ [] ∧ leave (s₃.calls c)

theorem FanOutRun.mono {codes : Nat → StatusCode} {responses : Nat → ProtoMap String} {s : Sys}
    {kind : Rpc} {steps size : Nat} {targets : List PendingRpc}
    {dispatchLog : List Event} {order : List Nat} {leave leave' : Call → Prop}
    (h : FanOutRun codes responses s c kind steps size targets dispatchLog order leave)
    (hl : ∀ cl, leave cl → leave' cl) :
    FanOutRun codes responses s c kind steps size targets dispatchLog order leave' :=
  let ⟨s₁, s₂, s₃, h₁, h₂, h₃, h₄, h₅, h₆, h₇, h₈, h₉⟩ := h
  ⟨s₁, s₂, s₃, h₁, h₂, h₃, h₄, h₅, h₆, h₇, h₈, hl _ h₉⟩

/-- A fan-out whose dispatch loop is done is completed by its drain loop, whatever the order
of the completions; `hleave` is what the call does once `rpc_count` is zero. -/
theorem fanOutRun_of_dispatched {s s₁ : Sys} {kind : Rpc} {steps size : Nat}
    {targets : List PendingRpc} {dispatchLog : List Event} {order : List Nat}
    {leave : Call → Prop}
    (hd : exec s (List.replicate steps (.run c)) = .ok s₁ dispatchLog)
    (hk : (s₁.calls c).pc.draining = some kind) (hsize : targets.length ≤ size)
    (hf : (s₁.calls c).fanOut = dispatched targets size)
    (horder : order.Perm (List.range targets.length))
    (hleave : ∀ s₂ : Sys, s₂.calls c = (s₁.calls c).drain kind codes responses order →
      (s₂.calls c).fanOut.rpcCount = 0 →
      ((s₂.calls c).fanOut.status = .OK ↔ ∀ t ∈ order, codes t = .OK) →
      ∃ s₃, runCall s₂ c = .ok s₃ [] ∧ leave (s₃.calls c)) :
    FanOutRun codes responses s c kind steps size targets dispatchLog order leave := by
  have hnodup : order.Nodup := horder.nodup_iff.mpr (List.nodup_range _)
  have hout : (s₁.calls c).fanOut.outstanding = List.range targets.length := by rw [hf]; rfl
  have hcount : (s₁.calls c).fanOut.rpcCount = targets.length := by rw [hf]; rfl
  -- the drain loop over any part of `order`
  have hrun : ∀ part : List Nat, part.Sublist order → ∃ s', exec s₁
      (completions c codes responses part) = .ok s' (part.filterMap fun t =>
        targets[t]?.map fun rpc => .completed c kind t rpc.node (codes t)) ∧
      s'.calls c = (s₁.calls c).drain kind codes responses part := by
    intro part hpart
    have hmem : ∀ t ∈ part, t < targets.length := fun t ht =>
      List.mem_range.mp (horder.subset (hpart.subset ht))
    obtain ⟨s', h', hc'⟩ := exec_drain codes responses part s₁ hk (hnodup.sublist hpart)
      (fun t ht => by rw [hout]; exact List.mem_range.mpr (hmem t ht))
      (fun t ht => ⟨_, by rw [hf, dispatched_slot]; exact List.getElem?_eq_getElem (hmem t ht)⟩)
    refine ⟨s', ?_, hc'⟩
    simpa only [hf, dispatched_slot] using h'
  obtain ⟨s₂, h₂, hc₂⟩ := hrun order (List.Sublist.refl _)
  have hlen : order.length = targets.length := by simpa using horder.length_eq
  obtain ⟨s₃, h₃, hl⟩ := hleave s₂ hc₂
    (by rw [hc₂, Call.drain_fanOut, foldl_finish_rpcCount, hcount, hlen, Nat.sub_self])
    (by rw [hc₂, Call.drain_fanOut, foldl_finish_status, hf]; simp [dispatched])
  refine ⟨s₁, s₂, s₃, hd, hsize, hf, h₂, hc₂, fun k hk' => ?_, fun t code response => ?_, h₃, hl⟩
  · -- before the last completion the loop waits, and takes no tag twice
    obtain ⟨sk, hsk, hck⟩ := hrun (order.take k) (List.take_sublist _ _)
    refine ⟨sk, _, hsk, runCall_draining_blocked (by rw [hck, Call.drain_pc]; exact hk) ?_,
      fun t ht code response => completeCall_not_outstanding ?_⟩
    · rw [hck, Call.drain_fanOut, foldl_finish_rpcCount, hcount, List.length_take]
      omega
    · rw [hck, Call.drain_fanOut, foldl_finish_outstanding, hout]
      exact not_mem_foldl_erase_of_mem _ _ (List.nodup_range _) ht
  · -- after it, no tag is outstanding
    apply completeCall_not_outstanding
    rw [hc₂, Call.drain_fanOut, foldl_finish_outstanding, hout, foldl_erase_perm horder.symm]
    exact List.not_mem_nil t

end Run

/-! ## The four fan-outs -/

/-- `ret`: the merge of every response the drain loop takes. -/
def mergedResponses (responses : Nat → ProtoMap String) (order : List Nat) : ProtoMap String :=
  order.foldl (fun m t => m.mergeFrom (responses t)) ProtoMap.empty

/-- How the verdict of a fan-out leaves the call: as `ok` says when every RPC ended OK, else
with `DoRunTestSequence` returning ABORTED with `message`. -/
def Verdict (codes : Nat → StatusCode) (order : List Nat) (ok : Call → Prop) (message : String)
    (cl : Call) : Prop :=
  ((∀ t ∈ order, codes t = .OK) → ok cl) ∧
    (¬(∀ t ∈ order, codes t = .OK) → cl.pc = .notify ∧ cl.result = some ⟨.ABORTED, message⟩)

section Phases

variable {s : Sys} {c i : Nat} {order : List Nat} {codes : Nat → StatusCode}

theorem Verdict.of_status {ok : Call → Prop} {message : String} {cl : Call} {st : StatusCode}
    (hst : st = .OK ↔ ∀ t ∈ order, codes t = .OK) (hok : st = .OK → ok cl)
    (herr : st ≠ .OK → cl.pc = .notify ∧ cl.result = some ⟨.ABORTED, message⟩) :
    Verdict codes order ok message cl :=
  ⟨fun h => hok (hst.mpr h), fun h => herr fun h' => h (hst.mp h')⟩

theorem Verdict.mono {ok ok' : Call → Prop} {message : String} {cl : Call}
    (h : Verdict codes order ok message cl) (hok : ∀ cl, ok cl → ok' cl) :
    Verdict codes order ok' message cl :=
  ⟨fun ho => hok cl (h.1 ho), h.2⟩

theorem dispatched_entries (nodeMap : StdMap Node) (nsm : StdMap StdSet)
    (services : StdSet → List String) (serviceMap : ServiceEndpointMap) :
    dispatched (nsm.entries.map (slotFor nodeMap services serviceMap)) nsm.size =
      ⟨nsm.entries.map (some ∘ slotFor nodeMap services serviceMap), nsm.size,
        List.range nsm.size, .OK⟩ := by
  simp [dispatched, StdMap.size]

theorem runCall_configureNodes (hpc : (s.calls c).pc = .configureNodes i)
    (hlock : s.lockFree = true)
    (hk : ∀ k ∈ (s.calls c).nodeServiceMap.keys, k ∈ s.registry.nodeMap.keys) :
    runCall s c = .ok (Sys.update { s with writer := some c } c fun cl =>
      { cl with
        pc := .configureDrain i
        fanOut := dispatched ((s.calls c).nodeServiceMap.entries.map
          (slotFor s.registry.nodeMap StdSet.toList ProtoMap.empty))
          (s.calls c).nodeServiceMap.size
        serviceMap := ProtoMap.empty })
      (issuedEvents c .configureNode (s.calls c).nodeServiceMap) := by
  simp [runCall, hpc, hlock, dispatchAll_eq hk, dispatched_entries]

theorem runCall_configureDrain (hpc : (s.calls c).pc = .configureDrain i)
    (h0 : (s.calls c).fanOut.rpcCount = 0) :
    ∃ s', runCall s c = .ok s' [] ∧
      ((s.calls c).fanOut.status = .OK →
        (s'.calls c).pc = .introducePeers i ∧ (s'.calls c).serviceMap = (s.calls c).serviceMap) ∧
      ((s.calls c).fanOut.status ≠ .OK →
        (s'.calls c).pc = .notify ∧ (s'.calls c).result = some ⟨.ABORTED, "Unknown GRPC error2"⟩) := by
  by_cases hst : (s.calls c).fanOut.status = .OK <;>
    simp [runCall, hpc, h0, configureResult, hst, Sys.finishSequence]

/-- **`ConfigureNodes`** (lines 265-313) from `DoRunTest`'s call of it: one step takes
`mutex_` and runs the dispatch loop, one RPC per entry of `node_service_map` on the node's stub
with the node's services; the verdict is OK with `ret` exactly when every RPC ended OK. -/
theorem configureNodes_run (responses : Nat → ProtoMap String)
    (hpc : (s.calls c).pc = .configureNodes i) (hlock : s.lockFree = true)
    (hk : ∀ k ∈ (s.calls c).nodeServiceMap.keys, k ∈ s.registry.nodeMap.keys)
    (horder : order.Perm (List.range (s.calls c).nodeServiceMap.size)) :
    FanOutRun codes responses s c .configureNode 1 (s.calls c).nodeServiceMap.size
      ((s.calls c).nodeServiceMap.entries.map
        (slotFor s.registry.nodeMap StdSet.toList ProtoMap.empty))
      (issuedEvents c .configureNode (s.calls c).nodeServiceMap) order
      (Verdict codes order (fun cl =>
        cl.pc = .introducePeers i ∧ cl.serviceMap = mergedResponses responses order)
        "Unknown GRPC error2") := by
  have h₁ : step s (.run c) = _ := runCall_configureNodes hpc hlock hk
  refine fanOutRun_of_dispatched codes responses (exec_single h₁) (by simp [Pc.draining])
    (by simp [StdMap.size]) (by simp) (by simpa [StdMap.size] using horder)
    fun s₂ hc₂ h0 hst => ?_
  obtain ⟨s₃, h₃, hok, herr⟩ := runCall_configureDrain (s := s₂) (i := i) (by simp [hc₂]) h0
  refine ⟨s₃, h₃, Verdict.of_status hst (fun h => ⟨(hok h).1, ?_⟩) herr⟩
  rw [(hok h).2, hc₂, Call.drain_eq]
  simp [mergedResponses]

theorem runCall_introducePeers (hpc : (s.calls c).pc = .introducePeers i)
    (hlock : s.lockFree = true)
    (hk : ∀ k ∈ (s.calls c).nodeServiceMap.keys, k ∈ s.registry.nodeMap.keys) :
    runCall s c = .ok (Sys.update { s with writer := some c } c fun cl =>
      { cl with
        pc := .introduceDrain i
        fanOut := dispatched ((s.calls c).nodeServiceMap.entries.map
          (slotFor s.registry.nodeMap (fun _ => []) (s.calls c).serviceMap))
          (s.calls c).nodeServiceMap.size })
      (issuedEvents c .introducePeers (s.calls c).nodeServiceMap) := by
  simp [runCall, hpc, hlock, dispatchAll_eq hk, dispatched_entries]

theorem runCall_introduceDrain (hpc : (s.calls c).pc = .introduceDrain i)
    (h0 : (s.calls c).fanOut.rpcCount = 0) :
    ∃ s', runCall s c = .ok s' [] ∧
      ((s.calls c).fanOut.status = .OK → (s'.calls c).pc = .runTraffic i) ∧
      ((s.calls c).fanOut.status ≠ .OK →
        (s'.calls c).pc = .notify ∧ (s'.calls c).result = some ⟨.ABORTED, "Unknown GRPC error"⟩) := by
  by_cases hst : (s.calls c).fanOut.status = .OK <;>
    simp [runCall, hpc, h0, hst, Sys.finishSequence]

/-- **`IntroducePeers`** (lines 315-358): one step takes `mutex_` and issues one RPC per entry
of `node_service_map` on the node's stub; the verdict is OK exactly when every RPC ended OK. -/
theorem introducePeers_run (responses : Nat → ProtoMap String)
    (hpc : (s.calls c).pc = .introducePeers i) (hlock : s.lockFree = true)
    (hk : ∀ k ∈ (s.calls c).nodeServiceMap.keys, k ∈ s.registry.nodeMap.keys)
    (horder : order.Perm (List.range (s.calls c).nodeServiceMap.size)) :
    FanOutRun codes responses s c .introducePeers 1 (s.calls c).nodeServiceMap.size
      ((s.calls c).nodeServiceMap.entries.map
        (slotFor s.registry.nodeMap (fun _ => []) (s.calls c).serviceMap))
      (issuedEvents c .introducePeers (s.calls c).nodeServiceMap) order
      (Verdict codes order (fun cl => cl.pc = .runTraffic i) "Unknown GRPC error") := by
  have h₁ : step s (.run c) = _ := runCall_introducePeers hpc hlock hk
  refine fanOutRun_of_dispatched codes responses (exec_single h₁) (by simp [Pc.draining])
    (by simp [StdMap.size]) (by simp) (by simpa [StdMap.size] using horder)
    fun s₂ hc₂ h0 hst => ?_
  obtain ⟨s₃, h₃, hok, herr⟩ := runCall_introduceDrain (s := s₂) (i := i) (by simp [hc₂]) h0
  exact ⟨s₃, h₃, Verdict.of_status hst hok herr⟩

theorem runCall_runTrafficDrain (hpc : (s.calls c).pc = .runTrafficDrain i)
    (h0 : (s.calls c).fanOut.rpcCount = 0) :
    ∃ s', runCall s c = .ok s' [] ∧
      ((s.calls c).fanOut.status = .OK → (s'.calls c).pc = .checkCancelled (i + 1) ∧
        (s'.calls c).testResults = (s.calls c).testResults ++
          [⟨(s.calls c).test, (s.calls c).serviceMap, (s.calls c).logs⟩]) ∧
      ((s.calls c).fanOut.status ≠ .OK →
        (s'.calls c).pc = .notify ∧ (s'.calls c).result = some ⟨.ABORTED, "Unknown GRPC error2"⟩) := by
  by_cases hst : (s.calls c).fanOut.status = .OK <;>
    simp [runCall, hpc, h0, hst, Sys.finishSequence]

/-- **`RunTraffic`** (lines 360-406): after `mutex_` is taken shared, each entry of
`node_service_map` takes two steps, marking the node busy and issuing its RPC on its stub; the
verdict is OK with `ret` exactly when every RPC ended OK, and `DoRunTest` then records the
test's result. -/
theorem runTraffic_run (responses : Nat → ProtoMap String)
    (hpc : (s.calls c).pc = .runTraffic i) (hw : s.writer = none)
    (hk : ∀ k ∈ (s.calls c).nodeServiceMap.keys, k ∈ s.registry.nodeMap.keys)
    (horder : order.Perm (List.range (s.calls c).nodeServiceMap.size)) :
    FanOutRun codes responses s c .runTraffic (2 * (s.calls c).nodeServiceMap.size + 2)
      (s.calls c).nodeServiceMap.size
      ((s.calls c).nodeServiceMap.keys.map (trafficRpc (stubOf s.registry.nodeMap)))
      ((s.calls c).nodeServiceMap.keys.enum.flatMap fun e =>
        [.markedBusy c e.2, .issued c .runTraffic e.1 e.2]) order
      (Verdict codes order (fun cl => cl.pc = .checkCancelled (i + 1) ∧
        cl.testResults = (s.calls c).testResults ++
          [⟨(s.calls c).test, (s.calls c).serviceMap, mergedResponses responses order⟩])
        "Unknown GRPC error2") := by
  set s₁ := Sys.update { s with readers := c :: s.readers } c fun cl =>
    { cl with pc := .markBusy i 0, fanOut := FanOut.init cl.nodeServiceMap.size,
              logs := ProtoMap.empty }
  have h₁ : step s (.run c) = .ok s₁ [] := by simp [step, runCall, hpc, hw, s₁]
  have hsize : (s.calls c).nodeServiceMap.size = (s.calls c).nodeServiceMap.keys.length := by
    simp [StdMap.size, StdMap.keys]
  obtain ⟨s', h', hc', -, -⟩ := exec_markBusy (c := c) (i := i) (stubOf s.registry.nodeMap)
    (s.calls c).nodeServiceMap.keys [] s₁ (by simp [s₁]) (by simp [s₁])
    (by simp [s₁, FanOut.init, dispatched, hsize]) (by simp [s₁])
    (fun k hk' => by simpa [s₁] using hk k hk')
  have hd : exec s (List.replicate (2 * (s.calls c).nodeServiceMap.size + 2) (.run c)) =
      .ok s' ((s.calls c).nodeServiceMap.keys.enum.flatMap fun e =>
        [.markedBusy c e.2, .issued c .runTraffic e.1 e.2]) := by
    rw [show 2 * (s.calls c).nodeServiceMap.size + 2 =
        2 * (s.calls c).nodeServiceMap.keys.length + 1 + 1 by omega, List.replicate_succ,
      exec_cons_ok h₁ h']
    rfl
  refine fanOutRun_of_dispatched codes responses hd (by simp [hc', Pc.draining])
    (by simp [hsize]) (by simp [hc', hsize]) (by simpa [hsize] using horder)
    fun s₂ hc₂ h0 hst => ?_
  obtain ⟨s₃, h₃, hok, herr⟩ := runCall_runTrafficDrain (s := s₂) (i := i)
    (by simp [hc₂, hc']) h0
  refine ⟨s₃, h₃, Verdict.of_status hst (fun h => ⟨(hok h).1, ?_⟩) herr⟩
  rw [(hok h).2, hc₂, Call.drain_eq]
  simp [hc', s₁, mergedResponses]

theorem runCall_cancelDrain (hpc : (s.calls c).pc = .cancelDrain)
    (h0 : (s.calls c).fanOut.rpcCount = 0) :
    ∃ s', runCall s c = .ok s' [] ∧ (s'.calls c).pc = .lockEntry := by
  simp [runCall, hpc, h0]

/-- **`CancelTraffic`** (lines 97-137), the first thing `RunTestSequence` does: after
`mutex_` is taken shared, one step per entry of `node_map_` issues one RPC to each node found
busy, on its stub; after the last completion the call goes on to line 72. -/
theorem cancelTraffic_run (responses : Nat → ProtoMap String)
    (hpc : (s.calls c).pc = .start) (hw : s.writer = none)
    (horder : order.Perm (List.range (cancelTargets s.registry.nodeMap.entries).length)) :
    FanOutRun codes responses s c .cancelTraffic (s.registry.nodeMap.size + 2)
      s.registry.nodeMap.size (cancelTargets s.registry.nodeMap.entries)
      ((cancelTargets s.registry.nodeMap.entries).enum.map fun e =>
        .issued c .cancelTraffic e.1 e.2.node) order
      (fun cl => cl.pc = .lockEntry) := by
  set s₁ := Sys.update { s with readers := c :: s.readers } c fun cl =>
    { cl with pc := .cancelScan 0, fanOut := FanOut.init s.registry.nodeMap.size }
  have h₁ : step s (.run c) = .ok s₁ [] := by simp [step, runCall, hpc, hw, s₁]
  obtain ⟨s', h', hc', -, -⟩ := exec_cancelScan (c := c) s.registry.nodeMap.entries [] s₁
    (by simp [s₁]) (by simp [s₁]) (by simp [s₁, FanOut.init, dispatched, StdMap.size])
  have hd : exec s (List.replicate (s.registry.nodeMap.size + 2) (.run c)) =
      .ok s' ((cancelTargets s.registry.nodeMap.entries).enum.map fun e =>
        .issued c .cancelTraffic e.1 e.2.node) := by
    rw [StdMap.size, List.replicate_succ, exec_cons_ok h₁ h']
    rfl
  refine fanOutRun_of_dispatched codes responses hd (by simp [hc', Pc.draining])
    (by simpa [StdMap.size] using cancelTargets_length_le _) (by simp [hc', StdMap.size])
    horder fun s₂ hc₂ h0 _ => ?_
  exact runCall_cancelDrain (by simp [hc₂, hc']) h0

end Phases

/-! ## Phase order within `DoRunTest` -/

/-- Where `IntroducePeers` or `RunTraffic` begins, the fan-out of the phase before it has
taken every completion and none of them failed. -/
def PhaseGate (cl : Call) : Prop :=
  ∀ i, (cl.pc = .introducePeers i ∨ cl.pc = .runTraffic i) →
    cl.fanOut.outstanding = [] ∧ cl.fanOut.status = .OK

section Gate

variable {s s' : Sys} {c : Nat} {events : List Event}

/-- A completion leaves the call in its drain loop. -/
theorem completeCall_pc {tag : Nat} {code : StatusCode} {response : ProtoMap String}
    (h : completeCall s c tag code response = .ok s' events) :
    (s'.calls c).pc = (s.calls c).pc ∧ (s.calls c).pc.draining ≠ none := by
  simp only [completeCall] at h
  split at h
  · cases h
  split_ifs at h
  cases hpc : (s.calls c).pc <;> simp only [hpc, reduceCtorEq] at h <;> cases h <;>
    simp [hpc, Pc.draining]

/-- A call enters `IntroducePeers` or `RunTraffic` only from the drain loop before it, once
`rpc_count` is zero and the status OK. -/
theorem runCall_phaseGate (hi : CallInv s.registry.nodeMap (s.calls c))
    (h : runCall s c = .ok s' events) : PhaseGate (s'.calls c) := by
  intro j hj
  simp only [runCall] at h
  cases hpc : (s.calls c).pc <;> simp only [hpc] at h
  case configureDrain i =>
    split_ifs at h with h0
    split at h <;> cases h
    · simp [Sys.finishSequence] at hj
    · rename_i m hm
      have hst : (s.calls c).fanOut.status = .OK := by
        by_contra hne; simp [configureResult, hne] at hm
      simpa [hst] using hi.drained h0
  case introduceDrain i =>
    split_ifs at h with h0 hst <;> cases h
    · simpa [hst] using hi.drained h0
    · simp [Sys.finishSequence] at hj
  all_goals
    repeat' split at h
    all_goals first
      | cases h; simp_all [Sys.finishSequence, Sys.preempt, Sys.setIdle]
      | simp at h

theorem step_phaseGate {a : Action} (hi : SysInv s) (hg : ∀ c, PhaseGate (s.calls c))
    (h : step s a = .ok s' events) (c : Nat) : PhaseGate (s'.calls c) := by
  cases a with
  | registerNode request stubOk =>
    simp only [step] at h
    split_ifs at h
    cases h
    exact hg c
  | run d =>
    by_cases hd : c = d
    · subst hd; exact runCall_phaseGate (hi.calls c) h
    · rw [runCall_calls_ne h hd]; exact hg c
  | complete d tag code response =>
    by_cases hd : c = d
    · subst hd
      obtain ⟨hpc, hk⟩ := completeCall_pc h
      intro j hj
      rcases hj with hj | hj <;> rw [hpc] at hj <;> simp [hj, Pc.draining] at hk
    · rw [completeCall_calls_ne h hd]; exact hg c

theorem reachable_phaseGate {requests : Nat → List DistributedSystemDescription}
    (h : Reachable requests s) (c : Nat) : PhaseGate (s.calls c) := by
  induction h generalizing c with
  | init => intro j hj; simp [Sys.init, Call.init] at hj
  | step hr hs ih => exact step_phaseGate (reachable_inv hr) ih hs c

end Gate

end Distbench
