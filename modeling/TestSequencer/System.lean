import TestSequencer.FanOut

/-!
# The sequencer as a concurrent system

Any number of `RunTestSequence` calls, `RegisterNode` calls and RPC completions interleave.
The state holds the members of `TestSequencer` (`node_map_` and `node_id_map_` as a
`Registry`, `mutex_`, `running_test_sequence_context_`, `running_test_notification_`), the
`ServerContext` and `absl::Notification` of each call, and each call's locals with a program
counter `Pc`. A call is identified by a number, and so are its context and its notification.

A step is what one thread does between two points where another thread can observe it:

* A critical section that does not wait is one step that needs `mutex_` free: lines 72-78,
  82-88 (or 82-78 when the loop goes round again), 91-93, 144-148, 166-173 with the
  placement after it, and the whole of `RegisterNode` past its validation.
* `ConfigureNodes` and `IntroducePeers` hold `mutex_` exclusively from their dispatch loop
  to the end of their drain loop: the dispatch loop is one step (`dispatchAll`), each
  completion is one step, and leaving the drain loop (which unlocks) is one step.
* `CancelTraffic` and `RunTraffic` hold `mutex_` shared, so they run beside each other and
  each iteration of their dispatch loops is a step. An iteration of `RunTraffic` is two:
  marking the node busy (lines 379-382) and issuing the RPC into the next slot (lines 377-378,
  383-385), since a concurrent `CancelTraffic` can read `idle` between them.
* A completion is `cq.Next` handing an issued tag back with `ok == true`; the environment
  chooses the tag, the status and the response. A `Next` with `ok == false` changes nothing.

`mutex_` is modelled by its exclusive holder and its shared holders; only the calls that hold
it across steps appear there.

The log records what the properties speak about: taking `mutex_` at line 72, `TryCancel`,
installing and clearing the handle, marking a node busy, and every RPC issued and completed.
-/

set_option autoImplicit false

namespace Distbench

/-- The RPCs the sequencer issues to node managers. -/
inductive Rpc where
  | configureNode
  | introducePeers
  | runTraffic
  | cancelTraffic
  deriving DecidableEq, Repr

/-- An entry of the log. -/
inductive Event where
  /-- Call `c` took `mutex_` at line 72. -/
  | entered (c : Nat)
  /-- Call `c` ran `TryCancel` on the context of call `target` (line 75). -/
  | tryCancel (c target : Nat)
  /-- Call `c` installed its context (line 85). -/
  | installed (c : Nat)
  /-- Call `c` cleared the handle (line 92). -/
  | cleared (c : Nat)
  /-- Call `c`'s `RunTraffic` set `idle = false` on the node (line 382). -/
  | markedBusy (c : Nat) (node : String)
  /-- Call `c` issued an RPC with this tag to the node. -/
  | issued (c : Nat) (rpc : Rpc) (tag : Nat) (node : String)
  /-- Call `c` took the tag's completion from `cq`; the RPC ended with this status code. -/
  | completed (c : Nat) (rpc : Rpc) (tag : Nat) (node : String) (code : StatusCode)
  deriving DecidableEq, Repr

/-- Where a `RunTestSequence` call is. `i` indexes `request->tests()`, `k` the entries of
`node_map_`, `j` those of `node_service_map`. -/
inductive Pc where
  /-- Line 71: `CancelTraffic()` is about to take `mutex_` shared (line 99). -/
  | start
  /-- `CancelTraffic`'s dispatch loop at entry `k` of `node_map_` (lines 111-123). -/
  | cancelScan (k : Nat)
  /-- `CancelTraffic`'s drain loop (lines 124-136). -/
  | cancelDrain
  /-- Line 72. -/
  | lockEntry
  /-- Lines 79-81, `prior_notification` captured. -/
  | waitPrior
  /-- Line 82. -/
  | relock
  /-- Lines 142-148, before test `i`. -/
  | checkCancelled (i : Nat)
  /-- `DoRunTest` of test `i`, lines 163-233. -/
  | runTest (i : Nat)
  /-- `ConfigureNodes`: taking `mutex_` and the dispatch loop (lines 268-293). -/
  | configureNodes (i : Nat)
  /-- `ConfigureNodes`' drain loop (lines 294-312). -/
  | configureDrain (i : Nat)
  /-- `IntroducePeers`: taking `mutex_` and the dispatch loop (lines 320-340). -/
  | introducePeers (i : Nat)
  /-- `IntroducePeers`' drain loop (lines 341-357). -/
  | introduceDrain (i : Nat)
  /-- `RunTraffic`: about to take `mutex_` shared (line 362). -/
  | runTraffic (i : Nat)
  /-- `RunTraffic`'s dispatch loop at entry `j` of `node_service_map`: lines 379-382. -/
  | markBusy (i j : Nat)
  /-- The same iteration, the node marked busy: lines 377-378 and 383-385. -/
  | issueRunTraffic (i j : Nat) (node : String)
  /-- `RunTraffic`'s drain loop (lines 387-405). -/
  | runTrafficDrain (i : Nat)
  /-- Line 90. -/
  | notify
  /-- Lines 91-93. -/
  | clear
  /-- Returned. -/
  | done
  deriving DecidableEq, Repr

/-- A `RunTestSequence` call: its request, where it is, and its locals. -/
structure Call where
  /-- `request->tests()`. -/
  request : List DistributedSystemDescription
  pc : Pc
  /-- `prior_notification`: the call whose notification it points to. -/
  priorNotification : Option Nat
  /-- The loop variable `test` of `DoRunTestSequence`. -/
  test : DistributedSystemDescription
  /-- The locals of the fan-out the call is in, or was in last. -/
  fanOut : FanOut
  /-- `node_service_map` of `DoRunTest`. -/
  nodeServiceMap : StdMap StdSet
  /-- `ret` of `ConfigureNodes`, then `service_map` of `DoRunTest`. -/
  serviceMap : ServiceEndpointMap
  /-- `ret` of `RunTraffic`. -/
  logs : ServiceLogs
  /-- `response->test_results()`. -/
  testResults : List TestResult
  /-- The status `DoRunTestSequence` returned. -/
  result : Option Status

/-- A call that has not started. -/
def Call.init (request : List DistributedSystemDescription) : Call :=
  ⟨request, .start, none, ⟨[], ProtoMap.empty⟩, FanOut.init 0, StdMap.empty, ProtoMap.empty,
    ProtoMap.empty, [], none⟩

/-- The state of the sequencer and of the calls it serves. -/
structure Sys where
  registry : Registry
  /-- The call holding `mutex_` exclusively across steps. -/
  writer : Option Nat
  /-- The calls holding `mutex_` shared. -/
  readers : List Nat
  /-- `running_test_sequence_context_`: the call whose `ServerContext` it points to. -/
  runningContext : Option Nat
  /-- `running_test_notification_`: the call that made it. -/
  runningNotification : Option Nat
  /-- Whether a call's notification has been notified. -/
  notified : Nat → Bool
  /-- Whether `TryCancel` has been run on a call's `ServerContext`. -/
  cancelled : Nat → Bool
  calls : Nat → Call

/-- A fresh sequencer; call `c` will carry `requests c`. -/
def Sys.init (requests : Nat → List DistributedSystemDescription) : Sys :=
  ⟨Registry.empty, none, [], none, none, fun _ => false, fun _ => false,
    fun c => Call.init (requests c)⟩

/-- What a step does. -/
inductive Outcome where
  | ok (s : Sys) (events : List Event)
  /-- The step cannot be taken now (a lock or a wait). -/
  | blocked
  /-- The process aborts. -/
  | panic (fault : Fault)

/-- A step of the system. -/
inductive Action where
  /-- A whole `RegisterNode` call; `stubOk` says whether `NewStub` returned a stub. -/
  | registerNode (request : NodeRegistration) (stubOk : Bool)
  /-- The next step of call `c` that takes no input. -/
  | run (c : Nat)
  /-- `cq.Next` of call `c` returns `tag`, the RPC having ended with `code` and `response`. -/
  | complete (c tag : Nat) (code : StatusCode) (response : ProtoMap String)

namespace Sys

/-- Neither exclusive nor shared holders. -/
def lockFree (s : Sys) : Bool := s.writer.isNone && s.readers.isEmpty

/-- Change the locals of call `c`. -/
def update (s : Sys) (c : Nat) (f : Call → Call) : Sys :=
  { s with calls := Function.update s.calls c (f (s.calls c)) }

/-- `node->idle = idle` through a pointer into `node_map_`. -/
def setIdle (s : Sys) (node : String) (idle : Bool) : Sys :=
  { s with registry := { s.registry with
      nodeMap := s.registry.nodeMap.adjust node fun n => { n with idle := idle } } }

/-- `DoRunTestSequence` returns `status`; line 90 is next. -/
def finishSequence (s : Sys) (c : Nat) (status : Status) : Sys :=
  s.update c fun cl => { cl with pc := .notify, result := some status }

/-- Line 75: `TryCancel` on the running context, if there is one. -/
def tryCancelRunning (s : Sys) : Sys :=
  match s.runningContext with
  | some d => { s with cancelled := Function.update s.cancelled d true }
  | none => s

/-- Lines 74-78: `TryCancel` on the running context, capture the running notification,
unlock. -/
def preempt (s : Sys) (c : Nat) : Sys :=
  s.tryCancelRunning.update c fun cl =>
    { cl with pc := .waitPrior, priorNotification := s.runningNotification }

/-- The log of `preempt`. -/
def preemptEvents (s : Sys) (c : Nat) : List Event :=
  match s.runningContext with
  | some d => [.tryCancel c d]
  | none => []

end Sys

/-- The log of a dispatch loop over `node_service_map`. -/
def issuedEvents (c : Nat) (rpc : Rpc) (nsm : StdMap StdSet) : List Event :=
  nsm.keys.enum.map fun e => .issued c rpc e.1 e.2

/-- The next step of call `c` that takes no input. -/
def runCall (s : Sys) (c : Nat) : Outcome :=
  let cl := s.calls c
  match cl.pc with
  | .start =>
    if s.writer.isNone then
      .ok (Sys.update { s with readers := c :: s.readers } c fun cl =>
        { cl with pc := .cancelScan 0, fanOut := FanOut.init s.registry.nodeMap.size }) []
    else .blocked
  | .cancelScan k =>
    match s.registry.nodeMap.entries[k]? with
    | none => .ok (s.update c fun cl => { cl with pc := .cancelDrain }) []
    | some (node, n) =>
      if n.idle then .ok (s.update c fun cl => { cl with pc := .cancelScan (k + 1) }) []
      else
        match cl.fanOut.issue ⟨node, n.stub, [], ProtoMap.empty⟩ with
        | .error f => .panic f
        | .ok f => .ok (s.update c fun cl => { cl with pc := .cancelScan (k + 1), fanOut := f })
            [.issued c .cancelTraffic cl.fanOut.rpcCount node]
  | .cancelDrain =>
    if cl.fanOut.rpcCount = 0 then
      .ok (Sys.update { s with readers := s.readers.erase c } c fun cl =>
        { cl with pc := .lockEntry }) []
    else .blocked
  | .lockEntry =>
    if s.lockFree then .ok (s.preempt c) (.entered c :: s.preemptEvents c) else .blocked
  | .waitPrior =>
    if cl.priorNotification.all s.notified then
      .ok (s.update c fun cl => { cl with pc := .relock }) []
    else .blocked
  | .relock =>
    if s.lockFree then
      match s.runningContext with
      | some _ => .ok (s.preempt c) (s.preemptEvents c)
      | none =>
        .ok (Sys.update { s with runningContext := some c, runningNotification := some c } c
          fun cl => { cl with pc := .checkCancelled 0 }) [.installed c]
    else .blocked
  | .checkCancelled i =>
    match cl.request[i]? with
    | none => .ok (s.finishSequence c Status.ok) []
    | some test =>
      if s.lockFree then
        match s.runningContext with
        | none => .panic .nullContext
        | some d =>
          if s.cancelled d then
            .ok (s.finishSequence c ⟨.ABORTED, "Cancelled by new test sequence."⟩) []
          else .ok (s.update c fun cl => { cl with pc := .runTest i, test := test }) []
      else .blocked
  | .runTest i =>
    if cl.test.services ≠ [] ∧ s.lockFree = false then .blocked
    else
      match placeServices cl.test s.registry.nodeMap.keys with
      | .error e => .ok (s.finishSequence c ⟨.ABORTED, e.message⟩) []
      | .ok nsm =>
        .ok (s.update c fun cl => { cl with pc := .configureNodes i, nodeServiceMap := nsm }) []
  | .configureNodes i =>
    if s.lockFree then
      match dispatchAll s.registry.nodeMap cl.nodeServiceMap StdSet.toList ProtoMap.empty with
      | .error f => .panic f
      | .ok f =>
        .ok (Sys.update { s with writer := some c } c fun cl =>
          { cl with pc := .configureDrain i, fanOut := f, serviceMap := ProtoMap.empty })
          (issuedEvents c .configureNode cl.nodeServiceMap)
    else .blocked
  | .configureDrain i =>
    if cl.fanOut.rpcCount = 0 then
      match configureResult (cl.fanOut, cl.serviceMap) with
      | .error e => .ok (Sys.finishSequence { s with writer := none } c ⟨.ABORTED, e.message⟩) []
      | .ok m =>
        .ok (Sys.update { s with writer := none } c fun cl =>
          { cl with pc := .introducePeers i, serviceMap := m }) []
    else .blocked
  | .introducePeers i =>
    if s.lockFree then
      match dispatchAll s.registry.nodeMap cl.nodeServiceMap (fun _ => []) cl.serviceMap with
      | .error f => .panic f
      | .ok f =>
        .ok (Sys.update { s with writer := some c } c fun cl =>
          { cl with pc := .introduceDrain i, fanOut := f })
          (issuedEvents c .introducePeers cl.nodeServiceMap)
    else .blocked
  | .introduceDrain i =>
    if cl.fanOut.rpcCount = 0 then
      if cl.fanOut.status = .OK then
        .ok (Sys.update { s with writer := none } c fun cl => { cl with pc := .runTraffic i }) []
      else
        .ok (Sys.finishSequence { s with writer := none } c
          ⟨.ABORTED, "Unknown GRPC error"⟩) []
    else .blocked
  | .runTraffic i =>
    if s.writer.isNone then
      .ok (Sys.update { s with readers := c :: s.readers } c fun cl =>
        { cl with pc := .markBusy i 0, fanOut := FanOut.init cl.nodeServiceMap.size,
                  logs := ProtoMap.empty }) []
    else .blocked
  | .markBusy i j =>
    match cl.nodeServiceMap.keys[j]? with
    | none => .ok (s.update c fun cl => { cl with pc := .runTrafficDrain i }) []
    | some node =>
      match s.registry.nodeMap.find? node with
      | none => .panic .nodeNotFound
      | some _ =>
        .ok ((s.setIdle node false).update c fun cl => { cl with pc := .issueRunTraffic i j node })
          [.markedBusy c node]
  | .issueRunTraffic i j node =>
    match cl.fanOut.issue ⟨node, stubOf s.registry.nodeMap node, [], ProtoMap.empty⟩ with
    | .error f => .panic f
    | .ok f => .ok (s.update c fun cl => { cl with pc := .markBusy i (j + 1), fanOut := f })
        [.issued c .runTraffic cl.fanOut.rpcCount node]
  | .runTrafficDrain i =>
    if cl.fanOut.rpcCount = 0 then
      if cl.fanOut.status = .OK then
        .ok (Sys.update { s with readers := s.readers.erase c } c fun cl =>
          { cl with pc := .checkCancelled (i + 1),
                    testResults := cl.testResults ++ [⟨cl.test, cl.serviceMap, cl.logs⟩] }) []
      else
        .ok (Sys.finishSequence { s with readers := s.readers.erase c } c
          ⟨.ABORTED, "Unknown GRPC error2"⟩) []
    else .blocked
  | .notify =>
    .ok (Sys.update { s with notified := Function.update s.notified c true } c fun cl =>
      { cl with pc := .clear }) []
  | .clear =>
    if s.lockFree then
      .ok (Sys.update { s with runningContext := none } c fun cl => { cl with pc := .done })
        [.cleared c]
    else .blocked
  | .done => .blocked

/-- Lines 127-135, 299-306, 346-352 and 390-399: the drain loop of the call's fan-out takes
`tag` from `cq`. -/
def completeCall (s : Sys) (c tag : Nat) (code : StatusCode) (response : ProtoMap String) :
    Outcome :=
  let cl := s.calls c
  match cl.fanOut.slot tag with
  | none => .blocked
  | some rpc =>
    if tag ∈ cl.fanOut.outstanding then
      let logged := fun (kind : Rpc) (s' : Sys) =>
        Outcome.ok s' [.completed c kind tag rpc.node code]
      match cl.pc with
      | .cancelDrain =>
        logged .cancelTraffic ((s.setIdle rpc.node true).update c fun cl =>
          { cl with fanOut := cl.fanOut.finish tag code })
      | .configureDrain _ =>
        logged .configureNode (s.update c fun cl =>
          let st := configureComplete (cl.fanOut, cl.serviceMap) tag code response
          { cl with fanOut := st.1, serviceMap := st.2 })
      | .introduceDrain _ =>
        logged .introducePeers
          (s.update c fun cl => { cl with fanOut := cl.fanOut.finish tag code })
      | .runTrafficDrain _ =>
        logged .runTraffic ((s.setIdle rpc.node true).update c fun cl =>
          { cl with fanOut := cl.fanOut.finish tag code, logs := cl.logs.mergeFrom response })
      | _ => .blocked
    else .blocked

/-- One step of the system. `RegisterNode` validates before it takes `mutex_` (lines 29-34). -/
def step (s : Sys) : Action → Outcome
  | .registerNode request stubOk =>
    if (request.hostname = "" ∨ request.controlPort ≤ 0) ∨ s.lockFree then
      .ok { s with registry := (registerNode s.registry request stubOk).2 } []
    else .blocked
  | .run c => runCall s c
  | .complete c tag code response => completeCall s c tag code response

/-- A schedule of steps from `s`: the final state and the log, or the first step that blocks
or aborts. -/
def exec (s : Sys) : List Action → Outcome
  | [] => .ok s []
  | a :: as =>
    match step s a with
    | .ok s' events =>
      match exec s' as with
      | .ok s'' events' => .ok s'' (events ++ events')
      | o => o
    | o => o

/-- The states reachable from a fresh sequencer. -/
inductive Reachable (requests : Nat → List DistributedSystemDescription) : Sys → Prop where
  | init : Reachable requests (Sys.init requests)
  | step {s s' : Sys} {a : Action} {events : List Event} :
      Reachable requests s → step s a = .ok s' events → Reachable requests s'

/-! ## Frame lemmas -/

namespace Sys

variable (s : Sys) (c : Nat) (f : Call → Call)

@[simp] theorem update_calls_self : (s.update c f).calls c = f (s.calls c) := by
  simp [update]

@[simp] theorem update_calls_ne {d : Nat} (h : d ≠ c) : (s.update c f).calls d = s.calls d := by
  simp [update, h]

@[simp] theorem update_registry : (s.update c f).registry = s.registry := rfl
@[simp] theorem update_runningContext : (s.update c f).runningContext = s.runningContext := rfl
@[simp] theorem update_runningNotification :
    (s.update c f).runningNotification = s.runningNotification := rfl
@[simp] theorem update_notified : (s.update c f).notified = s.notified := rfl
@[simp] theorem update_cancelled : (s.update c f).cancelled = s.cancelled := rfl

@[simp] theorem tryCancelRunning_calls : s.tryCancelRunning.calls = s.calls := by
  unfold tryCancelRunning; split <;> rfl
@[simp] theorem tryCancelRunning_registry : s.tryCancelRunning.registry = s.registry := by
  unfold tryCancelRunning; split <;> rfl
@[simp] theorem tryCancelRunning_runningContext :
    s.tryCancelRunning.runningContext = s.runningContext := by
  unfold tryCancelRunning; split <;> rfl
@[simp] theorem tryCancelRunning_runningNotification :
    s.tryCancelRunning.runningNotification = s.runningNotification := by
  unfold tryCancelRunning; split <;> rfl
@[simp] theorem tryCancelRunning_notified : s.tryCancelRunning.notified = s.notified := by
  unfold tryCancelRunning; split <;> rfl

@[simp] theorem setIdle_calls (node : String) (b : Bool) : (s.setIdle node b).calls = s.calls :=
  rfl

@[simp] theorem setIdle_keys (node : String) (b : Bool) :
    (s.setIdle node b).registry.nodeMap.keys = s.registry.nodeMap.keys :=
  StdMap.keys_adjust _ _ _

end Sys

/-- A step of call `d` changes no other call's locals. -/
theorem runCall_calls_ne {s s' : Sys} {c d : Nat} {events : List Event}
    (h : runCall s d = .ok s' events) (hne : c ≠ d) : s'.calls c = s.calls c := by
  simp only [runCall] at h
  repeat' split at h
  all_goals first
    | (cases h; done)
    | (cases h; simp [hne, Sys.finishSequence, Sys.preempt])

/-- A completion taken by call `d` changes no other call's locals. -/
theorem completeCall_calls_ne {s s' : Sys} {c d tag : Nat} {code : StatusCode}
    {response : ProtoMap String} {events : List Event}
    (h : completeCall s d tag code response = .ok s' events) (hne : c ≠ d) :
    s'.calls c = s.calls c := by
  simp only [completeCall] at h
  repeat' split at h
  all_goals first
    | (cases h; done)
    | (cases h; simp [hne])

theorem exec_cons {s s' : Sys} {a : Action} {as : List Action} {events : List Event}
    (h : step s a = .ok s' events) :
    exec s (a :: as) = match exec s' as with
      | .ok s'' events' => .ok s'' (events ++ events')
      | o => o := by
  simp only [exec, h]

/-- Two schedules run one after the other. -/
theorem exec_append {s₂ : Sys} {bs : List Action} {e₂ : List Event} :
    ∀ {s s₁ : Sys} {as : List Action} {e₁ : List Event},
      exec s as = .ok s₁ e₁ → exec s₁ bs = .ok s₂ e₂ → exec s (as ++ bs) = .ok s₂ (e₁ ++ e₂)
  | s, s₁, [], e₁, h₁, h₂ => by
    simp only [exec, Outcome.ok.injEq] at h₁
    obtain ⟨rfl, rfl⟩ := h₁
    simpa using h₂
  | s, s₁, a :: as, e₁, h₁, h₂ => by
    cases hs : step s a with
    | ok s' ev =>
      rw [exec_cons hs] at h₁
      cases hr : exec s' as with
      | ok s'' ev' =>
        rw [hr] at h₁
        cases h₁
        rw [List.cons_append, exec_cons hs, exec_append hr h₂, List.append_assoc]
      | blocked => rw [hr] at h₁; cases h₁
      | panic f => rw [hr] at h₁; cases h₁
    | blocked => simp [exec, hs] at h₁
    | panic f => simp [exec, hs] at h₁

theorem reachable_of_exec {requests : Nat → List DistributedSystemDescription} :
    ∀ {s s' : Sys} {as : List Action} {events : List Event},
      Reachable requests s → exec s as = .ok s' events → Reachable requests s'
  | s, s', [], _, h, he => by simp only [exec, Outcome.ok.injEq] at he; exact he.1 ▸ h
  | s, s', a :: as, _, h, he => by
    simp only [exec] at he
    split at he
    · rename_i s₁ ev hs
      split at he
      · cases he; exact reachable_of_exec (h.step hs) ‹_›
      · simp_all
    · simp_all

end Distbench
