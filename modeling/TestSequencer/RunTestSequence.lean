import TestSequencer.Refinement
import TestSequencer.Safety

/-!
# `RunTestSequence` run alone

`runTestSequence` reads `TestSequencer::RunTestSequence` as one function of the world outside
the sequencer (`SeqEnv`), for a call that finds no other call in the sequencer:

* `cancelTraffic` — lines 97-137: a `CancelTraffic` RPC to every busy node of `node_map_`, each
  node idle again as `cq` returns its tag, whatever the RPC ended with.
* `doRunTestSequence` — lines 138-158: `DoRunTest` on each test in turn, `IsCancelled()` read
  before each; the first failure returns `ABORTED` with its message.
* `runTestSequence` — lines 66-95 with no sequence running: `CancelTraffic`, then the call
  installs itself at once and runs `DoRunTestSequence`, which nothing cancels.

Results:

* `reachable_cancelled_started` — over every interleaving, `TryCancel` only ever reaches the
  context of a call that has installed itself (line 88).
* `cancel_phase`, `exec_install`, `tests_run` — `CancelTraffic`, lines 72-88, and the loop over
  the tests, each run alone, end where the functions say.
* `runTestSequence_refinement` — from every reachable state where a call has not started and
  every other call has not started or has returned, the call run alone under any `SeqEnv`, each
  node answering the request the call sent it, runs `RunTestSequence` to its end as
  `runTestSequence` says. The client side cancelling the call's own `ServerContext` is not
  modelled: `IsCancelled()` is true only after a newer call's `TryCancel`.
-/

set_option autoImplicit false

namespace Distbench

/-! ## The functions -/

/-- One iteration of the dispatch loop of `CancelTraffic` (lines 111-123): an idle node is
skipped, a busy one gets an RPC on its stub into the next slot. -/
def cancelDispatchOne (f : FanOut) (entry : String × Node) : Except Fault FanOut :=
  if entry.2.idle then .ok f else f.issue ⟨entry.1, entry.2.stub, [], ProtoMap.empty⟩

/-- `TestSequencer::CancelTraffic`, with `node_map_` as it leaves it: `order n` is the order in
which `cq` returns the tags of `n` RPCs, and each node is idle again as its tag comes back,
whatever its RPC ended with (lines 124-136). -/
def cancelTraffic (nodeMap : StdMap Node) (order : Nat → List Nat) :
    Except Fault (StdMap Node) := do
  let f ← nodeMap.entries.foldlM cancelDispatchOne (FanOut.init nodeMap.size)
  return (order f.rpcCount).foldl (fun m t => idleAgain m (f.slot t)) nodeMap

/-- `TestSequencer::DoRunTestSequence` from test `i` on, `response` holding the results so far:
`envs i` is the world during test `i`, `isCancelled i` what `IsCancelled()` returns before it.
Returns `node_map_` as it leaves it, the status and `response`. -/
def doRunTestSequence (envs : Nat → Env) (isCancelled : Nat → Bool) :
    Nat → List DistributedSystemDescription → List TestResult → StdMap Node →
      Except Fault (StdMap Node × Status × List TestResult)
  | _, [], response, nodeMap => .ok (nodeMap, Status.ok, response)
  | i, test :: tests, response, nodeMap =>
    if isCancelled i then .ok (nodeMap, ⟨.ABORTED, "Cancelled by new test sequence."⟩, response)
    else do
      match ← doRunTest nodeMap test (envs i) with
      | (nodeMap, .ok result) =>
        doRunTestSequence envs isCancelled (i + 1) tests (response ++ [result]) nodeMap
      | (nodeMap, .error e) => return (nodeMap, ⟨.ABORTED, e.message⟩, response)

/-- The world outside the sequencer during one `RunTestSequence`: the order in which `cq`
returns the tags of `n` `CancelTraffic` RPCs, a permutation of them; what a node's
`CancelTraffic` RPC ends with, given its stub; and the world during each test. -/
structure SeqEnv where
  cancelOrder : Nat → List Nat
  cancel : Option Stub → StatusCode
  tests : Nat → Env
  cancelOrder_perm : ∀ n, (cancelOrder n).Perm (List.range n)

/-- `cq` returns the tags of `CancelTraffic` in the order they were issued, each such RPC ends
OK, and every test runs under `Env.allOk`. -/
def SeqEnv.allOk : SeqEnv :=
  ⟨List.range, fun _ => .OK, fun _ => Env.allOk, fun _ => List.Perm.refl _⟩

/-- `TestSequencer::RunTestSequence` for a call that finds no other call in the sequencer:
`CancelTraffic`; then there is no context to cancel and no notification to wait for, so the
call installs itself and runs `DoRunTestSequence`, which nothing cancels. -/
def runTestSequence (nodeMap : StdMap Node) (request : List DistributedSystemDescription)
    (env : SeqEnv) : Except Fault (StdMap Node × Status × List TestResult) := do
  let nodeMap ← cancelTraffic nodeMap env.cancelOrder
  doRunTestSequence env.tests (fun _ => false) 0 request [] nodeMap

/-! ## `CancelTraffic` as a fold -/

/-- **The dispatch loop of `cancelTraffic`** from entry `pre.length` of `node_map_` on: each
busy node's RPC goes into the next slot. -/
theorem foldlM_cancelDispatchOne (size : Nat) :
    ∀ (rest pre : List (String × Node)), pre.length + rest.length ≤ size →
      rest.foldlM cancelDispatchOne (dispatched (cancelTargets pre) size) =
        .ok (dispatched (cancelTargets (pre ++ rest)) size)
  | [], pre, _ => by simp [pure, Except.pure]
  | e :: rest, pre, hsize => by
    have hone : cancelDispatchOne (dispatched (cancelTargets pre) size) e =
        .ok (dispatched (cancelTargets (pre ++ [e])) size) := by
      rw [cancelTargets_append]
      cases hidle : e.2.idle
      · have hlen := cancelTargets_length_le pre
        have hct : cancelTargets [e] = [⟨e.1, e.2.stub, [], ProtoMap.empty⟩] := by simp [cancelTargets, hidle]
        rw [cancelDispatchOne, if_neg (by simp [hidle]), hct]
        exact dispatched_issue _ (by simp only [List.length_cons] at hsize; omega)
      · simp [cancelDispatchOne, cancelTargets, hidle]
    rw [List.foldlM_cons, hone]
    simpa [bind, Except.bind] using foldlM_cancelDispatchOne size rest (pre ++ [e])
      (by simp only [List.length_append, List.length_cons, List.length_nil] at hsize ⊢; omega)

/-- **`cancelTraffic`**: each busy node of `node_map_` gets one RPC, in map order, and is idle
again when `cq` returns its tag. -/
theorem cancelTraffic_eq (nodeMap : StdMap Node) (order : Nat → List Nat) :
    cancelTraffic nodeMap order = .ok ((order (cancelTargets nodeMap.entries).length).foldl
      (fun m t => idleAgain m (cancelTargets nodeMap.entries)[t]?) nodeMap) := by
  have hd := foldlM_cancelDispatchOne nodeMap.size nodeMap.entries [] (by simp [StdMap.size])
  rw [List.nil_append] at hd
  simp only [cancelTraffic, show FanOut.init nodeMap.size =
    dispatched (cancelTargets []) nodeMap.size from rfl, hd, bind, Except.bind, pure, Except.pure,
    dispatched_rpcCount, dispatched_slot]

/-! ## `TryCancel` reaches only installed calls -/

/-- Past line 88: installed, or returned. -/
def Phase.Started (p : Phase) : Prop := Interlock.Installed p ∨ p = .finished

/-- No protocol step takes a call back before line 88. -/
theorem Interlock.Step.started {l l' : Interlock} (h : Interlock.Step l l') {d : Nat}
    (hd : (l.phase d).Started) : (l'.phase d).Started := by
  cases h with
  | arrive c hc | lock c hc | wake c hc _ | retry c hc _ | install c hc _ | notify c hc
  | clear c hc =>
    by_cases hdc : d = c
    · subst hdc
      simp_all [Phase.Started, Interlock.Installed, Interlock.setPhase, Interlock.preempt]
    · simpa [Interlock.setPhase, Interlock.preempt, hdc] using hd

theorem Sys.tryCancelRunning_cancelled (s : Sys) {d : Nat}
    (hd : s.tryCancelRunning.cancelled d = true) :
    s.cancelled d = true ∨ s.runningContext = some d := by
  unfold Sys.tryCancelRunning at hd
  split at hd
  · rename_i e he
    by_cases hde : d = e
    · exact .inr (hde ▸ he)
    · exact .inl (by simpa [hde] using hd)
  · exact .inl hd

/-- A step sets a token only on the running context (line 75). -/
theorem step_cancelled {s s' : Sys} {a : Action} {events : List Event}
    (h : step s a = .ok s' events) {d : Nat} (hd : s'.cancelled d = true) :
    s.cancelled d = true ∨ s.runningContext = some d := by
  cases a with
  | registerNode request stubOk =>
    simp only [step] at h
    split_ifs at h
    cases h
    exact .inl hd
  | complete c tag code response => exact .inl ((completeCall_shared h).cancelled ▸ hd)
  | run c =>
    simp only [step, runCall] at h
    repeat' split at h
    all_goals first
      | (cases h; done)
      | (cases h; exact .inl hd)
      | (cases h; exact Sys.tryCancelRunning_cancelled s hd)

/-- **`TryCancel` reaches only installed calls**, over every interleaving: a call whose context
has been cancelled has installed itself (line 88), and may since have returned. -/
theorem reachable_cancelled_started {requests : Nat → List DistributedSystemDescription}
    {s : Sys} (h : Reachable requests s) (d : Nat) (hd : s.cancelled d = true) :
    ((s.calls d).pc.phase).Started := by
  induction h with
  | init => simp [Sys.init] at hd
  | @step s s' _ _ hr hs ih =>
    have hmono : ((s.calls d).pc.phase).Started → ((s'.calls d).pc.phase).Started :=
      fun hst => (Sys.interlock_step hs).elim (fun hstep => hstep.started hst)
        fun heq => by
          rw [show (s'.calls d).pc.phase = s'.interlock.phase d from rfl, heq]
          exact hst
    rcases step_cancelled hs hd with hc | hctx
    · exact hmono (ih hc)
    · exact hmono (.inl (((Interlock.inv_reachable (Sys.interlock_reachable hr)).context_iff d).mp
        hctx))

/-! ## The system runs the function -/

theorem SequenceMove.request {token : Bool} {keys : List String} {cl cl' : Call}
    (h : SequenceMove token keys cl cl') : cl'.request = cl.request := by
  cases h <;> assumption

/-- No step changes a call's request. -/
theorem exec_request {requests : Nat → List DistributedSystemDescription} {c : Nat} :
    ∀ {s s' : Sys} {as : List Action} {events : List Event}, Reachable requests s →
      exec s as = .ok s' events → (s'.calls c).request = (s.calls c).request
  | s, s', [], _, _, he => by
    simp only [exec, Outcome.ok.injEq] at he
    rw [he.1]
  | s, s', a :: as, _, h, he => by
    obtain ⟨s₁, _, _, h₁, h₂⟩ := exec_cons_inv he
    rw [exec_request (h.step h₁) h₂, (step_sequenceMove (checkCancelled_context h c) h₁).request]

/-- Call `c` running the tests from test `i` on alone, `envs i` being the world during test `i`
and `isCancelled i` its token at the check before it: for each test, the step of that check
and `DoRunTest`'s steps (`Env.testSchedule`), until a check finds the token set or a test
fails; after the last test, the step out of the loop. -/
def testsSchedule (c : Nat) (envs : Nat → Env) (isCancelled : Nat → Bool) :
    Nat → List DistributedSystemDescription → StdMap Node → List (Sys → Action)
  | _, [], _ => [fun _ => .run c]
  | i, test :: tests, nodeMap =>
    (fun _ => .run c) :: if isCancelled i then [] else
      (envs i).testSchedule nodeMap test c ++
        match doRunTest nodeMap test (envs i) with
        | .ok (nodeMap, .ok _) => testsSchedule c envs isCancelled (i + 1) tests nodeMap
        | _ => []

namespace SeqEnv

variable (env : SeqEnv) (nodeMap : StdMap Node)

/-- What a node's `CancelTraffic` RPC ends with, given the stub of its slot. -/
def cancelReply : Reply := fun _ rpc => (env.cancel rpc.stub, ProtoMap.empty)

/-- `CancelTraffic` run alone by call `c`: the step that takes `mutex_` shared, one step per
entry of `node_map_` and the step out of the dispatch loop, `cq` returning the tags in `env`'s
order with what each node's RPC ends with, and the step out of the drain loop. -/
def cancelSchedule (c : Nat) : List (Sys → Action) :=
  fanOutSchedule c (nodeMap.size + 2) env.cancelReply
    (env.cancelOrder (cancelTargets nodeMap.entries).length)

/-- Call `c` running `RunTestSequence` alone under `env`: `CancelTraffic`, the three steps of
lines 72-88, the tests, and the steps of line 90 and lines 91-93. -/
def schedule (request : List DistributedSystemDescription) (c : Nat) : List (Sys → Action) :=
  env.cancelSchedule nodeMap c ++ List.replicate 3 (fun _ : Sys => Action.run c) ++
    (match cancelTraffic nodeMap env.cancelOrder with
      | .ok nodeMap => testsSchedule c env.tests (fun _ => false) 0 request nodeMap
      | .error _ => []) ++
    [fun _ : Sys => Action.run c, fun _ : Sys => Action.run c]

end SeqEnv

section Alone

variable {requests : Nat → List DistributedSystemDescription} {s : Sys} {c : Nat}

/-- A call at the start whose every fellow has not started or has returned finds `mutex_` free,
no sequence running, every notification left behind notified, its own token clear and no result
recorded. -/
theorem alone_start (h : Reachable requests s) (hc : (s.calls c).pc = .start)
    (hidle : ∀ d ≠ c, (s.calls d).pc = .start ∨ (s.calls d).pc = .done) :
    s.lockFree = true ∧ s.runningContext = none ∧
      (∀ n, s.runningNotification = some n → s.notified n = true) ∧ s.cancelled c = false ∧
      (s.calls c).testResults = [] := by
  have hq : ∀ d, (s.calls d).pc = .start ∨ (s.calls d).pc = .done := fun d =>
    if hd : d = c then .inl (hd ▸ hc) else hidle d hd
  have hl := reachable_lockInv h
  have hi := Interlock.inv_reachable (Sys.interlock_reachable h)
  have hw : s.writer = none := Option.eq_none_iff_forall_not_mem.mpr fun w hw => by
    have := (hl.writer w).mp hw
    rcases hq w with hp | hp <;> simp [hp, Pc.hold] at this
  have hr : s.readers = [] := List.eq_nil_iff_forall_not_mem.mpr fun r hr => by
    have := (hl.readers r).mp hr
    rcases hq r with hp | hp <;> simp [hp, Pc.hold] at this
  have hctx : s.runningContext = none := Option.eq_none_iff_forall_not_mem.mpr fun d hd => by
    have := (hi.context_iff d).mp hd
    rcases hq d with hp | hp <;> simp [Sys.interlock, hp, Pc.phase, Interlock.Installed] at this
  refine ⟨by simp [Sys.lockFree, hw, hr], hctx, fun n hn => ?_, ?_,
    (reachable_sequenceInv h c).before (by rw [hc]; rfl)⟩
  · exact (hi.notification n hn).resolve_right (by simp [Sys.interlock, hctx])
  · cases hcan : s.cancelled c
    · rfl
    · have := reachable_cancelled_started h c hcan
      simp [hc, Pc.phase, Phase.Started, Interlock.Installed] at this

/-- **`CancelTraffic` run alone** from the start of `RunTestSequence` with no exclusive holder
of `mutex_`: the system ends where `cancelTraffic` says, `node_map_` included, with `mutex_`,
the running handle, the notifications and the tokens as they were. -/
theorem cancel_phase (hpc : (s.calls c).pc = .start) (hw : s.writer = none) (env : SeqEnv) :
    ∃ nodeMap' s' events, cancelTraffic s.registry.nodeMap env.cancelOrder = .ok nodeMap' ∧
      execDriven s (env.cancelSchedule s.registry.nodeMap c) = .ok s' events ∧
      s'.registry.nodeMap = nodeMap' ∧ Sys.Shared s s' ∧ (s'.calls c).pc = .lockEntry ∧
      (s'.calls c).testResults = (s.calls c).testResults := by
  set entries := s.registry.nodeMap.entries
  set targets := cancelTargets entries
  set order := env.cancelOrder targets.length
  set reply := env.cancelReply (s.calls c).test
  set codes := fun t => (slotReply targets reply t).1
  set responses := fun t => (slotReply targets reply t).2
  have hperm : order.Perm (List.range targets.length) := env.cancelOrder_perm _
  -- the dispatch loop
  set s₁ := Sys.update { s with readers := c :: s.readers } c fun cl =>
    { cl with pc := .cancelScan 0, fanOut := FanOut.init s.registry.nodeMap.size }
  have h₁ : step s (.run c) = .ok s₁ [] := by simp [step, runCall, hpc, hw, s₁]
  obtain ⟨s₂, h₂, hc₂, hr₂, hsh₂⟩ := exec_cancelScan (c := c) entries [] s₁ (by simp [s₁, entries])
    (by simp [s₁]) (by simp [s₁, FanOut.init, dispatched, StdMap.size, entries])
  have hd : exec s (List.replicate (s.registry.nodeMap.size + 2) (.run c)) = .ok s₂
      ((targets.enumFrom 0).map fun e => .issued c .cancelTraffic e.1 e.2.node) := by
    rw [show s.registry.nodeMap.size + 2 = entries.length + 1 + 1 by simp [StdMap.size, entries],
      List.replicate_succ]
    exact exec_cons_ok h₁ h₂
  -- the drain loop, which marks each node idle again
  have hf₂ : (s₂.calls c).fanOut = dispatched targets entries.length := by simp [hc₂, targets]
  obtain ⟨s₃, h₃, hc₃⟩ := @exec_drain c codes responses .cancelTraffic order s₂
    (by simp [hc₂, Pc.draining]) (hperm.nodup_iff.mpr (List.nodup_range _))
    (fun t ht => by rw [hf₂]; simpa [dispatched] using hperm.subset ht)
    (fun t ht => by
      rw [hf₂, dispatched_slot]
      exact ⟨_, List.getElem?_eq_getElem (List.mem_range.mp (hperm.subset ht))⟩)
  have hm₃ := exec_drain_nodeMap (c := c) codes responses (.inl rfl) order s₂ s₃ _
    (by simp [hc₂, Pc.draining]) h₃
  rw [hf₂, funext (dispatched_slot targets entries.length), hr₂] at hm₃
  have hsh₃ := hsh₂.trans (exec_completions_shared codes responses order s₂ s₃ _ h₃)
  -- the step out of the drain loop
  have hpc₃ : (s₃.calls c).pc = .cancelDrain := by simp [hc₃, hc₂]
  have h0 : (s₃.calls c).fanOut.rpcCount = 0 := by
    simp [hc₃, hf₂, foldl_finish_rpcCount, hperm.length_eq]
  have h₄ : step s₃ (.run c) = .ok (Sys.update { s₃ with readers := s₃.readers.erase c } c
      fun cl => { cl with pc := .lockEntry }) [] := by
    simp only [step, runCall, hpc₃, h0, ↓reduceIte]
  refine ⟨_, _, _, cancelTraffic_eq _ _,
    execDriven_fanOutSchedule hd hf₂ (by simp [hc₂, s₁]) h₃ h₄, ?_, hsh₃.reader _, by simp,
    by simp [hc₃, hc₂, s₁, Call.drain_eq]⟩
  show s₃.registry.nodeMap = _
  rw [hm₃]
  rfl

/-- **Lines 72-88 with no sequence running**: the call takes `mutex_`, finds no context to
cancel and its prior notification, if any, notified, and installs itself. -/
theorem exec_install (hpc : (s.calls c).pc = .lockEntry) (hlock : s.lockFree = true)
    (hctx : s.runningContext = none)
    (hnot : ∀ n, s.runningNotification = some n → s.notified n = true) :
    ∃ s', exec s [.run c, .run c, .run c] = .ok s' [.entered c, .installed c] ∧
      s'.registry = s.registry ∧ s'.lockFree = true ∧ s'.runningContext = some c ∧
      s'.cancelled = s.cancelled ∧ (s'.calls c).pc = .checkCancelled 0 ∧
      (s'.calls c).testResults = (s.calls c).testResults := by
  have htc : s.tryCancelRunning = s := by simp [Sys.tryCancelRunning, hctx]
  have h₁ : step s (.run c) = .ok (s.preempt c) [.entered c] := by
    simp [step, runCall, hpc, hlock, Sys.preemptEvents, hctx]
  set s₁ := s.preempt c
  have hall : (s₁.calls c).priorNotification.all s₁.notified = true := by
    cases hn : s.runningNotification with
    | none => simp [s₁, Sys.preempt, hn]
    | some n => simp [s₁, Sys.preempt, hn, htc, hnot n hn]
  have h₂ : step s₁ (.run c) = .ok (s₁.update c fun cl => { cl with pc := .relock }) [] := by
    simp only [step, runCall, show (s₁.calls c).pc = .waitPrior by simp [s₁, Sys.preempt], hall,
      ↓reduceIte]
  set s₂ := s₁.update c fun cl => { cl with pc := .relock }
  have hlock₂ : s₂.lockFree = true := by simpa [s₂, s₁, Sys.preempt, htc] using hlock
  have hctx₂ : s₂.runningContext = none := by simpa [s₂, s₁, Sys.preempt, htc] using hctx
  have h₃ : step s₂ (.run c) = .ok (Sys.update
      { s₂ with runningContext := some c, runningNotification := some c } c
      fun cl => { cl with pc := .checkCancelled 0 }) [.installed c] := by
    simp only [step, runCall, show (s₂.calls c).pc = .relock by simp [s₂], hlock₂, hctx₂,
      ↓reduceIte]
  refine ⟨_, exec_cons_ok h₁ (exec_cons_ok h₂ (exec_single h₃)), by simp [s₂, s₁, Sys.preempt, htc],
    by simpa [Sys.lockFree, Sys.update] using hlock₂, rfl, by simp [s₂, s₁, Sys.preempt, htc],
    by simp, by simp [s₂, s₁, Sys.preempt]⟩

/-- **`DoRunTestSequence` run alone** from the check before test `i`, the call installed and
`mutex_` free: the steps of the remaining tests end where `doRunTestSequence` says, with
`IsCancelled()` reading the call's own token throughout. -/
theorem tests_run (envs : Nat → Env) :
    ∀ (tests : List DistributedSystemDescription) (i : Nat) (s : Sys), Reachable requests s →
      (s.calls c).pc = .checkCancelled i → (s.calls c).request.drop i = tests →
      s.lockFree = true → s.runningContext = some c →
      ∃ nodeMap' status response,
        doRunTestSequence envs (fun _ => s.cancelled c) i tests (s.calls c).testResults
          s.registry.nodeMap = .ok (nodeMap', status, response) ∧
        ∃ s' events, execDriven s (testsSchedule c envs (fun _ => s.cancelled c) i tests
            s.registry.nodeMap) = .ok s' events ∧
          (s'.calls c).pc = .notify ∧ (s'.calls c).result = some status ∧
          (s'.calls c).testResults = response ∧ s'.registry.nodeMap = nodeMap' ∧ Sys.Shared s s'
  | [], i, s, _, hpc, htests, _, _ => by
    -- line 157: every test has run
    have hnone : (s.calls c).request[i]? = none :=
      List.getElem?_eq_none_iff.mpr (List.drop_eq_nil_iff.mp htests)
    have h₁ : step s (.run c) = .ok (s.finishSequence c Status.ok) [] := by
      simp [step, runCall, hpc, hnone]
    exact ⟨_, _, _, rfl, _, _, execDriven_single h₁, by simp [Sys.finishSequence],
      by simp [Sys.finishSequence], by simp [Sys.finishSequence], rfl, .update _ _ _⟩
  | test :: tests, i, s, hreach, hpc, htests, hlock, hctx => by
    have hget : (s.calls c).request[i]? = some test := by
      rw [← List.head?_drop, htests]; rfl
    have hdrop : (s.calls c).request.drop (i + 1) = tests := by
      rw [← List.tail_drop, htests]; rfl
    cases hcan : s.cancelled c
    case true =>
      -- lines 144-146: the token is set
      have h₁ : step s (.run c) =
          .ok (s.finishSequence c ⟨.ABORTED, "Cancelled by new test sequence."⟩) [] := by
        simp [step, runCall, hpc, hget, hlock, hctx, hcan]
      refine ⟨s.registry.nodeMap, ⟨.ABORTED, "Cancelled by new test sequence."⟩,
        (s.calls c).testResults, by simp [doRunTestSequence],
        s.finishSequence c ⟨.ABORTED, "Cancelled by new test sequence."⟩, [], ?_,
        by simp [Sys.finishSequence], by simp [Sys.finishSequence], by simp [Sys.finishSequence],
        rfl, .update _ _ _⟩
      simpa [testsSchedule] using execDriven_single h₁
    case false =>
      -- line 149: `DoRunTest` of the test
      set s₁ := s.update c fun cl => { cl with pc := .runTest i, test := test }
      have h₁ : step s (.run c) = .ok s₁ [] := by
        simp [step, runCall, hpc, hget, hlock, hctx, hcan, s₁]
      have hreach₁ := hreach.step h₁
      obtain ⟨nodeMap₁, result, hf, s₂, ev₂, he₂, hm₂, hsh₂, hok, herr⟩ :=
        doRunTest_run hreach₁ (c := c) (i := i) (by simp [s₁])
          (by simpa [s₁, Sys.lockFree, Sys.update] using hlock) (envs i)
      simp only [s₁, Sys.update_calls_self, Sys.update_registry] at hf he₂ hok herr
      have hsh : Sys.Shared s s₂ := (Sys.Shared.update s c _).trans hsh₂
      cases result with
      | error e =>
        -- lines 152-154: the test fails
        obtain ⟨hpc₂, hres₂, htr₂⟩ := herr e rfl
        refine ⟨nodeMap₁, ⟨.ABORTED, e.message⟩, (s.calls c).testResults, ?_, s₂, [] ++ ev₂, ?_,
          hpc₂, hres₂, htr₂, hm₂, hsh⟩
        · simp [doRunTestSequence, hf, bind, Except.bind, pure, Except.pure]
        · simpa [testsSchedule, hf] using execDriven_cons_ok (a := fun _ => .run c) h₁ he₂
      | ok r =>
        -- line 150: the result is recorded, and the loop goes on
        obtain ⟨hpc₂, htr₂⟩ := hok r rfl
        obtain ⟨acts, hacts⟩ := execDriven_exec he₂
        obtain ⟨nodeMap', status, response, hf', s', ev', he', hpc', hres', htr', hm', hsh'⟩ :=
          tests_run envs tests (i + 1) s₂ (reachable_of_exec hreach₁ hacts) hpc₂
            (by rw [exec_request hreach₁ hacts]; simpa [s₁] using hdrop)
            (by simpa [Sys.lockFree, hsh.writer, hsh.readers] using hlock)
            (by rw [hsh.runningContext]; exact hctx)
        rw [hsh.cancelled, hcan, htr₂, hm₂] at hf'
        rw [hsh.cancelled, hcan, hm₂] at he'
        refine ⟨nodeMap', status, response, ?_, s', [] ++ (ev₂ ++ ev'), ?_, hpc', hres', htr',
          hm', hsh.trans hsh'⟩
        · simpa [doRunTestSequence, hf, bind, Except.bind] using hf'
        · simpa [testsSchedule, hf] using
            execDriven_cons_ok (a := fun _ => .run c) h₁ (execDriven_append he₂ he')

/-- **The concurrent system runs `RunTestSequence`**: from every reachable state where call `c`
has not started and every other call has not started or has returned, let `c` run alone under
any `env`, `cq` handing back the tags of each fan-out in `env`'s order and each node answering
as `env` says. Then `runTestSequence` does not abort, and `env.schedule` runs the call to its
return: it returns the function's status with the function's results, leaves `node_map_` as
the function does, `idle` flags included, and leaves `mutex_` free, the running handle cleared
and its notification notified. -/
theorem runTestSequence_refinement (h : Reachable requests s) (hc : (s.calls c).pc = .start)
    (hidle : ∀ d ≠ c, (s.calls d).pc = .start ∨ (s.calls d).pc = .done) (env : SeqEnv) :
    ∃ nodeMap' status response,
      runTestSequence s.registry.nodeMap (s.calls c).request env = .ok (nodeMap', status, response) ∧
      ∃ s' events,
        execDriven s (env.schedule s.registry.nodeMap (s.calls c).request c) = .ok s' events ∧
        (s'.calls c).pc = .done ∧ (s'.calls c).result = some status ∧
        (s'.calls c).testResults = response ∧ s'.registry.nodeMap = nodeMap' ∧
        s'.lockFree = true ∧ s'.runningContext = none ∧ s'.notified c = true := by
  obtain ⟨hlock, hctx, hnot, hcan, htr⟩ := alone_start h hc hidle
  obtain ⟨hw, hr⟩ : s.writer = none ∧ s.readers = [] := by simpa [Sys.lockFree] using hlock
  -- `CancelTraffic`
  obtain ⟨nodeMap₀, s₁, ev₁, hf₁, he₁, hm₁, hsh₁, hpc₁, htr₁⟩ := cancel_phase hc hw env
  obtain ⟨acts₁, hacts₁⟩ := execDriven_exec he₁
  have hreach₁ := reachable_of_exec h hacts₁
  -- lines 72-88
  obtain ⟨s₂, he₂, hreg₂, hlock₂, hctx₂, hcan₂, hpc₂, htr₂⟩ := exec_install hpc₁
    (by simp [Sys.lockFree, hsh₁.writer, hsh₁.readers, hw, hr])
    (by rw [hsh₁.runningContext]; exact hctx)
    (by rw [hsh₁.runningNotification, hsh₁.notified]; exact hnot)
  have hreach₂ := reachable_of_exec hreach₁ he₂
  -- the tests
  obtain ⟨nodeMap', status, response, hf₃, s₃, ev₃, he₃, hpc₃, hres₃, htr₃, hm₃, hsh₃⟩ :=
    tests_run env.tests (s.calls c).request 0 s₂ hreach₂ hpc₂
      (by rw [exec_request hreach₁ he₂, exec_request h hacts₁]; rfl) hlock₂ hctx₂
  rw [hcan₂, hsh₁.cancelled, hcan, htr₂, htr₁, htr, hreg₂, hm₁] at hf₃
  rw [hcan₂, hsh₁.cancelled, hcan, hreg₂, hm₁] at he₃
  -- line 90, then lines 91-93
  set s₄ := Sys.update { s₃ with notified := Function.update s₃.notified c true } c
    fun cl => { cl with pc := .clear }
  have h₄ : step s₃ (.run c) = .ok s₄ [] := by simp [step, runCall, hpc₃, s₄]
  have hlock₄ : s₄.lockFree = true := by
    simpa [s₄, Sys.lockFree, Sys.update, hsh₃.writer, hsh₃.readers] using hlock₂
  set s₅ := Sys.update { s₄ with runningContext := none } c fun cl => { cl with pc := .done }
  have h₅ : step s₄ (.run c) = .ok s₅ [.cleared c] := by
    simp only [step, runCall, show (s₄.calls c).pc = .clear by simp [s₄], hlock₄, ↓reduceIte]
  have hsched : env.schedule s.registry.nodeMap (s.calls c).request c =
      env.cancelSchedule s.registry.nodeMap c ++ [.run c, .run c, .run c].map (fun a _ => a) ++
        testsSchedule c env.tests (fun _ => false) 0 (s.calls c).request nodeMap₀ ++
        [.run c, .run c].map (fun a _ => a) := by
    simp [SeqEnv.schedule, hf₁]
  rw [hsched]
  exact ⟨nodeMap', status, response, by simp [runTestSequence, hf₁, hf₃, bind, Except.bind], s₅, _,
    execDriven_append (execDriven_append (execDriven_append he₁
      (by rw [execDriven_static]; exact he₂)) he₃)
      (by rw [execDriven_static]; exact exec_cons_ok h₄ (exec_single h₅)),
    by simp [s₅], by simp [s₅, s₄, hres₃], by simp [s₅, s₄, htr₃], hm₃,
    by simpa [s₅, Sys.lockFree, Sys.update] using hlock₄, rfl, by simp [s₅, s₄]⟩

end Alone

/-- One node, a one-test request, and the sequencer otherwise idle: the call runs its sequence
to its end under `SeqEnv.allOk`. -/
theorem runTestSequence_refinement_one_test :
    ∃ s events, exec (Sys.init fun _ => [⟨[⟨"A", 1⟩], ProtoMap.empty⟩])
        [.registerNode ⟨"h0", 7, ""⟩ true] = .ok s events ∧
      (s.calls 0).pc = .start ∧ (∀ d ≠ 0, (s.calls d).pc = .start ∨ (s.calls d).pc = .done) ∧
      ∃ nodeMap' status response,
        runTestSequence s.registry.nodeMap (s.calls 0).request SeqEnv.allOk =
          .ok (nodeMap', status, response) ∧
        ∃ s' events,
          execDriven s (SeqEnv.allOk.schedule s.registry.nodeMap (s.calls 0).request 0) =
            .ok s' events ∧
          (s'.calls 0).pc = .done ∧ (s'.calls 0).result = some status ∧
          (s'.calls 0).testResults = response ∧ s'.registry.nodeMap = nodeMap' ∧
          s'.lockFree = true ∧ s'.runningContext = none ∧ s'.notified 0 = true :=
  ⟨_, _, rfl, rfl, fun _ _ => .inl rfl, runTestSequence_refinement (c := 0) (@reachable_of_exec
    (fun _ => [⟨[⟨"A", 1⟩], ProtoMap.empty⟩]) _ _ [.registerNode ⟨"h0", 7, ""⟩ true] _ .init rfl) rfl
    (fun _ _ => .inl rfl) SeqEnv.allOk⟩

end Distbench
