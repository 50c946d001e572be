import TestSequencer.Interlock

/-!
# `DoRunTestSequence`: the tests in order

Lines 139-158 run `DoRunTest` on each test of the request in turn. Before each test they check,
under `mutex_`, whether the running context has been cancelled; on the first test that fails
they return `ABORTED` with its message; after the last they return OK.

* `Pc.stage` — where a call is: before the first check, at the check before test `i`, in
  `DoRunTest` of test `i`, or returned (line 90 on).
* `DoRunTestError` — the status `DoRunTest` fails with, at each point where it can fail.
* `SequenceInv` — what a call has done at each stage; `SequenceMove` — how one step of the
  system can move a call between stages.
* `doRunTestSequence_in_order` — over every interleaving of the system, every call keeps
  `SequenceInv`, and every step moves it by `SequenceMove`: the tests run in request order and
  nothing else runs; a set token at the check before test `i` returns "Cancelled by new test
  sequence."; a failed test returns `ABORTED` with its message; OK comes only after every test,
  with one result per test, in order, holding that test.
-/

set_option autoImplicit false

namespace Distbench

/-- Where a call is in `DoRunTestSequence`. -/
inductive Stage where
  /-- Lines 66-88: `CancelTraffic` and the preemption loop. -/
  | before
  /-- Lines 142-148, the check before test `i`, or line 157 when `i` is past the last test. -/
  | check (i : Nat)
  /-- `DoRunTest` of test `i`. -/
  | test (i : Nat)
  /-- Line 90 on: `DoRunTestSequence` has returned. -/
  | returned
  deriving DecidableEq, Repr

def Pc.stage : Pc → Stage
  | .start | .cancelScan _ | .cancelDrain | .lockEntry | .waitPrior | .relock => .before
  | .checkCancelled i => .check i
  | .runTest i | .configureNodes i | .configureDrain i | .introducePeers i | .introduceDrain i
  | .runTraffic i | .markBusy i _ | .issueRunTraffic i _ _ | .runTrafficDrain i => .test i
  | .notify | .clear | .done => .returned

/-- `DoRunTest` of `cl.test` fails with `e` at the step `cl.pc` is about to take, `keys` being
the aliases of `node_map_`. -/
inductive DoRunTestError (keys : List String) (cl : Call) : Status → Prop where
  /-- Lines 163-233: no services, or the placement fails. -/
  | placement {i : Nat} {e : Status} : cl.pc = .runTest i →
      placeServices cl.test keys = .error e → DoRunTestError keys cl e
  /-- Lines 238-241: `ConfigureNodes` fails. -/
  | configure {i : Nat} {e : Status} : cl.pc = .configureDrain i →
      configureResult (cl.fanOut, cl.serviceMap) = .error e → DoRunTestError keys cl e
  /-- Lines 243-245 with 355-357: `IntroducePeers` fails. -/
  | introduce {i : Nat} : cl.pc = .introduceDrain i → cl.fanOut.status ≠ .OK →
      DoRunTestError keys cl ⟨.INVALID_ARGUMENT, "Unknown GRPC error"⟩
  /-- Lines 246-261 with 401-405: `RunTraffic` fails. -/
  | traffic {i : Nat} : cl.pc = .runTrafficDrain i → cl.fanOut.status ≠ .OK →
      DoRunTestError keys cl ⟨.INVALID_ARGUMENT, "Unknown GRPC error2"⟩

/-- What a call has done of `DoRunTestSequence`, at each stage. -/
structure SequenceInv (cl : Call) : Prop where
  /-- Before the first check, no result is recorded. -/
  before : cl.pc.stage = .before → cl.testResults = []
  /-- At the check before test `i`, tests `0 … i-1` have run and succeeded, in order. -/
  check : ∀ i, cl.pc.stage = .check i →
    i ≤ cl.request.length ∧ cl.testResults.map TestResult.trafficConfig = cl.request.take i
  /-- `DoRunTest` runs on `tests[i]`, after tests `0 … i-1` have run and succeeded. -/
  test : ∀ i, cl.pc.stage = .test i →
    cl.request[i]? = some cl.test ∧
      cl.testResults.map TestResult.trafficConfig = cl.request.take i
  /-- A status is returned exactly from line 90 on ... -/
  result : cl.result.isSome ↔ cl.pc.stage = .returned
  /-- ... OK once every test has run and succeeded, with one result per test, in order;
  otherwise `ABORTED` before the last test's result. -/
  returned : ∀ st, cl.result = some st →
    (st = Status.ok ∧ cl.testResults.map TestResult.trafficConfig = cl.request) ∨
      (st.code = .ABORTED ∧ cl.testResults.length < cl.request.length)

/-- How one step of the system moves a call through `DoRunTestSequence`; `token` is
`IsCancelled()` of the call's own context, `keys` the aliases of `node_map_`. -/
inductive SequenceMove (token : Bool) (keys : List String) (cl cl' : Call) : Prop where
  /-- Nothing `DoRunTestSequence` keeps changes. -/
  | stay : cl'.pc.stage = cl.pc.stage → cl'.request = cl.request → cl'.test = cl.test →
      cl'.testResults = cl.testResults → cl'.result = cl.result → SequenceMove token keys cl cl'
  /-- Line 88: the loop over the tests begins. -/
  | begin : cl.pc.stage = .before → cl'.pc.stage = .check 0 → cl'.request = cl.request →
      cl'.testResults = cl.testResults → cl'.result = cl.result → SequenceMove token keys cl cl'
  /-- Lines 142-149: the token is not set; `DoRunTest` starts on `tests[i]`. -/
  | start {i : Nat} {t : DistributedSystemDescription} : cl.pc.stage = .check i →
      cl.request[i]? = some t → token = false → cl'.pc.stage = .test i → cl'.test = t →
      cl'.request = cl.request → cl'.testResults = cl.testResults → cl'.result = cl.result →
      SequenceMove token keys cl cl'
  /-- Lines 142-148: the token is set before test `i`. -/
  | cancel {i : Nat} : cl.pc.stage = .check i → i < cl.request.length → token = true →
      cl'.pc.stage = .returned →
      cl'.result = some ⟨.ABORTED, "Cancelled by new test sequence."⟩ →
      cl'.request = cl.request → cl'.testResults = cl.testResults →
      SequenceMove token keys cl cl'
  /-- Line 157: every test has run. -/
  | finish {i : Nat} : cl.pc.stage = .check i → cl.request.length ≤ i →
      cl'.pc.stage = .returned → cl'.result = some Status.ok → cl'.request = cl.request →
      cl'.testResults = cl.testResults → SequenceMove token keys cl cl'
  /-- Lines 149-151 with 253-257: `DoRunTest` of test `i` succeeds and its result is
  appended. -/
  | next {i : Nat} : cl.pc = .runTrafficDrain i → cl.fanOut.status = .OK →
      cl'.pc.stage = .check (i + 1) →
      cl'.testResults = cl.testResults ++ [⟨cl.test, cl.serviceMap, cl.logs⟩] →
      cl'.request = cl.request → cl'.result = cl.result → SequenceMove token keys cl cl'
  /-- Lines 152-154: `DoRunTest` of test `i` fails with `e`. -/
  | fail {i : Nat} {e : Status} : cl.pc.stage = .test i → DoRunTestError keys cl e →
      cl'.pc.stage = .returned → cl'.result = some ⟨.ABORTED, e.message⟩ →
      cl'.request = cl.request → cl'.testResults = cl.testResults →
      SequenceMove token keys cl cl'

/-! ## Every step is a move -/

section Move

variable {s s' : Sys} {c : Nat} {events : List Event}

theorem SequenceMove.of_eq {token : Bool} {keys : List String} {cl cl' : Call} (h : cl' = cl) :
    SequenceMove token keys cl cl' :=
  h ▸ .stay rfl rfl rfl rfl rfl

/-- `DoRunTest` of test `i` fails with `e`, and `DoRunTestSequence` returns it. -/
theorem SequenceMove.fail_notify {token : Bool} {keys : List String} {cl : Call} {i : Nat}
    {e : Status} (hs : cl.pc.stage = .test i) (he : DoRunTestError keys cl e) :
    SequenceMove token keys cl { cl with pc := .notify, result := some ⟨.ABORTED, e.message⟩ } :=
  .fail hs he rfl rfl rfl rfl

theorem Sys.finishSequence_calls_self (s : Sys) (c : Nat) (st : Status) :
    (s.finishSequence c st).calls c = { s.calls c with pc := .notify, result := some st } := by
  simp [Sys.finishSequence]

/-- A completion changes only the fan-out's locals. -/
theorem completeCall_sequenceMove {tag : Nat} {code : StatusCode} {response : ProtoMap String}
    (token : Bool) (keys : List String) (h : completeCall s c tag code response = .ok s' events) :
    SequenceMove token keys (s.calls c) (s'.calls c) := by
  simp only [completeCall] at h
  repeat' split at h
  all_goals first
    | (cases h; done)
    | (cases h; simp only [Sys.update_calls_self]; exact .stay rfl rfl rfl rfl rfl)

/-- The steps of call `c` itself. -/
theorem runCall_sequenceMove (keys : List String)
    (hctx : ∀ i, (s.calls c).pc = .checkCancelled i → s.runningContext = some c)
    (hkeys : keys = s.registry.nodeMap.keys) (h : runCall s c = .ok s' events) :
    SequenceMove (s.cancelled c) keys (s.calls c) (s'.calls c) := by
  subst hkeys
  simp only [runCall] at h
  cases hpc : (s.calls c).pc <;> simp only [hpc] at h
  case relock =>
    split_ifs at h
    split at h <;> cases h <;>
      simp only [Sys.preempt, Sys.update_calls_self, Sys.tryCancelRunning_calls]
    · exact .stay (by rw [hpc]; rfl) rfl rfl rfl rfl
    · exact .begin (by rw [hpc]; rfl) rfl rfl rfl rfl
  case checkCancelled i =>
    have hs : (s.calls c).pc.stage = .check i := by rw [hpc]; rfl
    split at h
    · rename_i hnone
      cases h
      rw [Sys.finishSequence_calls_self]
      exact .finish hs (List.getElem?_eq_none_iff.mp hnone) rfl rfl rfl rfl
    rename_i t ht
    split_ifs at h
    rw [hctx i hpc] at h
    simp only at h
    split_ifs at h with hcan <;> cases h
    · rw [Sys.finishSequence_calls_self]
      exact .cancel hs (List.getElem?_eq_some_iff.mp ht).1 hcan rfl rfl rfl rfl
    · rw [Sys.update_calls_self]
      exact .start hs ht (by simpa using hcan) rfl rfl rfl rfl rfl
  case runTest i =>
    split_ifs at h
    split at h <;> cases h
    · rw [Sys.finishSequence_calls_self]
      exact .fail_notify (by rw [hpc]; rfl) (.placement hpc ‹_›)
    · rw [Sys.update_calls_self]
      exact .stay (by rw [hpc]; rfl) rfl rfl rfl rfl
  case configureDrain i =>
    split_ifs at h
    split at h <;> cases h
    · rw [Sys.finishSequence_calls_self]
      exact .fail_notify (by rw [hpc]; rfl) (.configure hpc ‹_›)
    · rw [Sys.update_calls_self]
      exact .stay (by rw [hpc]; rfl) rfl rfl rfl rfl
  case introduceDrain i =>
    split_ifs at h with h0 hok <;> cases h
    · rw [Sys.update_calls_self]
      exact .stay (by rw [hpc]; rfl) rfl rfl rfl rfl
    · rw [Sys.finishSequence_calls_self]
      exact .fail_notify (by rw [hpc]; rfl) (.introduce hpc hok)
  case runTrafficDrain i =>
    split_ifs at h with h0 hok <;> cases h
    · rw [Sys.update_calls_self]
      exact .next hpc hok rfl rfl rfl rfl
    · rw [Sys.finishSequence_calls_self]
      exact .fail_notify (by rw [hpc]; rfl) (.traffic hpc hok)
  all_goals
    repeat' split at h
    all_goals first
      | (cases h; done)
      | (cases h
         simp only [Sys.preempt, Sys.update_calls_self, Sys.setIdle_calls,
           Sys.tryCancelRunning_calls]
         exact .stay (by rw [hpc]; rfl) rfl rfl rfl rfl)

/-- Every step of the system moves call `c` by a `SequenceMove`. -/
theorem step_sequenceMove {a : Action}
    (hctx : ∀ i, (s.calls c).pc = .checkCancelled i → s.runningContext = some c)
    (h : step s a = .ok s' events) :
    SequenceMove (s.cancelled c) s.registry.nodeMap.keys (s.calls c) (s'.calls c) := by
  cases a with
  | registerNode request stubOk =>
    simp only [step] at h
    split_ifs at h
    cases h
    exact .of_eq rfl
  | complete d tag code response =>
    by_cases hd : c = d
    · subst hd; exact completeCall_sequenceMove _ _ h
    · exact .of_eq (completeCall_calls_ne h hd)
  | run d =>
    by_cases hd : c = d
    · subst hd; exact runCall_sequenceMove _ hctx rfl h
    · exact .of_eq (runCall_calls_ne h hd)

end Move

/-! ## Every move keeps the invariant -/

theorem sequenceInv_init (request : List DistributedSystemDescription) :
    SequenceInv (Call.init request) :=
  ⟨fun _ => rfl, fun i h => by simp [Call.init, Pc.stage] at h,
    fun i h => by simp [Call.init, Pc.stage] at h, by simp [Call.init, Pc.stage],
    fun st h => by simp [Call.init] at h⟩

theorem testResults_length_of_map {cl : Call} {i : Nat}
    (h : cl.testResults.map TestResult.trafficConfig = cl.request.take i)
    (hle : i ≤ cl.request.length) : cl.testResults.length = i := by
  simpa [hle] using congrArg List.length h

theorem SequenceInv.result_none {cl : Call} (hi : SequenceInv cl) (h : cl.pc.stage ≠ .returned) :
    cl.result = none :=
  Option.not_isSome_iff_eq_none.mp fun hs => h (hi.result.mp hs)

/-- From line 90 on, the invariant is about the returned status only. -/
theorem SequenceInv.of_returned {cl : Call} (hs : cl.pc.stage = .returned)
    (hres : cl.result.isSome)
    (hret : ∀ st, cl.result = some st →
      (st = Status.ok ∧ cl.testResults.map TestResult.trafficConfig = cl.request) ∨
        (st.code = .ABORTED ∧ cl.testResults.length < cl.request.length)) :
    SequenceInv cl :=
  ⟨fun h => by simp [hs] at h, fun _ h => by simp [hs] at h, fun _ h => by simp [hs] at h,
    ⟨fun _ => hs, fun _ => hres⟩, hret⟩

theorem SequenceInv.move {token : Bool} {keys : List String} {cl cl' : Call}
    (hi : SequenceInv cl) (hm : SequenceMove token keys cl cl') : SequenceInv cl' := by
  cases hm with
  | stay hs hr ht htr hres =>
    refine ⟨fun h => htr ▸ hi.before (hs ▸ h), fun i h => ?_, fun i h => ?_,
      by rw [hres, hs]; exact hi.result, fun st h => ?_⟩
    · rw [hr, htr]; exact hi.check i (hs ▸ h)
    · rw [hr, ht, htr]; exact hi.test i (hs ▸ h)
    · rw [hr, htr]; exact hi.returned st (hres ▸ h)
  | begin hb hs hr htr hres =>
    have hnil := hi.before hb
    have hnone := hi.result_none (by simp [hb])
    refine ⟨fun h => by simp [hs] at h, fun i h => ?_, fun i h => by simp [hs] at h,
      by simp [hres, hnone, hs], fun st h => by simp [hres, hnone] at h⟩
    obtain rfl : i = 0 := by simpa [hs] using h.symm
    simp [hr, htr, hnil]
  | start hc ht htok hs htest hr htr hres =>
    rename_i i t
    have hnone := hi.result_none (by simp [hc])
    refine ⟨fun h => by simp [hs] at h, fun j h => by simp [hs] at h, fun j h => ?_,
      by simp [hres, hnone, hs], fun st h => by simp [hres, hnone] at h⟩
    obtain rfl : j = i := by simpa [hs] using h.symm
    rw [hr, htest, htr]
    exact ⟨ht, (hi.check _ hc).2⟩
  | cancel hc hlt htok hs hres hr htr =>
    obtain ⟨hle, hmap⟩ := hi.check _ hc
    refine .of_returned hs (by simp [hres]) fun st h => ?_
    rw [hres] at h
    cases h
    refine .inr ⟨rfl, ?_⟩
    rw [hr, htr, testResults_length_of_map hmap hle]
    exact hlt
  | finish hc hge hs hres hr htr =>
    obtain ⟨hle, hmap⟩ := hi.check _ hc
    refine .of_returned hs (by simp [hres]) fun st h => ?_
    rw [hres] at h
    cases h
    refine .inl ⟨rfl, ?_⟩
    rw [hr, htr, hmap, List.take_of_length_le hge]
  | next hpc hok hs htr hr hres =>
    rename_i i
    obtain ⟨ht, hmap⟩ := hi.test i (by simp [hpc, Pc.stage])
    have hnone := hi.result_none (by simp [hpc, Pc.stage])
    refine ⟨fun h => by simp [hs] at h, fun j h => ?_, fun j h => by simp [hs] at h,
      by simp [hres, hnone, hs], fun st h => by simp [hres, hnone] at h⟩
    obtain rfl : j = i + 1 := by simpa [hs] using h.symm
    have hlt : i < cl.request.length := (List.getElem?_eq_some_iff.mp ht).1
    refine ⟨by rw [hr]; omega, ?_⟩
    rw [hr, htr, List.map_append, hmap, List.take_succ, ht]
    rfl
  | fail hc he hs hres hr htr =>
    rename_i i e
    obtain ⟨ht, hmap⟩ := hi.test i hc
    have hlt : i < cl.request.length := (List.getElem?_eq_some_iff.mp ht).1
    refine .of_returned hs (by simp [hres]) fun st h => ?_
    rw [hres] at h
    cases h
    refine .inr ⟨rfl, ?_⟩
    rw [hr, htr, testResults_length_of_map hmap hlt.le]
    exact hlt

/-! ## Over every interleaving -/

/-- The check at line 145 reads the caller's own context. -/
theorem checkCancelled_context {requests : Nat → List DistributedSystemDescription} {s : Sys}
    (h : Reachable requests s) (c i : Nat) (hc : (s.calls c).pc = .checkCancelled i) :
    s.runningContext = some c :=
  ((Interlock.inv_reachable (Sys.interlock_reachable h)).context_iff c).mpr
    (by simp [Sys.interlock, hc, Pc.phase, Interlock.Installed])

theorem reachable_sequenceInv {requests : Nat → List DistributedSystemDescription} {s : Sys}
    (h : Reachable requests s) (c : Nat) : SequenceInv (s.calls c) := by
  induction h with
  | init => exact sequenceInv_init _
  | step hr hs ih => exact ih.move (step_sequenceMove (checkCancelled_context hr c) hs)

/-- **`DoRunTestSequence` runs the tests in order**, over every interleaving of the system. -/
theorem doRunTestSequence_in_order {requests : Nat → List DistributedSystemDescription}
    {s : Sys} (h : Reachable requests s) (c : Nat) :
    SequenceInv (s.calls c) ∧
      ∀ a s' events, step s a = .ok s' events →
        SequenceMove (s.cancelled c) s.registry.nodeMap.keys (s.calls c) (s'.calls c) :=
  ⟨reachable_sequenceInv h c, fun _ _ _ hs => step_sequenceMove (checkCancelled_context h c) hs⟩

/-- One node and a one-test sequence run to its end: the call has returned OK with one
result. -/
theorem doRunTestSequence_in_order_one_test :
    ∃ s events, exec (Sys.init fun _ => [⟨[⟨"A", 1⟩], ProtoMap.empty⟩])
        (Action.registerNode ⟨"h0", 7, ""⟩ true :: List.replicate 10 (Action.run 0) ++
          Action.complete 0 0 .OK ProtoMap.empty :: List.replicate 2 (Action.run 0) ++
          Action.complete 0 0 .OK ProtoMap.empty :: List.replicate 5 (Action.run 0) ++
          Action.complete 0 0 .OK ProtoMap.empty :: List.replicate 2 (Action.run 0)) =
          .ok s events ∧
      (s.calls 0).result = some Status.ok ∧ (s.calls 0).testResults.length = 1 ∧
      SequenceInv (s.calls 0) ∧
      ∀ a s' events, step s a = .ok s' events →
        SequenceMove (s.cancelled 0) s.registry.nodeMap.keys (s.calls 0) (s'.calls 0) :=
  ⟨_, _, rfl, rfl, rfl, doRunTestSequence_in_order
    (@reachable_of_exec (fun _ => [⟨[⟨"A", 1⟩], ProtoMap.empty⟩]) _ _
      (Action.registerNode ⟨"h0", 7, ""⟩ true :: List.replicate 10 (Action.run 0) ++
        Action.complete 0 0 .OK ProtoMap.empty :: List.replicate 2 (Action.run 0) ++
        Action.complete 0 0 .OK ProtoMap.empty :: List.replicate 5 (Action.run 0) ++
        Action.complete 0 0 .OK ProtoMap.empty :: List.replicate 2 (Action.run 0)) _ .init rfl) 0⟩

end Distbench
