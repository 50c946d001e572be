import TestSequencer.Invariants

/-!
# One test sequence at a time

* `sequences_mutually_exclusive` — over every interleaving of `RunTestSequence` calls,
  `RegisterNode` calls and completions: at most one call is between installing its context
  (line 85) and clearing the handle (line 92); the handle is non-null exactly then and points
  to that call's own context, so the `IsCancelled()` check (line 145) never reads a null
  pointer and always reads the caller's own token; a notification a waiting call captured is
  notified or is the installed call's, which notifies it before it clears the handle; and the
  `ConfigureNode`, `IntroducePeers` and `RunTraffic` RPCs of two calls are never outstanding
  together.
* `older_request_preempts_newer` — the order in which calls take `mutex_` at line 72 does not
  decide who preempts whom: two requests reach an idle sequencer, the first to take the lock
  runs `TryCancel` on the second's context once the second has installed it, and the second is
  aborted with "Cancelled by new test sequence." while the first goes on to run.
-/

set_option autoImplicit false

namespace Distbench

/-- Between installing its context (line 85) and clearing the handle (line 92). -/
def Call.Installed (cl : Call) : Prop := Interlock.Installed cl.pc.phase

/-- A `ConfigureNode`, `IntroducePeers` or `RunTraffic` RPC of call `c` is outstanding: issued,
its completion not taken from `cq` yet, and not one of the call's own `CancelTraffic` RPCs
(which are issued before line 72). -/
def PhaseRpcOutstanding (s : Sys) (c tag : Nat) : Prop :=
  tag ∈ (s.calls c).fanOut.outstanding ∧ (s.calls c).pc.phase ≠ .outside

theorem Pc.installed_of_fanningOut {p : Pc} (h : p.fanningOut = true) (ho : p.phase ≠ .outside) :
    Interlock.Installed p.phase := by
  cases p <;> simp_all [fanningOut, phase, Interlock.Installed]

/-- An outstanding phase RPC belongs to an installed call. -/
theorem PhaseRpcOutstanding.installed {s : Sys} {c tag : Nat} (hi : SysInv s)
    (h : PhaseRpcOutstanding s c tag) : (s.calls c).Installed := by
  refine Pc.installed_of_fanningOut ?_ h.2
  cases hf : (s.calls c).pc.fanningOut
  · simp [PhaseRpcOutstanding, (hi.calls c).quiet hf] at h
  · rfl

/-- What the preemption protocol guarantees of a state. -/
structure OneSequence (s : Sys) : Prop where
  /-- At most one call is between lines 85 and 92. -/
  unique : ∀ c d, (s.calls c).Installed → (s.calls d).Installed → c = d
  /-- The handle is non-null exactly then, and is that call's context. -/
  context_iff : ∀ c, s.runningContext = some c ↔ (s.calls c).Installed
  /-- The `IsCancelled()` check reads the caller's own context ... -/
  check_own : ∀ c i, (s.calls c).pc = .checkCancelled i → s.runningContext = some c
  /-- ... and never a null pointer. -/
  no_null : ∀ a, step s a ≠ .panic .nullContext
  /-- A captured notification is notified or is the installed call's. -/
  prior : ∀ c n, (s.calls c).pc = .waitPrior → (s.calls c).priorNotification = some n →
    s.notified n = true ∨ s.runningContext = some n
  /-- The installed call has notified exactly when it is about to clear the handle. -/
  notify_before_clear : ∀ n, s.runningContext = some n →
    (s.notified n = true ↔ (s.calls n).pc = .clear)
  /-- Phase RPCs of two calls are never outstanding together. -/
  rpcs_unique : ∀ c d tc td, PhaseRpcOutstanding s c tc → PhaseRpcOutstanding s d td → c = d

/-- **Mutual exclusion of test sequences**, over every interleaving of the system. -/
theorem sequences_mutually_exclusive {requests : Nat → List DistributedSystemDescription}
    {s : Sys} (h : Reachable requests s) : OneSequence s := by
  have hl := Interlock.inv_reachable (Sys.interlock_reachable h)
  have hi := reachable_inv h
  have hctx : ∀ c i, (s.calls c).pc = .checkCancelled i → s.runningContext = some c :=
    fun c i hc =>
      (hl.context_iff c).mpr (by simp [Sys.interlock, hc, Pc.phase, Interlock.Installed])
  refine ⟨fun c d => hl.installed_unique, hl.context_iff, hctx, fun a hpanic => ?_,
    fun c n hc => hl.prior c n (by simp [Sys.interlock, hc, Pc.phase]), fun n hn => ?_,
    fun c d tc td hc hd => hl.installed_unique (hc.installed hi) (hd.installed hi)⟩
  · obtain h' | ⟨-, c, i, hc, hnone⟩ := step_panic hi hpanic
    · cases h'
    · simp [hctx c i hc] at hnone
  · have hin := (hl.context_iff n).mp hn
    have hnot := hl.notified_iff n
    simp only [Sys.interlock, Interlock.Installed] at hin hnot
    rw [hnot]
    cases hp : (s.calls n).pc <;> simp_all [Pc.phase]

/-- Two calls contend: call 0 has installed its context, and call 1 has taken `mutex_` at
line 72, cancelled that context and waits at line 80 on call 0's notification, not given yet. -/
theorem sequences_mutually_exclusive_installed :
    ∃ s events, exec (Sys.init fun _ => [])
        (List.replicate 6 (.run 0) ++ List.replicate 4 (.run 1)) = .ok s events ∧
      (s.calls 0).Installed ∧ (s.calls 1).pc = .waitPrior ∧
      (s.calls 1).priorNotification = some 0 ∧ s.notified 0 = false ∧ OneSequence s :=
  ⟨_, _, rfl, .inl rfl, rfl, rfl, rfl, sequences_mutually_exclusive
    (@reachable_of_exec (fun _ => []) _ _
      (List.replicate 6 (Action.run 0) ++ List.replicate 4 (Action.run 1)) _ .init rfl)⟩

/-- Two requests at an idle sequencer: call 0 takes `mutex_` at line 72 first, call 1 second.
Call 1 relocks first and installs its context; call 0 then relocks, finds it and cancels it.
Call 1 is aborted at its first check, and once it has cleared the handle call 0 installs its
own. -/
theorem older_request_preempts_newer :
    ∃ s, exec (Sys.init fun _ => [⟨[⟨"A", 1⟩], ProtoMap.empty⟩])
        [.run 0, .run 0, .run 0, .run 0,            -- call 0: `CancelTraffic`, line 72
         .run 1, .run 1, .run 1, .run 1,            -- call 1: `CancelTraffic`, line 72
         .run 1, .run 1,                            -- call 1: no prior, relocks, installs
         .run 0, .run 0,                            -- call 0: relocks, `TryCancel` on call 1
         .run 1, .run 1, .run 1,                    -- call 1: aborted, notifies, clears
         .run 0, .run 0] =                          -- call 0: wakes, relocks, installs
      .ok s [.entered 0, .entered 1, .installed 1, .tryCancel 0 1, .cleared 1, .installed 0] ∧
    (s.calls 1).result = some ⟨.ABORTED, "Cancelled by new test sequence."⟩ ∧
    (s.calls 0).pc = .checkCancelled 0 :=
  ⟨_, rfl, rfl, rfl⟩

end Distbench
