import TestSequencer.System

/-!
# The preemption protocol of `RunTestSequence`

`Interlock` is the protocol of lines 71-93 on its own: for each call only its `Phase`, its
`prior_notification`, and the shared handle (`running_test_sequence_context_`,
`running_test_notification_`) with the notifications. Its steps are the protocol's critical
sections: arriving at line 72, taking the lock there (lines 72-78), waking up (lines 79-81),
relocking and going round again (lines 82-78) or installing (lines 82-88), notifying
(line 90) and clearing (lines 91-93).

Results:

* `Interlock.Inv` — the handle points to a call exactly while that call is between installing
  and clearing; a call's notification is notified exactly from line 91 on; a captured
  notification is notified or belongs to the installed call. `Interlock.inv_reachable`.
* `Sys.interlock_step` — the system refines the protocol: every step of `Sys` is a step of
  `Interlock` on `Sys.interlock` or leaves it unchanged.
* `sequences_mutually_exclusive` — for every interleaving of the system: at most one call is
  installed, the handle is its context, the `IsCancelled()` check never reads a null
  pointer, captured notifications are notified or will be before the handle is cleared, and
  the phase RPCs of two calls are never outstanding together.
* `older_request_preempts_newer` (in `Preemption`) — two requests reaching an idle
  sequencer: the one that took the lock at line 72 first cancels the other's context, and the
  newer one is aborted.
-/

set_option autoImplicit false

namespace Distbench

/-- Where a call is in the preemption protocol. -/
inductive Phase where
  /-- Before line 72, in `CancelTraffic` or not started. -/
  | outside
  /-- About to take `mutex_` at line 72. -/
  | entering
  /-- Lines 79-81. -/
  | waiting
  /-- About to take `mutex_` at line 82. -/
  | relocking
  /-- Installed, line 90 not yet run. -/
  | running
  /-- Notified, the handle not yet cleared. -/
  | notified
  /-- Returned. -/
  | finished
  deriving DecidableEq, Repr

/-- The protocol's view of the sequencer. -/
structure Interlock where
  phase : Nat → Phase
  prior : Nat → Option Nat
  context : Option Nat
  notification : Option Nat
  notified : Nat → Bool

namespace Interlock

def init : Interlock := ⟨fun _ => .outside, fun _ => none, none, none, fun _ => false⟩

/-- Call `c` moves to phase `p`. -/
def setPhase (l : Interlock) (c : Nat) (p : Phase) : Interlock :=
  { l with phase := Function.update l.phase c p }

/-- Lines 74-78: capture the running notification and wait on it. -/
def preempt (l : Interlock) (c : Nat) : Interlock :=
  { l with phase := Function.update l.phase c .waiting,
           prior := Function.update l.prior c l.notification }

/-- The protocol's steps. -/
inductive Step : Interlock → Interlock → Prop where
  | arrive (l : Interlock) (c : Nat) : l.phase c = .outside → Step l (l.setPhase c .entering)
  | lock (l : Interlock) (c : Nat) : l.phase c = .entering → Step l (l.preempt c)
  | wake (l : Interlock) (c : Nat) : l.phase c = .waiting →
      (∀ n, l.prior c = some n → l.notified n = true) → Step l (l.setPhase c .relocking)
  | retry (l : Interlock) (c : Nat) : l.phase c = .relocking → l.context ≠ none →
      Step l (l.preempt c)
  | install (l : Interlock) (c : Nat) : l.phase c = .relocking → l.context = none →
      Step l { l.setPhase c .running with context := some c, notification := some c }
  | notify (l : Interlock) (c : Nat) : l.phase c = .running →
      Step l { l.setPhase c .notified with notified := Function.update l.notified c true }
  | clear (l : Interlock) (c : Nat) : l.phase c = .notified →
      Step l { l.setPhase c .finished with context := none }

inductive Reachable : Interlock → Prop where
  | init : Reachable init
  | step {l l' : Interlock} : Reachable l → Step l l' → Reachable l'

/-- Between installing and clearing. -/
def Installed (p : Phase) : Prop := p = .running ∨ p = .notified

/-- The protocol's invariant. -/
structure Inv (l : Interlock) : Prop where
  context_iff : ∀ c, l.context = some c ↔ Installed (l.phase c)
  notified_iff : ∀ c, l.notified c = true ↔ l.phase c = .notified ∨ l.phase c = .finished
  notification : ∀ n, l.notification = some n → l.notified n = true ∨ l.context = some n
  prior : ∀ c n, l.phase c = .waiting → l.prior c = some n →
    l.notified n = true ∨ l.context = some n

theorem update_true_of {f : Nat → Bool} {n : Nat} (c : Nat) (h : f n = true) :
    Function.update f c true n = true := by
  by_cases hnc : n = c
  · subst hnc; simp
  · simp [hnc, h]

theorem inv_init : init.Inv :=
  ⟨fun _ => by simp [init, Installed], fun _ => by simp [init], fun _ => by simp [init],
    fun _ _ => by simp [init]⟩

/-- Two installed calls are the same call. -/
theorem Inv.installed_unique {l : Interlock} (hi : l.Inv) {c d : Nat}
    (hc : Installed (l.phase c)) (hd : Installed (l.phase d)) : c = d :=
  Option.some_injective _ (((hi.context_iff c).mpr hc).symm.trans ((hi.context_iff d).mpr hd))

/-- A call moving between two phases that agree on being installed and on being notified
keeps the invariant, whatever else it does to its own `prior`. -/
theorem Inv.setPhase {l : Interlock} (hi : l.Inv) {c : Nat} {p : Phase}
    (hins : Installed p ↔ Installed (l.phase c))
    (hnot : (p = .notified ∨ p = .finished) ↔ (l.phase c = .notified ∨ l.phase c = .finished))
    (hwait : p ≠ .waiting) : (l.setPhase c p).Inv where
  context_iff d := by
    by_cases hd : d = c
    · subst hd; simpa [Interlock.setPhase, hins] using hi.context_iff d
    · simpa [Interlock.setPhase, hd] using hi.context_iff d
  notified_iff d := by
    by_cases hd : d = c
    · subst hd; simpa [Interlock.setPhase, hnot] using hi.notified_iff d
    · simpa [Interlock.setPhase, hd] using hi.notified_iff d
  notification := hi.notification
  prior d n := by
    by_cases hd : d = c
    · subst hd; simp [Interlock.setPhase, hwait]
    · simpa [Interlock.setPhase, hd] using hi.prior d n

theorem Inv.preempt {l : Interlock} (hi : l.Inv) {c : Nat} (hc : ¬Installed (l.phase c))
    (hn : ¬(l.phase c = .notified ∨ l.phase c = .finished)) : (l.preempt c).Inv where
  context_iff d := by
    by_cases hd : d = c
    · subst hd
      simp only [Interlock.preempt, Function.update_same]
      exact ⟨fun h => absurd ((hi.context_iff d).mp h) hc, fun h => by simp [Installed] at h⟩
    · simpa [Interlock.preempt, hd] using hi.context_iff d
  notified_iff d := by
    by_cases hd : d = c
    · subst hd; simpa [Interlock.preempt, hn] using hi.notified_iff d
    · simpa [Interlock.preempt, hd] using hi.notified_iff d
  notification := hi.notification
  prior d n := by
    by_cases hd : d = c
    · subst hd; simpa [Interlock.preempt] using hi.notification n
    · simpa [Interlock.preempt, hd] using hi.prior d n

theorem Inv.step {l l' : Interlock} (hi : l.Inv) (h : Step l l') : l'.Inv := by
  cases h with
  | arrive c hc => exact hi.setPhase (by simp [Installed, hc]) (by simp [hc]) (by simp)
  | lock c hc => exact hi.preempt (by simp [Installed, hc]) (by simp [hc])
  | wake c hc _ => exact hi.setPhase (by simp [Installed, hc]) (by simp [hc]) (by simp)
  | retry c hc _ => exact hi.preempt (by simp [Installed, hc]) (by simp [hc])
  | install c hc hnone =>
    have hnot : ∀ d, ¬Installed (l.phase d) := fun d h => by
      simpa [hnone] using (hi.context_iff d).mpr h
    refine ⟨fun d => ?_, fun d => ?_, fun n hn => ?_, fun d n hd hp => ?_⟩
    · by_cases hd : d = c
      · subst hd; simp [Interlock.setPhase, Installed]
      · simpa [Interlock.setPhase, hd, Ne.symm hd] using hnot d
    · by_cases hd : d = c
      · subst hd; simpa [Interlock.setPhase, hc] using hi.notified_iff d
      · simpa [Interlock.setPhase, hd] using hi.notified_iff d
    · simp only [Option.some.injEq] at hn; subst hn; simp
    · have hdc : d ≠ c := by rintro rfl; simp [Interlock.setPhase] at hd
      have h := hi.prior d n (by simpa [Interlock.setPhase, hdc] using hd) hp
      rw [hnone] at h
      exact .inl (by simpa using h)
  | notify c hc =>
    have hctx := (hi.context_iff c).mpr (.inl hc)
    refine ⟨fun d => ?_, fun d => ?_, fun n hn => ?_, fun d n hd hp => ?_⟩
    · by_cases hd : d = c
      · subst hd; simp [Interlock.setPhase, Installed, hctx]
      · simpa [Interlock.setPhase, hd] using hi.context_iff d
    · by_cases hd : d = c
      · subst hd; simp [Interlock.setPhase]
      · simpa [Interlock.setPhase, hd] using hi.notified_iff d
    · exact (hi.notification n hn).imp (update_true_of c) id
    · have hdc : d ≠ c := by rintro rfl; simp [Interlock.setPhase, hc] at hd
      exact (hi.prior d n (by simpa [Interlock.setPhase, hdc] using hd) hp).imp
        (update_true_of c) id
  | clear c hc =>
    have hctx := (hi.context_iff c).mpr (.inr hc)
    have hnc : l.notified c = true := (hi.notified_iff c).mpr (.inl hc)
    -- a notification that was the installed call's is now notified
    have hfree : ∀ n, (l.notified n = true ∨ l.context = some n) → l.notified n = true := by
      rintro n (h | h)
      · exact h
      · rw [hctx, Option.some.injEq] at h; exact h ▸ hnc
    refine ⟨fun d => ?_, fun d => ?_, fun n hn => .inl (hfree n (hi.notification n hn)),
      fun d n hd hp => .inl (hfree n (hi.prior d n ?_ hp))⟩
    · by_cases hd : d = c
      · subst hd; simp [Interlock.setPhase, Installed]
      · have : ¬Installed (l.phase d) := fun h =>
          hd (Option.some_injective _ (hctx.symm.trans ((hi.context_iff d).mpr h))).symm
        simp [Interlock.setPhase, hd, this]
    · by_cases hd : d = c
      · subst hd; simp [Interlock.setPhase, hnc]
      · simpa [Interlock.setPhase, hd] using hi.notified_iff d
    · have hdc : d ≠ c := by rintro rfl; simp [Interlock.setPhase] at hd
      simpa [Interlock.setPhase, hdc] using hd

theorem inv_reachable {l : Interlock} (h : Reachable l) : l.Inv := by
  induction h with
  | init => exact inv_init
  | step _ hs ih => exact ih.step hs

end Interlock

/-! ## The system refines the protocol -/

/-- The phase of a program counter. -/
def Pc.phase : Pc → Phase
  | .start | .cancelScan _ | .cancelDrain => .outside
  | .lockEntry => .entering
  | .waitPrior => .waiting
  | .relock => .relocking
  | .notify | .checkCancelled _ | .runTest _ | .configureNodes _ | .configureDrain _
  | .introducePeers _ | .introduceDrain _ | .runTraffic _ | .markBusy _ _
  | .issueRunTraffic _ _ _ | .runTrafficDrain _ => .running
  | .clear => .notified
  | .done => .finished

/-- The protocol's view of the system. -/
def Sys.interlock (s : Sys) : Interlock :=
  ⟨fun c => (s.calls c).pc.phase, fun c => (s.calls c).priorNotification, s.runningContext,
    s.runningNotification, s.notified⟩

theorem Sys.interlock_update (s : Sys) (c : Nat) (f : Call → Call) :
    (s.update c f).interlock =
      { s.interlock with
        phase := Function.update s.interlock.phase c (f (s.calls c)).pc.phase
        prior := Function.update s.interlock.prior c (f (s.calls c)).priorNotification } := by
  simp only [Sys.interlock, Interlock.mk.injEq, Sys.update_runningContext,
    Sys.update_runningNotification, Sys.update_notified, and_true, true_and]
  constructor <;> funext d <;> by_cases h : d = c
  all_goals first | (subst h; simp) | simp [h]

/-- A step of call `c` that keeps its phase and its `prior_notification` and touches nothing
of the handle is invisible to the protocol. -/
theorem Sys.interlock_update_stutter (s : Sys) (c : Nat) (f : Call → Call)
    (hp : (f (s.calls c)).pc.phase = (s.calls c).pc.phase)
    (hn : (f (s.calls c)).priorNotification = (s.calls c).priorNotification) :
    (s.update c f).interlock = s.interlock := by
  rw [Sys.interlock_update, hp, hn]
  simp [Sys.interlock]

theorem Sys.interlock_tryCancelRunning (s : Sys) : s.tryCancelRunning.interlock = s.interlock := by
  simp [Sys.interlock]

theorem Sys.interlock_preempt (s : Sys) (c : Nat) :
    (s.preempt c).interlock = s.interlock.preempt c := by
  rw [Sys.preempt, Sys.interlock_update, Sys.interlock_tryCancelRunning]
  rfl

theorem Sys.interlock_setPhase (s : Sys) (c : Nat) (f : Call → Call)
    (hn : (f (s.calls c)).priorNotification = (s.calls c).priorNotification) :
    (s.update c f).interlock = s.interlock.setPhase c (f (s.calls c)).pc.phase := by
  rw [Sys.interlock_update, hn]
  simp [Interlock.setPhase, Sys.interlock]

/-- Every step of the system is a step of the protocol or leaves its view unchanged. -/
theorem Sys.interlock_step {s s' : Sys} {a : Action} {events : List Event}
    (h : step s a = .ok s' events) :
    Interlock.Step s.interlock s'.interlock ∨ s'.interlock = s.interlock := by
  cases a with
  | registerNode request stubOk =>
    simp only [step] at h
    split_ifs at h
    cases h
    exact .inr rfl
  | complete c tag code response =>
    simp only [step, completeCall] at h
    split at h
    · cases h
    · split_ifs at h
      split at h <;> first
        | (cases h; exact .inr (Sys.interlock_update_stutter _ _ _ rfl rfl))
        | cases h
  | run c =>
    simp only [step, runCall] at h
    cases hpc : (s.calls c).pc <;> simp only [hpc] at h
    case cancelDrain =>
      split_ifs at h
      cases h
      refine .inl ?_
      rw [Sys.interlock_setPhase _ _ _ rfl]
      exact .arrive _ _ (by simp [Sys.interlock, hpc, Pc.phase])
    case lockEntry =>
      split_ifs at h
      cases h
      rw [Sys.interlock_preempt]
      exact .inl (.lock _ _ (by simp [Sys.interlock, hpc, Pc.phase]))
    case waitPrior =>
      split_ifs at h with hw
      cases h
      rw [Sys.interlock_setPhase _ _ _ rfl]
      refine .inl (.wake _ _ (by simp [Sys.interlock, hpc, Pc.phase]) fun n hn => ?_)
      simp only [Sys.interlock] at hn ⊢
      simpa [hn] using hw
    case relock =>
      split_ifs at h
      split at h
      · cases h
        rw [Sys.interlock_preempt]
        exact .inl (.retry _ _ (by simp [Sys.interlock, hpc, Pc.phase])
          (by simp [Sys.interlock, *]))
      · cases h
        rw [Sys.interlock_setPhase _ _ _ rfl]
        exact .inl (.install _ _ (by simp [Sys.interlock, hpc, Pc.phase]) ‹_›)
    case notify =>
      cases h
      rw [Sys.interlock_setPhase _ _ _ rfl]
      exact .inl (.notify _ _ (by simp [Sys.interlock, hpc, Pc.phase]))
    case clear =>
      split_ifs at h
      cases h
      rw [Sys.interlock_setPhase _ _ _ rfl]
      exact .inl (.clear _ _ (by simp [Sys.interlock, hpc, Pc.phase]))
    all_goals
      repeat' split at h
      all_goals first
        | (cases h; done)
        | (cases h; exact .inr (Sys.interlock_update_stutter _ _ _ (by simp [hpc, Pc.phase]) rfl))

theorem Sys.interlock_init (requests : Nat → List DistributedSystemDescription) :
    (Sys.init requests).interlock = Interlock.init := rfl

/-- The protocol's view of every reachable state of the system is reachable in the protocol. -/
theorem Sys.interlock_reachable {requests : Nat → List DistributedSystemDescription} {s : Sys}
    (h : Reachable requests s) : Interlock.Reachable s.interlock := by
  induction h with
  | init => rw [Sys.interlock_init]; exact .init
  | step _ hs ih =>
    rcases Sys.interlock_step hs with h' | h'
    · exact ih.step h'
    · rwa [h']

end Distbench
