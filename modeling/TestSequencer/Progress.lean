import TestSequencer.Safety

/-!
# No call is stuck

A `RunTestSequence` call waits in three ways: for `mutex_` (lines 72, 82, 91, 99, 144, 169,
268, 319 and 362), on a prior notification (line 80), and in a drain loop on `cq.Next`.

* `runCall_blocked` — when a step of a call cannot be taken: the call has returned, its drain
  loop waits on a completion, it waits on a notification not yet notified, or it needs
  `mutex_` from outside every section while it is held.
* `CanMove` — a call's next step runs, or its drain loop can take the completion of an
  outstanding tag, whatever the RPC ended with.
* `call_moves` — a call that has not returned, is not waiting on an unnotified notification and
  finds `mutex_` free whenever it needs it, can move.
* `no_call_stuck` — from every reachable state: a holder of `mutex_` can move; with `mutex_`
  free, a call can, unless it waits on a notification not yet notified, whose call is then
  installed and running, and can; so with a call that has not returned, some call can move.
-/

set_option autoImplicit false

namespace Distbench

/-- Call `d` can move: its next step runs, or its drain loop takes the completion of an
outstanding tag, whatever status and response the RPC ended with. -/
def CanMove (s : Sys) (d : Nat) : Prop :=
  (∃ s' events, runCall s d = .ok s' events) ∨
    ∃ tag ∈ (s.calls d).fanOut.outstanding, ∀ code response, ∃ s' events,
      completeCall s d tag code response = .ok s' events

section Progress

variable {s : Sys} {c : Nat}

/-- When the next step of call `c` has to wait. -/
theorem runCall_blocked (h : runCall s c = .blocked) :
    (s.calls c).pc = .done ∨
      ((s.calls c).pc.draining ≠ none ∧ (s.calls c).fanOut.rpcCount ≠ 0) ∨
      ((s.calls c).pc = .waitPrior ∧ (s.calls c).priorNotification.all s.notified = false) ∨
      ((s.calls c).pc.hold = .unlocked ∧ s.lockFree = false) := by
  simp only [runCall] at h
  cases hpc : (s.calls c).pc <;> simp only [hpc] at h
  all_goals
    repeat' split at h
    all_goals first
      | (cases h; done)
      | simp_all [Pc.hold, Pc.draining, Sys.lockFree]

/-- A call that is not waiting on anyone can move. -/
theorem call_moves {requests : Nat → List DistributedSystemDescription}
    (h : Reachable requests s) (hd : (s.calls c).pc ≠ .done)
    (hw : (s.calls c).pc = .waitPrior → (s.calls c).priorNotification.all s.notified = true)
    (hl : (s.calls c).pc.hold = .unlocked → s.lockFree = true) : CanMove s c := by
  cases hr : runCall s c with
  | ok s' events => exact .inl ⟨s', events, hr⟩
  | panic f => exact absurd hr (runCall_ne_panic h)
  | blocked =>
    rcases runCall_blocked hr with hdone | ⟨hk, h0⟩ | ⟨hwp, hn⟩ | ⟨hu, hf⟩
    · exact absurd hdone hd
    · -- the drain loop waits on `cq.Next`: any outstanding tag's completion is taken
      obtain ⟨kind, hkind⟩ := Option.ne_none_iff_exists'.mp hk
      obtain ⟨tag, htag⟩ : ∃ tag, tag ∈ (s.calls c).fanOut.outstanding := by
        cases ho : (s.calls c).fanOut.outstanding with
        | nil => rw [((reachable_inv h).calls c).count, ho] at h0; exact absurd rfl h0
        | cons t _ => exact ⟨t, List.mem_cons_self _ _⟩
      obtain ⟨rpc, hs, -⟩ := (reachable_slotInv h c).tagged.written tag htag
      exact .inr ⟨tag, htag, fun code response =>
        let ⟨s', hs', _⟩ := completeCall_drain code response hkind hs htag
        ⟨s', _, hs'⟩⟩
    · rw [hw hwp] at hn
      cases hn
    · rw [hl hu] at hf
      cases hf

/-- A call waiting on a notification not yet notified waits on an installed, running call. -/
theorem prior_running {requests : Nat → List DistributedSystemDescription}
    (h : Reachable requests s) {n : Nat} (hwp : (s.calls c).pc = .waitPrior)
    (hprior : (s.calls c).priorNotification = some n) (hn : s.notified n = false) :
    (s.calls n).pc.phase = .running := by
  have hi := Interlock.inv_reachable (Sys.interlock_reachable h)
  have hw : s.interlock.phase c = .waiting := by simp [Sys.interlock, hwp, Pc.phase]
  rcases hi.prior c n hw hprior with hnot | hctx
  · simp [Sys.interlock, hn] at hnot
  · rcases (hi.context_iff n).mp hctx with hr | hr
    · exact hr
    · have := (hi.notified_iff n).mpr (.inl hr)
      simp [Sys.interlock, hn] at this

/-- A holder of `mutex_` never waits on anything but `cq.Next`. -/
theorem holder_moves {requests : Nat → List DistributedSystemDescription}
    (h : Reachable requests s) (hd : (s.calls c).pc.hold ≠ .unlocked) : CanMove s c :=
  call_moves h (fun hdone => hd (by rw [hdone]; rfl)) (fun hwp => absurd (by rw [hwp]; rfl) hd)
    fun hu => absurd hu hd

/-- The call whose notification a waiter waits on is running, and moves once `mutex_` is
free. -/
theorem owner_moves {requests : Nat → List DistributedSystemDescription}
    (h : Reachable requests s) {n : Nat} (hwp : (s.calls c).pc = .waitPrior)
    (hprior : (s.calls c).priorNotification = some n) (hn : s.notified n = false) :
    (s.calls n).pc.phase = .running ∧ (s.lockFree = true → CanMove s n) := by
  have hrun := prior_running h hwp hprior hn
  refine ⟨hrun, fun hf => call_moves h (fun hd => ?_) (fun hwn => ?_) fun _ => hf⟩
  · rw [hd] at hrun; cases hrun
  · rw [hwn] at hrun; cases hrun

/-- While `mutex_` is held, some call holds it. -/
theorem exists_holder {requests : Nat → List DistributedSystemDescription}
    (h : Reachable requests s) (hf : s.lockFree = false) :
    ∃ d, (s.calls d).pc.hold ≠ .unlocked := by
  have hl := reachable_lockInv h
  cases hwr : s.writer with
  | some w => exact ⟨w, by rw [(hl.writer w).mp hwr]; decide⟩
  | none =>
    cases hrd : s.readers with
    | nil => simp [Sys.lockFree, hwr, hrd] at hf
    | cons r _ => exact ⟨r, by rw [(hl.readers r).mp (by simp [hrd])]; decide⟩

/-- **No call is stuck**, over every interleaving. From every reachable state: a holder of
`mutex_` can move; with `mutex_` free, a call that has not returned can move unless it waits at
line 80 on a notification not yet notified; the call owning that notification is then
installed and running, and can move once `mutex_` is free. So whenever some call has not
returned, some call can move — its next step runs, or its drain loop takes the completion of an
outstanding tag whatever the RPC ended with: the sequencer waits only on RPC completions, never
on itself. -/
theorem no_call_stuck {requests : Nat → List DistributedSystemDescription}
    (h : Reachable requests s) :
    (∀ d, (s.calls d).pc.hold ≠ .unlocked → CanMove s d) ∧
    (s.lockFree = true → ∀ d, (s.calls d).pc ≠ .done →
      ((s.calls d).pc = .waitPrior → (s.calls d).priorNotification.all s.notified = true) →
        CanMove s d) ∧
    (∀ d n, (s.calls d).pc = .waitPrior → (s.calls d).priorNotification = some n →
      s.notified n = false → (s.calls n).pc.phase = .running ∧ (s.lockFree = true → CanMove s n)) ∧
    (∀ c, (s.calls c).pc ≠ .done → ∃ d, CanMove s d) := by
  refine ⟨fun d hd => holder_moves h hd, fun hf d hd hw => call_moves h hd hw fun _ => hf,
    fun d n hwp hp hn => owner_moves h hwp hp hn, fun c hc => ?_⟩
  by_cases hf : s.lockFree = true
  · by_cases hw : (s.calls c).pc = .waitPrior ∧
        (s.calls c).priorNotification.all s.notified = false
    · -- `c` waits on the notification of call `n`, which is running and finds `mutex_` free
      obtain ⟨hwp, hn⟩ := hw
      cases hp : (s.calls c).priorNotification with
      | none => rw [hp] at hn; cases hn
      | some n =>
        rw [hp] at hn
        exact ⟨n, (owner_moves h hwp hp (by simpa using hn)).2 hf⟩
    · exact ⟨c, call_moves h hc (fun hwp => by simpa [hwp] using hw) fun _ => hf⟩
  · -- some call holds `mutex_`
    obtain ⟨d, hd⟩ := exists_holder h (by simpa using hf)
    exact ⟨d, holder_moves h hd⟩

end Progress

/-- Call 0 is installed and running; call 1 has cancelled it and waits at line 80 on its
notification. `mutex_` is free, and call 0 can move. -/
theorem no_call_stuck_contended :
    ∃ s events, exec (Sys.init fun _ => [])
        (List.replicate 6 (.run 0) ++ List.replicate 4 (.run 1)) = .ok s events ∧
      (s.calls 1).pc = .waitPrior ∧ (s.calls 1).priorNotification = some 0 ∧
      s.notified 0 = false ∧ s.lockFree = true ∧ (s.calls 0).pc.phase = .running ∧ CanMove s 0 :=
  by
  obtain ⟨-, -, hwait, -⟩ := no_call_stuck (@reachable_of_exec (fun _ => []) _ _
    (List.replicate 6 (Action.run 0) ++ List.replicate 4 (Action.run 1)) _ .init rfl)
  obtain ⟨hrun, hmove⟩ := hwait 1 0 rfl rfl rfl
  exact ⟨_, _, rfl, rfl, rfl, rfl, rfl, hrun, hmove rfl⟩

end Distbench
