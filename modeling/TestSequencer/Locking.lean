import TestSequencer.FanOutRuns

/-!
# `mutex_` across every interleaving

`CancelTraffic` and `RunTraffic` hold `mutex_` shared (`absl::ReaderMutexLock`, lines 99 and
362), `ConfigureNodes` and `IntroducePeers` exclusively (`absl::MutexLock`, lines 268 and 319),
each from its dispatch loop to its return. The system records the holders in `writer` and
`readers`.

* `Pc.hold` — how the code holds `mutex_` at each program counter.
* `LockMove` — what one step of a call does to `mutex_`; `runCall_lockMove` — every step of
  a call is one of these.
* `LockInv` — the recorded holders are exactly the calls whose program counter is inside a
  section, each reader once, and an exclusive holder has no readers beside it.
* `mutex_ownership` — it holds in every reachable state (no path out of a section, error
  returns included, leaves `mutex_` held, and no call is inside a section without it), so
  while a call is in the drain loop of `ConfigureNodes` or `IntroducePeers` every other call is
  outside all four sections.
* `layout_fixed_while_locked` — while any call holds `mutex_`, no step changes `node_map_`
  (its keys, their order, registrations and stubs) or `node_id_map_`; only `idle` flags change.
-/

set_option autoImplicit false

namespace Distbench

/-- How a call holds `mutex_`. -/
inductive Hold where
  | unlocked
  | shared
  | exclusive
  deriving DecidableEq, Repr

/-- How the code holds `mutex_` at a program counter, across steps. -/
def Pc.hold : Pc → Hold
  | .cancelScan _ | .cancelDrain | .markBusy _ _ | .issueRunTraffic _ _ _
  | .runTrafficDrain _ => .shared
  | .configureDrain _ | .introduceDrain _ => .exclusive
  | _ => .unlocked

/-- The holders `mutex_` records are the calls inside a section. -/
structure LockInv (s : Sys) : Prop where
  writer : ∀ c, s.writer = some c ↔ (s.calls c).pc.hold = .exclusive
  readers : ∀ c, c ∈ s.readers ↔ (s.calls c).pc.hold = .shared
  nodup : s.readers.Nodup
  exclusive : s.writer.isSome → s.readers = []

/-- What one step of call `c` does to `mutex_`. -/
inductive LockMove (s s' : Sys) (c : Nat) : Prop where
  /-- `mutex_` is not taken or released, and `c` stays inside or outside its section. -/
  | keep : s'.writer = s.writer → s'.readers = s.readers →
      (s'.calls c).pc.hold = (s.calls c).pc.hold → LockMove s s' c
  /-- `ReaderMutexLock` constructed: no writer. -/
  | lockShared : s.writer = none → s'.writer = none → s'.readers = c :: s.readers →
      (s.calls c).pc.hold = .unlocked → (s'.calls c).pc.hold = .shared → LockMove s s' c
  /-- `ReaderMutexLock` destroyed. -/
  | unlockShared : s'.writer = s.writer → s'.readers = s.readers.erase c →
      (s.calls c).pc.hold = .shared → (s'.calls c).pc.hold = .unlocked → LockMove s s' c
  /-- `MutexLock` constructed: no holder at all. -/
  | lock : s.lockFree = true → s'.writer = some c → s'.readers = s.readers →
      (s.calls c).pc.hold = .unlocked → (s'.calls c).pc.hold = .exclusive → LockMove s s' c
  /-- `MutexLock` destroyed. -/
  | unlock : s'.writer = none → s'.readers = s.readers →
      (s.calls c).pc.hold = .exclusive → (s'.calls c).pc.hold = .unlocked → LockMove s s' c

/-! ## Every step is a lock move -/

section Move

variable {s s' : Sys} {c : Nat} {events : List Event}

theorem Sys.preempt_lock (s : Sys) (c : Nat) :
    (s.preempt c).writer = s.writer ∧ (s.preempt c).readers = s.readers := by
  unfold Sys.preempt Sys.tryCancelRunning
  split <;> exact ⟨rfl, rfl⟩

/-- The steps of call `c` itself. -/
theorem runCall_lockMove (h : runCall s c = .ok s' events) : LockMove s s' c := by
  simp only [runCall] at h
  have hin : ∀ p : Pc, (s.calls c).pc = p → (s.calls c).pc.hold = p.hold := fun _ hp => hp ▸ rfl
  cases hpc : (s.calls c).pc <;> simp only [hpc] at h
  case start | runTraffic i =>
    split_ifs at h with hw
    cases h
    exact .lockShared (Option.isNone_iff_eq_none.mp hw) (Option.isNone_iff_eq_none.mp hw) rfl
      (hin _ hpc) (by simp [Pc.hold])
  case configureNodes i | introducePeers i =>
    split_ifs at h with hl
    split at h <;> cases h
    exact .lock hl rfl rfl (hin _ hpc) (by simp [Pc.hold])
  case cancelDrain | runTrafficDrain i =>
    repeat' split at h
    all_goals cases h <;>
      exact .unlockShared rfl rfl (hin _ hpc) (by simp [Pc.hold, Sys.finishSequence])
  case configureDrain i | introduceDrain i =>
    repeat' split at h
    all_goals cases h <;> exact .unlock rfl rfl (hin _ hpc) (by simp [Pc.hold, Sys.finishSequence])
  all_goals
    repeat' split at h
    all_goals first
      | (cases h; done)
      | (cases h; exact .keep (Sys.preempt_lock s c).1 (Sys.preempt_lock s c).2
          (by simp [hpc, Pc.hold, Sys.preempt]))
      | (cases h; exact .keep rfl rfl (by simp [hpc, Pc.hold, Sys.finishSequence]))

/-- A completion does not touch `mutex_`. -/
theorem completeCall_lock {tag : Nat} {code : StatusCode} {response : ProtoMap String}
    (h : completeCall s c tag code response = .ok s' events) :
    s'.writer = s.writer ∧ s'.readers = s.readers := by
  simp only [completeCall] at h
  repeat' split at h
  all_goals first | (cases h; done) | (cases h; exact ⟨rfl, rfl⟩)

end Move

/-! ## The invariant -/

namespace LockInv

variable {s s' : Sys} {c : Nat}

/-- A step that touches neither `mutex_` nor whether any call is inside a section. -/
theorem frame (hl : LockInv s) (hw : s'.writer = s.writer) (hr : s'.readers = s.readers)
    (hp : ∀ d, (s'.calls d).pc.hold = (s.calls d).pc.hold) : LockInv s' where
  writer d := by rw [hw, hp d]; exact hl.writer d
  readers d := by rw [hr, hp d]; exact hl.readers d
  nodup := hr ▸ hl.nodup
  exclusive h := hr ▸ hl.exclusive (hw ▸ h)

theorem not_reader_of_unlocked (hl : LockInv s) (hc : (s.calls c).pc.hold ≠ .shared) :
    c ∉ s.readers :=
  fun h => hc ((hl.readers c).mp h)

theorem writer_ne_of_unlocked (hl : LockInv s) (hc : (s.calls c).pc.hold ≠ .exclusive) :
    s.writer ≠ some c :=
  fun h => hc ((hl.writer c).mp h)

/-- A lock move of call `c`, every other call standing still, keeps the invariant. -/
theorem move (hl : LockInv s) (hm : LockMove s s' c)
    (hother : ∀ d, d ≠ c → s'.calls d = s.calls d) : LockInv s' := by
  have hold : ∀ d, d ≠ c → (s'.calls d).pc.hold = (s.calls d).pc.hold :=
    fun d hd => by rw [hother d hd]
  cases hm with
  | keep hw hr hc =>
    exact hl.frame hw hr fun d => if hd : d = c then hd ▸ hc else hold d hd
  | lockShared hw hw' hr hc hc' =>
    refine ⟨fun d => ?_, fun d => ?_, ?_, fun hs => by simp [hw'] at hs⟩
    · rw [hw']
      by_cases hd : d = c
      · subst hd; simp [hc']
      · rw [hold d hd, ← hl.writer d, hw]
    · rw [hr, List.mem_cons]
      by_cases hd : d = c
      · subst hd; simp [hc']
      · rw [hold d hd, ← hl.readers d]; simp [hd]
    · rw [hr]
      exact List.nodup_cons.mpr ⟨hl.not_reader_of_unlocked (by simp [hc]), hl.nodup⟩
  | unlockShared hw hr hc hc' =>
    refine ⟨fun d => ?_, fun d => ?_, hr ▸ hl.nodup.erase c, fun hs => ?_⟩
    · rw [hw]
      by_cases hd : d = c
      · subst hd; simp [hc', hl.writer_ne_of_unlocked (c := d) (by simp [hc])]
      · rw [hold d hd]; exact hl.writer d
    · rw [hr]
      by_cases hd : d = c
      · subst hd; simp [hc', hl.nodup.not_mem_erase]
      · rw [hold d hd, List.mem_erase_of_ne hd]; exact hl.readers d
    · rw [hr, hl.exclusive (hw ▸ hs)]; rfl
  | lock hf hw hr hc hc' =>
    simp only [Sys.lockFree, Bool.and_eq_true, Option.isNone_iff_eq_none,
      List.isEmpty_iff] at hf
    refine ⟨fun d => ?_, fun d => ?_, hr ▸ hl.nodup, fun _ => hr.trans hf.2⟩
    · rw [hw]
      by_cases hd : d = c
      · subst hd; simp [hc']
      · rw [hold d hd, ← hl.writer d, hf.1]; simp [Ne.symm hd]
    · rw [hr]
      by_cases hd : d = c
      · subst hd; simp [hc', hf.2]
      · rw [hold d hd, ← hl.readers d]
  | unlock hw hr hc hc' =>
    refine ⟨fun d => ?_, fun d => ?_, hr ▸ hl.nodup, fun hs => by simp [hw] at hs⟩
    · rw [hw]
      by_cases hd : d = c
      · subst hd; simp [hc']
      · have hc₀ := (hl.writer c).mpr hc
        rw [hold d hd, ← hl.writer d, hc₀]; simp [Ne.symm hd]
    · rw [hr]
      by_cases hd : d = c
      · subst hd; simp [hc', hl.not_reader_of_unlocked (c := d) (by simp [hc])]
      · rw [hold d hd]; exact hl.readers d

/-- Every step keeps the invariant. -/
theorem next {a : Action} {events : List Event} (hl : LockInv s)
    (h : step s a = .ok s' events) : LockInv s' := by
  cases a with
  | registerNode request stubOk =>
    simp only [step] at h
    split_ifs at h
    cases h
    exact ⟨hl.writer, hl.readers, hl.nodup, hl.exclusive⟩
  | complete d tag code response =>
    obtain ⟨hw, hr⟩ := completeCall_lock h
    refine hl.frame hw hr fun e => ?_
    by_cases he : e = d
    · subst he; rw [(completeCall_pc h).1]
    · rw [completeCall_calls_ne h he]
  | run d => exact hl.move (runCall_lockMove h) fun e he => runCall_calls_ne h he

/-- A call holding `mutex_` exclusively has it to itself. -/
theorem alone (hl : LockInv s) {d : Nat} (hcd : c ≠ d)
    (hc : (s.calls c).pc.hold = .exclusive) : (s.calls d).pc.hold = .unlocked := by
  have hw := (hl.writer c).mpr hc
  cases hd : (s.calls d).pc.hold with
  | unlocked => rfl
  | shared =>
    have hr := (hl.readers d).mpr hd
    rw [hl.exclusive (by simp [hw])] at hr
    cases hr
  | exclusive =>
    have hw' := (hl.writer d).mpr hd
    rw [hw] at hw'
    exact absurd (Option.some.inj hw') hcd

/-- While some call holds `mutex_`, `mutex_` is not free. -/
theorem not_lockFree (hl : LockInv s) (hc : (s.calls c).pc.hold ≠ .unlocked) :
    s.lockFree = false := by
  cases hh : (s.calls c).pc.hold with
  | unlocked => exact absurd hh hc
  | shared =>
    have := (hl.readers c).mpr hh
    cases hr : s.readers with
    | nil => simp [hr] at this
    | cons _ _ => simp [Sys.lockFree, hr]
  | exclusive => simp [Sys.lockFree, (hl.writer c).mpr hh]

end LockInv

theorem lockInv_init (requests : Nat → List DistributedSystemDescription) :
    LockInv (Sys.init requests) where
  writer c := by simp [Sys.init, Call.init, Pc.hold]
  readers c := by simp [Sys.init, Call.init, Pc.hold]
  nodup := List.nodup_nil
  exclusive _ := rfl

theorem reachable_lockInv {requests : Nat → List DistributedSystemDescription} {s : Sys}
    (h : Reachable requests s) : LockInv s := by
  induction h with
  | init => exact lockInv_init requests
  | step _ hs ih => exact ih.next hs

/-- **`mutex_` is held exactly inside the four sections**, over every interleaving: the
exclusive holder is the one call in the drain loop of `ConfigureNodes` or `IntroducePeers`, the
shared holders are the calls inside `CancelTraffic` or `RunTraffic`, each recorded once, and an
exclusive holder has no reader beside it. So `ConfigureNodes` and `IntroducePeers` run alone:
while one call is in the drain loop of either, every other call is outside all four
sections. -/
theorem mutex_ownership {requests : Nat → List DistributedSystemDescription} {s : Sys}
    (h : Reachable requests s) :
    LockInv s ∧ ∀ c d, c ≠ d → (s.calls c).pc.hold = .exclusive →
      (s.calls d).pc.hold = .unlocked :=
  ⟨reachable_lockInv h, fun _ _ hcd hc => (reachable_lockInv h).alone hcd hc⟩

/-- Call 0 in the drain loop of `ConfigureNodes` holds `mutex_` exclusively; call 1 is outside
every section. -/
theorem mutex_ownership_configuring :
    ∃ s events, exec (Sys.init fun _ => [⟨[⟨"A", 1⟩], ProtoMap.empty⟩])
        (.registerNode ⟨"h0", 7, ""⟩ true :: List.replicate 10 (.run 0)) = .ok s events ∧
      (s.calls 0).pc = .configureDrain 0 ∧ s.writer = some 0 ∧ (s.calls 1).pc.hold = .unlocked ∧
      (LockInv s ∧ ∀ c d, c ≠ d → (s.calls c).pc.hold = .exclusive →
        (s.calls d).pc.hold = .unlocked) :=
  ⟨_, _, rfl, rfl, rfl, rfl, mutex_ownership (@reachable_of_exec
    (fun _ => [⟨[⟨"A", 1⟩], ProtoMap.empty⟩]) _ _
    (.registerNode ⟨"h0", 7, ""⟩ true :: List.replicate 10 (.run 0)) _ .init rfl)⟩

/-! ## `node_map_` under `mutex_` -/

/-- `node_map_` in iteration order with the `idle` flags left out. -/
def Registry.layout (r : Registry) : List (String × NodeRegistration × Option Stub) :=
  r.nodeMap.entries.map fun e => (e.1, e.2.registration, e.2.stub)

theorem layout_adjustEntries (k : String) (b : Bool) :
    ∀ l : List (String × Node),
      (adjustEntries k (fun n => { n with idle := b }) l).map
          (fun e => (e.1, e.2.registration, e.2.stub)) =
        l.map fun e => (e.1, e.2.registration, e.2.stub)
  | [] => rfl
  | (k', v) :: t => by
    simp only [adjustEntries, List.map_cons, layout_adjustEntries k b t]
    split_ifs <;> rfl

theorem Registry.keys_of_layout {r r' : Registry} (h : r'.layout = r.layout) :
    r'.nodeMap.keys = r.nodeMap.keys := by
  simpa [Registry.layout, StdMap.keys, List.map_map] using congrArg (List.map Prod.fst) h

theorem Registry.size_of_layout {r r' : Registry} (h : r'.layout = r.layout) :
    r'.nodeMap.size = r.nodeMap.size := by
  simpa [Registry.layout, StdMap.size] using congrArg List.length h

theorem Sys.setIdle_layout (s : Sys) (node : String) (b : Bool) :
    (s.setIdle node b).registry.layout = s.registry.layout :=
  layout_adjustEntries node b s.registry.nodeMap.entries

section Layout

variable {s s' : Sys} {events : List Event}

/-- Every step but a `RegisterNode` past its validation, which needs `mutex_` free, leaves
`node_map_` as it was but for `idle` flags, and `node_id_map_` as it was. -/
theorem step_layout {a : Action} (h : step s a = .ok s' events) :
    (s'.registry.layout = s.registry.layout ∧ s'.registry.nodeIdMap = s.registry.nodeIdMap) ∨
      ∃ request stubOk, a = .registerNode request stubOk ∧ s.lockFree = true := by
  cases a with
  | registerNode request stubOk =>
    by_cases hf : s.lockFree = true
    · exact .inr ⟨request, stubOk, rfl, hf⟩
    simp only [step] at h
    split_ifs at h with hv
    cases h
    rw [registerNode_invalid (hv.resolve_right hf)]
    exact .inl ⟨rfl, rfl⟩
  | complete d tag code response =>
    simp only [step, completeCall] at h
    repeat' split at h
    all_goals first
      | (cases h; done)
      | (cases h; exact .inl ⟨by simp [Sys.setIdle_layout], rfl⟩)
  | run d =>
    simp only [step, runCall] at h
    repeat' split at h
    all_goals first
      | (cases h; done)
      | (cases h; exact .inl ⟨by simp [Sys.preempt, Sys.finishSequence, Sys.setIdle_layout],
          by simp [Sys.preempt, Sys.finishSequence, Sys.setIdle]⟩)

theorem LockInv.layout_fixed {a : Action} {c : Nat} (hl : LockInv s)
    (hc : (s.calls c).pc.hold ≠ .unlocked) (hs : step s a = .ok s' events) :
    s'.registry.layout = s.registry.layout ∧ s'.registry.nodeIdMap = s.registry.nodeIdMap := by
  rcases step_layout hs with h' | ⟨_, _, -, hf⟩
  · exact h'
  · rw [hl.not_lockFree hc] at hf
    cases hf

/-- **`node_map_` stays put while `mutex_` is held**: in every reachable state where some call
is inside `CancelTraffic`, `ConfigureNodes`, `IntroducePeers` or `RunTraffic`, no step changes
`node_id_map_`, nor `node_map_` beyond its `idle` flags: the keys a dispatch loop walks by
position, their order, registrations and stubs stay as they are. -/
theorem layout_fixed_while_locked {requests : Nat → List DistributedSystemDescription}
    {a : Action} {c : Nat} (h : Reachable requests s) (hc : (s.calls c).pc.hold ≠ .unlocked)
    (hs : step s a = .ok s' events) :
    s'.registry.layout = s.registry.layout ∧ s'.registry.nodeIdMap = s.registry.nodeIdMap :=
  (reachable_lockInv h).layout_fixed hc hs

end Layout

/-- Call 0's `RunTraffic` marks `node0` busy: `idle` changes, the layout does not. -/
theorem layout_fixed_while_locked_mark_busy :
    ∃ s s' events events', exec (Sys.init fun _ => [⟨[⟨"A", 1⟩], ProtoMap.empty⟩])
        (.registerNode ⟨"h0", 7, ""⟩ true :: List.replicate 10 (.run 0) ++
          .complete 0 0 .OK ProtoMap.empty :: List.replicate 2 (.run 0) ++
          .complete 0 0 .OK ProtoMap.empty :: List.replicate 2 (.run 0)) = .ok s events ∧
      step s (.run 0) = .ok s' events' ∧ (s.calls 0).pc.hold ≠ .unlocked ∧
      s'.registry.layout = s.registry.layout ∧ s'.registry.nodeIdMap = s.registry.nodeIdMap :=
  ⟨_, _, _, _, rfl, rfl, by decide, layout_fixed_while_locked (a := .run 0) (c := 0) (@reachable_of_exec
    (fun _ => [⟨[⟨"A", 1⟩], ProtoMap.empty⟩]) _ _
    (.registerNode ⟨"h0", 7, ""⟩ true :: List.replicate 10 (Action.run 0) ++
      .complete 0 0 .OK ProtoMap.empty :: List.replicate 2 (Action.run 0) ++
      .complete 0 0 .OK ProtoMap.empty :: List.replicate 2 (Action.run 0)) _ .init rfl)
    (by decide) rfl⟩

end Distbench
