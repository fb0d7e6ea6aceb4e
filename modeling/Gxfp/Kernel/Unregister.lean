import Gxfp.Kernel.Rxq

/-!
# Removal of `/dev/gxfp` under readers

Embeds `gxfp_uapi_unregister` beside the readers of the receive queue, with the
interrupt already disabled as `gxfp_platform_remove` leaves it: nothing is
pushed any more, and no signal arrives.  A file that is still open keeps its
readers, so `gxfp_uapi_read` can be called and continued at any time.

A reader keeps `rxq_mutex` while it sleeps for a record.  The flag that would
wake it is cleared by `gxfp_uapi_unregister` under the same mutex, so a reader
that takes the mutex of an empty queue stops the removal for good.
-/

namespace Gxfp.Kernel

open Lib.Bytes
open Lib.Execution
open Gxfp.Errno

/-! ## The machine -/

/-- Where `gxfp_uapi_unregister` stands. -/
inductive UnregisterPc
  | notCalled
  /-- At `misc_deregister`. -/
  | deregister
  /-- At the test of `rxq_inited`. -/
  | check
  /-- At `mutex_lock`. -/
  | lock
  /-- At the section under `rxq_lock`. -/
  | teardown
  /-- At `mutex_unlock`. -/
  | unlock
  | returned
  deriving DecidableEq, Repr

/-- The receive queue during a removal. -/
structure Removal where
  rxq : Rxq
  miscRegistered : Bool
  pc : UnregisterPc

/-- What can happen next. -/
inductive RemovalAction
  /-- A thread enters `gxfp_uapi_read` on a blocking file. -/
  | callRead (tid : Tid) (count : Nat)
  /-- A reader takes its next step; `fault` is a failing `kmalloc` or
  `copy_to_user`. -/
  | runReader (tid : Tid) (fault : Bool)
  | callUnregister
  | runUnregister
  deriving DecidableEq, Repr

/-- The faults that are left without signals. -/
def readerFault (pc : RxqPc) (fault : Bool) : Bool :=
  match pc with
  | .readAlloc _ => fault
  | .readCopy _ _ => fault
  | _ => false

/-- The next step of `gxfp_uapi_unregister`, in thread `remover`. -/
def unregisterStep (remover : Tid) (state : Removal) : Removal :=
  match state.pc with
  | .notCalled => state
  | .deregister => { state with miscRegistered := false, pc := .check }
  | .check => { state with pc := if state.rxq.inited then .lock else .returned }
  | .lock =>
      if state.rxq.mutex.isSome then
        state
      else
        { state with rxq := { state.rxq with mutex := some remover }, pc := .teardown }
  | .teardown =>
      { state with
        rxq := { state.rxq with inited := false, fifo := state.rxq.fifo.reset }, pc := .unlock }
  | .unlock => { state with rxq := { state.rxq with mutex := none }, pc := .returned }
  | .returned => state

/-- One step of the machine; `remover` reads nothing. -/
def removalStep (remover : Tid) (state : Removal) : RemovalAction → Removal × List RxqEvent
  | .callRead tid count =>
      if tid = remover then
        (state, [])
      else
        let out := rxqStep state.rxq (.callRead tid count false)
        ({ state with rxq := out.1 }, out.2)
  | .runReader tid fault =>
      if tid = remover then
        (state, [])
      else
        let out := threadStep state.rxq tid (readerFault (state.rxq.pc tid) fault)
        ({ state with rxq := out.1 }, out.2)
  | .callUnregister =>
      if state.pc ≠ .notCalled then
        (state, [])
      else if !state.miscRegistered && !state.rxq.inited then
        ({ state with pc := .returned }, [])
      else
        ({ state with pc := .deregister }, [])
  | .runUnregister => (unregisterStep remover state, [])

/-- A registered device with the interrupt disabled and nobody inside. -/
def removalStart (fifo : Lib.Fifo Byte) : Removal where
  rxq := { uapiRegister with fifo := fifo }
  miscRegistered := true
  pc := .notCalled

/-- `gxfp_uapi_unregister` waits for `rxq_mutex`, and the reader that holds it
sleeps on a condition that is false. -/
def Removal.Deadlocked (state : Removal) : Prop :=
  state.pc = .lock ∧ ∃ tid count, state.rxq.mutex = some tid ∧
    state.rxq.pc tid = .readSleep count false ∧
    ((state.rxq.inited && !state.rxq.fifo.isEmpty) || !state.rxq.inited) = false

/-- A reader is about to take the free mutex of an empty queue. -/
def Removal.TakesEmpty (remover : Tid) (state : Removal) : RemovalAction → Prop
  | .runReader tid _ =>
      tid ≠ remover ∧ (∃ count, state.rxq.pc tid = .readLock count false) ∧
        state.rxq.mutex = none ∧ state.rxq.inited = true ∧ state.rxq.fifo.isEmpty = true
  | _ => False

instance (pc : RxqPc) : Decidable (∃ count, pc = .readLock count false) :=
  match pc with
  | .readLock count false => isTrue ⟨count, rfl⟩
  | .readLock _ true | .idle | .readWait _ _ | .readSleep _ _ | .readPeek _ | .readAlloc _
  | .readPop _ | .readCopy _ _ | .readUnlock _ | .flushLock | .flushReset | .flushUnlock =>
      isFalse nofun

instance (remover : Tid) (state : Removal) (action : RemovalAction) :
    Decidable (state.TakesEmpty remover action) :=
  match action with
  | .runReader _ _ => inferInstanceAs (Decidable (_ ∧ _ ∧ _ ∧ _ ∧ _))
  | .callRead _ _ | .callUnregister | .runUnregister => inferInstanceAs (Decidable False)

/-! ## What a reader can do -/

/-- The thread holds `rxq_mutex`. -/
def RxqPc.holdsMutex : RxqPc → Bool
  | .idle => false
  | .readLock _ _ => false
  | .flushLock => false
  | _ => true

/-- The thread waits for a record. -/
def RxqPc.waiting : RxqPc → Bool
  | .readWait _ _ => true
  | .readSleep _ _ => true
  | _ => false

/-- The thread is in a blocking read or outside any call. -/
def RxqPc.blockingRead : RxqPc → Bool
  | .readLock _ nonblock => !nonblock
  | .readWait _ nonblock => !nonblock
  | .readSleep _ nonblock => !nonblock
  | .flushLock => false
  | .flushReset => false
  | .flushUnlock => false
  | _ => true

/-- All a blocking reader can do without signals. -/
inductive ReaderStep (rxq : Rxq) (tid : Tid) : Rxq → Prop
  | stay : ReaderStep rxq tid rxq
  | lock {count : Nat} (at_ : rxq.pc tid = .readLock count false) (free : rxq.mutex = none) :
      ReaderStep rxq tid { rxq.goto tid (.readWait count false) with mutex := some tid }
  | move {pc : RxqPc} (held : (rxq.pc tid).holdsMutex = true) (holds : pc.holdsMutex = true)
      (blocking : pc.blockingRead = true)
      (waited : pc.waiting = true → (rxq.pc tid).waiting = true) :
      ReaderStep rxq tid (rxq.goto tid pc)
  | pop {need : Nat} {tmp : List Byte} (at_ : rxq.pc tid = .readPop need) :
      ReaderStep rxq tid
        { rxq.goto tid (.readCopy need tmp) with fifo := rxq.fifo.drop need }
  | unlock (held : (rxq.pc tid).holdsMutex = true) : ReaderStep rxq tid (rxq.unlock tid)

theorem uapiWaitNonempty_pc (rxq : Rxq) (count : Nat) :
    (uapiWaitNonempty rxq count false).holdsMutex = true ∧
      (uapiWaitNonempty rxq count false).blockingRead = true := by
  unfold uapiWaitNonempty
  split
  · exact ⟨rfl, rfl⟩
  · split
    · exact ⟨rfl, rfl⟩
    · exact ⟨rfl, rfl⟩

theorem uapiPeekNeed_pc (rxq : Rxq) (count : Nat) :
    (uapiPeekNeed rxq count).holdsMutex = true ∧
      (uapiPeekNeed rxq count).blockingRead = true ∧ (uapiPeekNeed rxq count).waiting = false := by
  unfold uapiPeekNeed
  split
  · exact ⟨rfl, rfl, rfl⟩
  · split
    · exact ⟨rfl, rfl, rfl⟩
    · split
      · exact ⟨rfl, rfl, rfl⟩
      · dsimp only
        split
        · exact ⟨rfl, rfl, rfl⟩
        · split
          · exact ⟨rfl, rfl, rfl⟩
          · exact ⟨rfl, rfl, rfl⟩

/-- A step of a blocking reader is one of the listed ones. -/
theorem threadStep_readerStep {rxq : Rxq} {tid : Tid}
    (blocking : (rxq.pc tid).blockingRead = true) (fault : Bool) :
    ReaderStep rxq tid (threadStep rxq tid (readerFault (rxq.pc tid) fault)).1 := by
  unfold threadStep
  cases pcEq : rxq.pc tid with
  | idle => exact .stay
  | readLock count nonblock =>
      rw [pcEq] at blocking
      obtain rfl : nonblock = false := by simpa [RxqPc.blockingRead] using blocking
      have noSignal : readerFault (.readLock count false) fault = false := rfl
      dsimp only
      rw [noSignal, if_neg Bool.false_ne_true]
      by_cases taken : rxq.mutex.isSome = true
      · rw [if_pos taken]
        exact .stay
      · rw [if_neg taken]
        exact .lock pcEq (Option.not_isSome_iff_eq_none.mp taken)
  | readWait count nonblock =>
      rw [pcEq] at blocking
      obtain rfl : nonblock = false := by simpa [RxqPc.blockingRead] using blocking
      obtain ⟨holds, staysBlocking⟩ := uapiWaitNonempty_pc rxq count
      exact .move (by rw [pcEq]; rfl) holds staysBlocking fun _ => by rw [pcEq]; rfl
  | readSleep count nonblock =>
      rw [pcEq] at blocking
      obtain rfl : nonblock = false := by simpa [RxqPc.blockingRead] using blocking
      have noSignal : readerFault (.readSleep count false) fault = false := rfl
      dsimp only
      rw [noSignal, if_neg Bool.false_ne_true]
      split
      · exact .move (by rw [pcEq]; rfl) rfl rfl fun _ => by rw [pcEq]; rfl
      · exact .stay
  | readPeek count =>
      obtain ⟨holds, staysBlocking, notWaiting⟩ := uapiPeekNeed_pc rxq count
      refine .move (by rw [pcEq]; rfl) holds staysBlocking ?_
      intro waits
      rw [notWaiting] at waits
      cases waits
  | readAlloc need =>
      dsimp only
      split
      · exact .move (by rw [pcEq]; rfl) rfl rfl Bool.noConfusion
      · exact .move (by rw [pcEq]; rfl) rfl rfl Bool.noConfusion
  | readPop need =>
      dsimp only
      split
      · exact .move (by rw [pcEq]; rfl) rfl rfl Bool.noConfusion
      · exact .pop pcEq
  | readCopy need tmp =>
      dsimp only
      split
      · exact .move (by rw [pcEq]; rfl) rfl rfl Bool.noConfusion
      · split
        · exact .move (by rw [pcEq]; rfl) rfl rfl Bool.noConfusion
        · exact .move (by rw [pcEq]; rfl) rfl rfl Bool.noConfusion
  | readUnlock result => exact .unlock (by rw [pcEq]; rfl)
  | flushLock =>
      rw [pcEq] at blocking
      cases blocking
  | flushReset =>
      rw [pcEq] at blocking
      cases blocking
  | flushUnlock =>
      rw [pcEq] at blocking
      cases blocking

/-! ## Who holds the mutex -/

/-- In every state of a removal `rxq_mutex` belongs to the reader that is past
its lock, or to `gxfp_uapi_unregister` between its lock and its unlock. -/
structure RemovalInv (remover : Tid) (state : Removal) : Prop where
  blocking : ∀ tid, (state.rxq.pc tid).blockingRead = true
  holder : ∀ tid, (state.rxq.pc tid).holdsMutex = true ↔
    state.rxq.mutex = some tid ∧ tid ≠ remover
  remover : state.rxq.mutex = some remover ↔ state.pc = .teardown ∨ state.pc = .unlock
  closed : state.pc = .unlock ∨ state.pc = .returned → state.rxq.inited = false

theorem removalStart_inv (remover : Tid) (fifo : Lib.Fifo Byte) :
    RemovalInv remover (removalStart fifo) := by
  constructor
  · intro tid
    rfl
  · intro tid
    constructor
    · intro holds
      cases holds
    · rintro ⟨held, _⟩
      cases held
  · constructor
    · intro held
      cases held
    · rintro (atTeardown | atUnlock)
      · cases atTeardown
      · cases atUnlock
  · rintro (atUnlock | atEnd)
    · cases atUnlock
    · cases atEnd

/-- What holds of the moved thread at its new place and of every other thread at
its old one holds of all threads. -/
theorem goto_pc_forall {rxq : Rxq} {tid : Tid} {pc : RxqPc} {P : Tid → RxqPc → Prop}
    (moved : P tid pc) (others : ∀ other, other ≠ tid → P other (rxq.pc other)) (other : Tid) :
    P other ((rxq.goto tid pc).pc other) := by
  by_cases same : other = tid
  · have here : (rxq.goto tid pc).pc other = pc := by
      rw [same]
      exact Function.update_self tid pc rxq.pc
    rw [here, same]
    exact moved
  · have there : (rxq.goto tid pc).pc other = rxq.pc other := by
      unfold Rxq.goto
      exact Function.update_of_ne same pc rxq.pc
    rw [there]
    exact others other same

/-- A call of `gxfp_uapi_read` goes to the lock or leaves the queue as it is. -/
theorem callRead_cases (rxq : Rxq) (tid : Tid) (count : Nat) :
    (rxqStep rxq (.callRead tid count false)).1 = rxq ∨
      rxq.pc tid = .idle ∧
        (rxqStep rxq (.callRead tid count false)).1 = rxq.goto tid (.readLock count false) := by
  unfold rxqStep
  dsimp only
  split
  · exact .inl rfl
  · rename_i idle
    split
    · exact .inl rfl
    · split
      · exact .inl rfl
      · exact .inr ⟨not_not.mp idle, rfl⟩

namespace RemovalInv

variable {remover : Tid} {state : Removal} (inv : RemovalInv remover state)

include inv

/-- Another reader with the mutex is the same reader. -/
theorem holder_unique {tid other : Tid} (holds : (state.rxq.pc tid).holdsMutex = true)
    (otherHolds : (state.rxq.pc other).holdsMutex = true) : other = tid := by
  have owned := ((inv.holder tid).mp holds).1
  rw [((inv.holder other).mp otherHolds).1] at owned
  exact Option.some.inj owned

/-- A reader with the mutex that moves on and keeps it. -/
theorem moved {tid : Tid} {pc : RxqPc} {rxq : Rxq} (held : (state.rxq.pc tid).holdsMutex = true)
    (holds : pc.holdsMutex = true) (blocking : pc.blockingRead = true)
    (threads : rxq.pc = (state.rxq.goto tid pc).pc) (mutex : rxq.mutex = state.rxq.mutex)
    (inited : rxq.inited = state.rxq.inited) : RemovalInv remover { state with rxq := rxq } := by
  constructor
  · dsimp only
    rw [threads]
    exact goto_pc_forall (P := fun _ pc => pc.blockingRead = true) blocking
      fun other _ => inv.blocking other
  · dsimp only
    rw [threads, mutex]
    exact goto_pc_forall
      (P := fun other pc => pc.holdsMutex = true ↔ state.rxq.mutex = some other ∧ other ≠ remover)
      (iff_of_true holds ((inv.holder tid).mp held)) fun other _ => inv.holder other
  · dsimp only
    rw [mutex]
    exact inv.remover
  · dsimp only
    rw [inited]
    exact inv.closed

/-- A reader that takes the free mutex. -/
theorem locked {tid : Tid} {count : Nat} (notRemover : tid ≠ remover)
    (free : state.rxq.mutex = none) :
    RemovalInv remover
      { state with
        rxq := { state.rxq.goto tid (.readWait count false) with mutex := some tid } } := by
  have others : ∀ other, (state.rxq.pc other).holdsMutex = false := by
    intro other
    rw [← Bool.not_eq_true]
    intro holds
    have owned := ((inv.holder other).mp holds).1
    rw [free] at owned
    cases owned
  constructor
  · exact goto_pc_forall (P := fun _ pc => pc.blockingRead = true) rfl
      fun other _ => inv.blocking other
  · apply goto_pc_forall
      (P := fun other pc => pc.holdsMutex = true ↔ some tid = some other ∧ other ≠ remover)
    · exact iff_of_true rfl ⟨rfl, notRemover⟩
    · intro other apart
      rw [others other]
      refine iff_of_false Bool.false_ne_true ?_
      rintro ⟨owned, _⟩
      exact apart (Option.some.inj owned).symm
  · change some tid = some remover ↔ _
    rw [← inv.remover, free]
    refine iff_of_false ?_ nofun
    intro owned
    exact notRemover (Option.some.inj owned)
  · exact inv.closed

/-- A reader that gives the mutex back. -/
theorem unlocked {tid : Tid} (held : (state.rxq.pc tid).holdsMutex = true) :
    RemovalInv remover { state with rxq := state.rxq.unlock tid } := by
  obtain ⟨owned, notRemover⟩ := (inv.holder tid).mp held
  constructor
  · exact goto_pc_forall (P := fun _ pc => pc.blockingRead = true) rfl
      fun other _ => inv.blocking other
  · apply goto_pc_forall
      (P := fun other pc => pc.holdsMutex = true ↔ none = some other ∧ other ≠ remover)
    · exact iff_of_false Bool.false_ne_true nofun
    · intro other apart
      refine iff_of_false ?_ nofun
      intro holds
      exact apart (inv.holder_unique held holds)
  · change none = some remover ↔ _
    rw [← inv.remover, owned]
    refine iff_of_false nofun ?_
    intro removerOwned
    exact notRemover (Option.some.inj removerOwned)
  · exact inv.closed

/-- A reader's step keeps the invariant. -/
theorem reader {tid : Tid} {rxq : Rxq} (notRemover : tid ≠ remover)
    (stepped : ReaderStep state.rxq tid rxq) : RemovalInv remover { state with rxq := rxq } := by
  cases stepped with
  | stay => exact inv
  | lock at_ free => exact inv.locked notRemover free
  | move held holds blocking waited => exact inv.moved held holds blocking rfl rfl rfl
  | pop at_ =>
      have held : (state.rxq.pc tid).holdsMutex = true := by
        rw [at_]
        rfl
      exact inv.moved held rfl rfl rfl rfl rfl
  | unlock held => exact inv.unlocked held

/-- A thread that enters `gxfp_uapi_read`. -/
theorem called (tid : Tid) (count : Nat) :
    RemovalInv remover
      { state with rxq := (rxqStep state.rxq (.callRead tid count false)).1 } := by
  rcases callRead_cases state.rxq tid count with unchanged | ⟨idle, moved⟩
  · rw [unchanged]
    exact inv
  · rw [moved]
    have before := inv.holder tid
    rw [idle] at before
    constructor
    · exact goto_pc_forall (P := fun _ pc => pc.blockingRead = true) rfl
        fun other _ => inv.blocking other
    · exact goto_pc_forall
        (P := fun other pc => pc.holdsMutex = true ↔
          state.rxq.mutex = some other ∧ other ≠ remover)
        before fun other _ => inv.holder other
    · exact inv.remover
    · exact inv.closed

/-- `gxfp_uapi_unregister` moves on without the mutex. -/
theorem passed {pc : UnregisterPc} (miscRegistered : Bool) (mutex : state.rxq.mutex ≠ some remover)
    (outside : ¬ (pc = .teardown ∨ pc = .unlock))
    (closed : pc = .returned → state.rxq.inited = false) :
    RemovalInv remover ⟨state.rxq, miscRegistered, pc⟩ := by
  constructor
  · exact inv.blocking
  · exact inv.holder
  · exact iff_of_false mutex outside
  · rintro (atUnlock | atEnd)
    · exact absurd (.inr atUnlock) outside
    · exact closed atEnd

/-- The steps of `gxfp_uapi_unregister` keep it. -/
theorem unregister : RemovalInv remover (unregisterStep remover state) := by
  have notOwned : ¬ (state.pc = .teardown ∨ state.pc = .unlock) →
      state.rxq.mutex ≠ some remover := fun outside owned => outside (inv.remover.mp owned)
  have noReader : state.rxq.mutex = none ∨ state.rxq.mutex = some remover →
      ∀ tid, (state.rxq.pc tid).holdsMutex = false := by
    intro unowned tid
    rw [← Bool.not_eq_true]
    intro holds
    obtain ⟨owned, notRemover⟩ := (inv.holder tid).mp holds
    rcases unowned with free | byRemover
    · rw [free] at owned
      cases owned
    · rw [byRemover] at owned
      exact notRemover (Option.some.inj owned).symm
  unfold unregisterStep
  cases pcEq : state.pc with
  | notCalled => exact inv
  | deregister => exact inv.passed false (notOwned (by rw [pcEq]; decide)) (by decide) nofun
  | check =>
      dsimp only
      have unowned := notOwned (by rw [pcEq]; decide)
      split
      · exact inv.passed _ unowned (by decide) nofun
      · rename_i closed
        exact inv.passed _ unowned (by decide) fun _ => Bool.not_eq_true _ ▸ closed
  | lock =>
      dsimp only
      split
      · exact inv
      · rename_i free
        have none_ := Option.not_isSome_iff_eq_none.mp free
        constructor
        · exact inv.blocking
        · intro tid
          dsimp only
          rw [noReader (.inl none_) tid]
          refine iff_of_false Bool.false_ne_true ?_
          rintro ⟨owned, notRemover⟩
          exact notRemover (Option.some.inj owned).symm
        · exact iff_of_true rfl (.inl rfl)
        · rintro (atUnlock | atEnd)
          · cases atUnlock
          · cases atEnd
  | teardown =>
      have owned := inv.remover.mpr (.inl pcEq)
      constructor
      · exact inv.blocking
      · exact inv.holder
      · exact iff_of_true owned (.inr rfl)
      · intro _
        rfl
  | unlock =>
      have owned := inv.remover.mpr (.inr pcEq)
      constructor
      · exact inv.blocking
      · intro tid
        dsimp only
        rw [noReader (.inr owned) tid]
        exact iff_of_false Bool.false_ne_true nofun
      · refine iff_of_false nofun ?_
        rintro (atTeardown | atUnlock)
        · cases atTeardown
        · cases atUnlock
      · intro _
        exact inv.closed (.inl pcEq)
  | returned => exact inv

/-- Every step keeps the invariant. -/
theorem step (action : RemovalAction) :
    RemovalInv remover (removalStep remover state action).1 := by
  cases action with
  | callRead tid count =>
      unfold removalStep
      dsimp only
      split
      · exact inv
      · exact inv.called tid count
  | runReader tid fault =>
      unfold removalStep
      dsimp only
      split
      · exact inv
      · rename_i notRemover
        exact inv.reader notRemover (threadStep_readerStep (inv.blocking tid) fault)
  | callUnregister =>
      unfold removalStep
      dsimp only
      split
      · exact inv
      · rename_i notCalled
        have pcEq := not_not.mp notCalled
        have unowned : state.rxq.mutex ≠ some remover := by
          intro owned
          have inside := inv.remover.mp owned
          rw [pcEq] at inside
          revert inside
          decide
        split
        · rename_i closed
          refine inv.passed _ unowned (by decide) fun _ => ?_
          simpa using (Bool.and_eq_true_iff.mp closed).2
        · exact inv.passed _ unowned (by decide) nofun
  | runUnregister => exact inv.unregister

end RemovalInv

/-! ## Runs without a reader on the empty queue -/

/-- A reader that waits at `pc` finds a record. -/
def Rxq.FilledAt (rxq : Rxq) (pc : RxqPc) : Prop :=
  pc.waiting = true → rxq.inited = true → rxq.fifo.isEmpty = false

/-- Every reader that waits finds a record. -/
def Removal.Filled (state : Removal) : Prop :=
  ∀ tid, state.rxq.FilledAt (state.rxq.pc tid)

/-- A reader that takes the mutex of a queue that is not empty finds it so as
long as it waits: nobody else can take a record out. -/
theorem Removal.Filled.reader {remover tid : Tid} {state : Removal} {rxq : Rxq}
    (filled : state.Filled) (inv : RemovalInv remover state)
    (stepped : ReaderStep state.rxq tid rxq)
    (good : ∀ count, state.rxq.pc tid = .readLock count false → state.rxq.mutex = none →
      state.rxq.inited = true → state.rxq.fifo.isEmpty = false) :
    Removal.Filled { state with rxq := rxq } := by
  cases stepped with
  | stay => exact filled
  | @lock count at_ free =>
      exact goto_pc_forall (P := fun _ => state.rxq.FilledAt)
        (fun _ => good count at_ free) fun other _ => filled other
  | @move pc held holds blocking waited =>
      exact goto_pc_forall (P := fun _ => state.rxq.FilledAt)
        (fun waits => filled tid (waited waits)) fun other _ => filled other
  | @pop need tmp at_ =>
      apply goto_pc_forall
        (P := fun _ => Rxq.FilledAt { state.rxq with fifo := state.rxq.fifo.drop need })
      · intro waits
        cases waits
      · intro other apart waits
        have held : (state.rxq.pc tid).holdsMutex = true := by
          rw [at_]
          rfl
        have otherHeld : (state.rxq.pc other).holdsMutex = true := by
          cases pcEq : state.rxq.pc other with
          | readWait count nonblock => rfl
          | readSleep count nonblock => rfl
          | _ =>
              rw [pcEq] at waits
              cases waits
        exact absurd (inv.holder_unique held otherHeld) apart
  | unlock held =>
      apply goto_pc_forall (P := fun _ => state.rxq.FilledAt)
      · intro waits
        cases waits
      · exact fun other _ => filled other

theorem Removal.Filled.called {state : Removal} (filled : state.Filled) (tid : Tid) (count : Nat) :
    Removal.Filled
      { state with rxq := (rxqStep state.rxq (.callRead tid count false)).1 } := by
  rcases callRead_cases state.rxq tid count with unchanged | ⟨_, moved⟩
  · rw [unchanged]
    exact filled
  · rw [moved]
    apply goto_pc_forall (P := fun _ => state.rxq.FilledAt)
    · intro waits
      cases waits
    · exact fun other _ => filled other

theorem Removal.Filled.unregister {state : Removal} (filled : state.Filled) (remover : Tid) :
    (unregisterStep remover state).Filled := by
  unfold unregisterStep
  cases state.pc with
  | lock =>
      dsimp only
      split
      · exact filled
      · exact filled
  | teardown =>
      intro tid waits inited
      cases inited
  | _ => exact filled

/-- A good step keeps the queue filled for those who wait. -/
theorem Removal.Filled.step {remover : Tid} {state : Removal} (filled : state.Filled)
    (inv : RemovalInv remover state) {action : RemovalAction}
    (good : ¬ state.TakesEmpty remover action) : (removalStep remover state action).1.Filled := by
  cases action with
  | callRead tid count =>
      unfold removalStep
      dsimp only
      split
      · exact filled
      · exact filled.called tid count
  | runReader tid fault =>
      unfold removalStep
      dsimp only
      split
      · exact filled
      · rename_i notRemover
        apply filled.reader inv (threadStep_readerStep (inv.blocking tid) fault)
        intro count at_ free inited
        rw [← Bool.not_eq_true]
        intro empty
        exact good ⟨notRemover, ⟨count, at_⟩, free, inited, empty⟩
  | callUnregister =>
      unfold removalStep
      dsimp only
      split
      · exact filled
      · split
        · exact filled
        · exact filled
  | runUnregister => exact filled.unregister remover

theorem Removal.Filled.not_deadlocked {state : Removal} (filled : state.Filled) :
    ¬ state.Deadlocked := by
  rintro ⟨_, tid, count, _, at_, asleep⟩
  rw [Bool.or_eq_false_iff] at asleep
  have inited : state.rxq.inited = true := by simpa using asleep.2
  have nonempty := filled tid (by rw [at_]; rfl) inited
  rw [inited, nonempty] at asleep
  cases asleep.1

/-! ## A deadlock lasts -/

/-- A reader that waits for a taken mutex stays where it is. -/
theorem ReaderStep.eq_of_waiting {rxq next : Rxq} {tid : Tid} (stepped : ReaderStep rxq tid next)
    (outside : (rxq.pc tid).holdsMutex = false) (taken : rxq.mutex ≠ none) : next = rxq := by
  cases stepped with
  | stay => rfl
  | lock at_ free => exact absurd free taken
  | move held holds blocking waited =>
      rw [held] at outside
      cases outside
  | pop at_ =>
      rw [at_] at outside
      cases outside
  | unlock held =>
      rw [held] at outside
      cases outside

/-- A reader that sleeps on a false condition stays asleep. -/
theorem threadStep_asleep {rxq : Rxq} {tid : Tid} {count : Nat}
    (at_ : rxq.pc tid = .readSleep count false)
    (asleep : ((rxq.inited && !rxq.fifo.isEmpty) || !rxq.inited) = false) (fault : Bool) :
    (threadStep rxq tid (readerFault (rxq.pc tid) fault)).1 = rxq := by
  have noSignal : readerFault (.readSleep count false) fault = false := rfl
  unfold threadStep
  rw [at_, noSignal]
  dsimp only
  rw [if_neg Bool.false_ne_true, if_neg (by rw [asleep]; exact Bool.false_ne_true)]

/-- Nothing moves the two again. -/
theorem Removal.Deadlocked.step {remover : Tid} {state : Removal} (stuck : state.Deadlocked)
    (inv : RemovalInv remover state) (action : RemovalAction) :
    (removalStep remover state action).1.Deadlocked := by
  obtain ⟨pcEq, tid, count, owned, at_, asleep⟩ := stuck
  have stays : state.Deadlocked := ⟨pcEq, tid, count, owned, at_, asleep⟩
  cases action with
  | callRead other size =>
      unfold removalStep
      dsimp only
      split
      · exact stays
      · rcases callRead_cases state.rxq other size with unchanged | ⟨otherIdle, moved⟩
        · rw [unchanged]
          exact stays
        · have apart : tid ≠ other := by
            rintro rfl
            rw [at_] at otherIdle
            cases otherIdle
          rw [moved]
          exact ⟨pcEq, tid, count, owned, (Function.update_of_ne apart _ _).trans at_, asleep⟩
  | runReader other fault =>
      unfold removalStep
      dsimp only
      split
      · exact stays
      · have unchanged :
            (threadStep state.rxq other (readerFault (state.rxq.pc other) fault)).1 =
              state.rxq := by
          by_cases same : other = tid
          · rw [same]
            exact threadStep_asleep at_ asleep fault
          · apply (threadStep_readerStep (inv.blocking other) fault).eq_of_waiting
            · rw [← Bool.not_eq_true]
              intro holds
              exact same (inv.holder_unique (by rw [at_]; rfl) holds)
            · rw [owned]
              exact Option.some_ne_none tid
        rw [unchanged]
        exact stays
  | callUnregister =>
      unfold removalStep
      dsimp only
      rw [if_pos (by rw [pcEq]; decide)]
      exact stays
  | runUnregister =>
      unfold removalStep unregisterStep
      rw [pcEq]
      dsimp only
      rw [if_pos (by rw [owned]; rfl)]
      exact stays

/-! ## How a deadlock comes about -/

/-- A reader holds the mutex of an empty queue and sleeps. -/
structure Removal.Asleep (tid : Tid) (state : Removal) : Prop where
  owned : state.rxq.mutex = some tid
  sleeps : ∃ count, state.rxq.pc tid = .readSleep count false
  inited : state.rxq.inited = true
  empty : state.rxq.fifo.isEmpty = true

/-- A reader that takes the mutex of an empty queue goes to sleep with it. -/
theorem Removal.TakesEmpty.asleep {remover tid : Tid} {fault : Bool} {state : Removal}
    (takes : state.TakesEmpty remover (.runReader tid fault)) :
    (final (removalStep remover) state [.runReader tid fault, .runReader tid false]).Asleep tid ∧
      (final (removalStep remover) state [.runReader tid fault, .runReader tid false]).pc =
        state.pc := by
  obtain ⟨notRemover, ⟨count, at_⟩, free, inited, empty⟩ := takes
  let taken : Removal :=
    { state with rxq := { state.rxq.goto tid (.readWait count false) with mutex := some tid } }
  have locks : (removalStep remover state (.runReader tid fault)).1 = taken := by
    have noSignal : readerFault (.readLock count false) fault = false := rfl
    unfold removalStep threadStep
    dsimp only
    rw [if_neg notRemover, at_, noSignal]
    dsimp only
    rw [if_neg Bool.false_ne_true, if_neg (by rw [free]; exact Bool.false_ne_true)]
  have waits : taken.rxq.pc tid = .readWait count false := Function.update_self tid _ _
  have sleeps : uapiWaitNonempty taken.rxq count false = .readSleep count false := by
    have stillInited : taken.rxq.inited = true := inited
    have stillEmpty : taken.rxq.fifo.isEmpty = true := empty
    unfold uapiWaitNonempty
    rw [stillInited, stillEmpty]
    rfl
  have goesToSleep : (removalStep remover taken (.runReader tid false)).1 =
      { taken with rxq := taken.rxq.goto tid (.readSleep count false) } := by
    unfold removalStep threadStep
    dsimp only
    rw [if_neg notRemover, waits]
    dsimp only
    rw [sleeps]
  rw [final_cons, final_cons, final_nil, locks, goesToSleep]
  refine ⟨⟨rfl, ⟨count, ?_⟩, inited, empty⟩, rfl⟩
  exact Function.update_self tid _ _

/-- A removal that has not taken the mutex yet runs into the sleeping reader. -/
theorem Removal.Asleep.deadlocked {remover tid : Tid} {state : Removal} (asleep : state.Asleep tid)
    (before : state.pc = .notCalled ∨ state.pc = .deregister ∨ state.pc = .check ∨
      state.pc = .lock) :
    (final (removalStep remover) state
      [.callUnregister, .runUnregister, .runUnregister]).Deadlocked := by
  obtain ⟨owned, ⟨count, sleeps⟩, inited, empty⟩ := asleep
  have noRecord : ((state.rxq.inited && !state.rxq.fifo.isEmpty) || !state.rxq.inited) = false := by
    rw [inited, empty]
    rfl
  obtain ⟨rxq, miscRegistered, pc⟩ := state
  dsimp only at owned sleeps inited before noRecord
  have atLock : ∀ registered, Removal.Deadlocked ⟨rxq, registered, .lock⟩ := fun registered =>
    ⟨rfl, tid, count, owned, sleeps, noRecord⟩
  rw [final_cons, final_cons, final_cons, final_nil]
  rcases before with rfl | rfl | rfl | rfl
  · simp [removalStep, unregisterStep, inited, atLock]
  · simp [removalStep, unregisterStep, inited, atLock]
  · simp [removalStep, unregisterStep, inited, owned, atLock]
  · simp [removalStep, unregisterStep, owned, atLock]

/-- While a reader can take the mutex of a live queue, the removal has not
taken it. -/
theorem RemovalInv.before_lock {remover : Tid} {state : Removal} (inv : RemovalInv remover state)
    (free : state.rxq.mutex = none) (inited : state.rxq.inited = true) :
    state.pc = .notCalled ∨ state.pc = .deregister ∨ state.pc = .check ∨ state.pc = .lock := by
  have notInside : ¬ (state.pc = .teardown ∨ state.pc = .unlock) := by
    rw [← inv.remover, free]
    exact nofun
  have notReturned : state.pc ≠ .returned := by
    intro returned
    rw [inv.closed (.inr returned)] at inited
    cases inited
  cases pcEq : state.pc with
  | notCalled => exact .inl rfl
  | deregister => exact .inr (.inl rfl)
  | check => exact .inr (.inr (.inl rfl))
  | lock => exact .inr (.inr (.inr rfl))
  | teardown => exact absurd (.inl pcEq) notInside
  | unlock => exact absurd (.inr pcEq) notInside
  | returned => exact absurd pcEq notReturned

/-- A reader that takes the mutex of an empty queue can stop the removal for
good. -/
theorem deadlocked_of_takesEmpty {remover : Tid} {state : Removal} (inv : RemovalInv remover state)
    {action : RemovalAction} (takes : state.TakesEmpty remover action) :
    ∃ more, (final (removalStep remover) state (action :: more)).Deadlocked := by
  cases action with
  | runReader tid fault =>
      have before := inv.before_lock takes.2.2.1 takes.2.2.2.1
      obtain ⟨asleep, samePc⟩ := takes.asleep
      refine ⟨[.runReader tid false, .callUnregister, .runUnregister, .runUnregister], ?_⟩
      rw [← samePc] at before
      exact asleep.deadlocked before
  | _ => exact takes.elim

/-! ## Removal -/

section Runs

variable (remover : Tid) (fifo : Lib.Fifo Byte) (actions : List RemovalAction)

theorem removal_inv :
    RemovalInv remover (final (removalStep remover) (removalStart fifo) actions) :=
  final_preserved (fun _ action inv => inv.step action) (removalStart_inv remover fifo) actions

theorem removalStart_filled : (removalStart fifo).Filled := by
  intro tid waits
  cases waits

/-- A run in which no reader takes the mutex of an empty queue reaches no
deadlock; a run that comes to such a step can be continued into a deadlock that
no further step ends. -/
theorem removal_deadlock :
    ((∀ transition ∈ transitions (removalStep remover) (removalStart fifo) actions,
        ¬ transition.before.TakesEmpty remover transition.input) →
      ∀ reached, reached <+: actions →
        ¬ (final (removalStep remover) (removalStart fifo) reached).Deadlocked) ∧
    ∀ action, (final (removalStep remover) (removalStart fifo) actions).TakesEmpty remover action →
      ∃ more, ∀ later, (final (removalStep remover) (removalStart fifo)
        (actions ++ action :: more ++ later)).Deadlocked := by
  constructor
  · intro good reached isPrefix
    have started := And.intro (removalStart_inv remover fifo) (removalStart_filled fifo)
    have held := @final_invariant _ _ _ (removalStep remover)
      (fun state => RemovalInv remover state ∧ state.Filled)
      (fun transition => ¬ transition.before.TakesEmpty remover transition.input)
      (fun _ action held quiet => ⟨held.1.step action, held.2.step held.1 quiet⟩)
      _ _ started good _ isPrefix
    exact held.2.not_deadlocked
  · intro action takes
    have inv := removal_inv remover fifo actions
    obtain ⟨more, stuck⟩ := deadlocked_of_takesEmpty inv takes
    refine ⟨more, fun later => ?_⟩
    rw [final_append, final_append]
    have reached : RemovalInv remover (final (removalStep remover)
        (final (removalStep remover) (removalStart fifo) actions) (action :: more)) :=
      final_preserved (fun _ action inv => inv.step action) inv _
    exact (final_preserved
      (fun _ action (held : _ ∧ _) => ⟨held.1.step action, held.2.step held.1 action⟩)
      ⟨reached, stuck⟩ later).2

end Runs

/-- A reader that comes after the removal finds the queue closed. -/
theorem removal_deadlock_late_reader :
    ∀ reached, reached <+: [.callRead 1 64, .callUnregister, .runUnregister, .runUnregister,
        .runUnregister, .runUnregister, .runUnregister, .runReader 1 false, .runReader 1 false,
        .runReader 1 false] →
      ¬ (final (removalStep 0) (removalStart (Lib.Fifo.empty RXQ_FIFO_BYTES)) reached).Deadlocked :=
  (removal_deadlock 0 (Lib.Fifo.empty RXQ_FIFO_BYTES) _).1 (by decide)

/-- A reader asleep on the empty queue and a removal wait for each other. -/
theorem removal_deadlock_sleeping_reader :
    ¬ ∀ (remover : Tid) (fifo : Lib.Fifo Byte) (actions : List RemovalAction),
      ¬ (final (removalStep remover) (removalStart fifo) actions).Deadlocked := by
  intro never
  apply never 0 (Lib.Fifo.empty RXQ_FIFO_BYTES) [.callRead 1 64, .runReader 1 false,
    .runReader 1 false, .callUnregister, .runUnregister, .runUnregister, .runUnregister]
  exact ⟨rfl, 1, 64, rfl, rfl, rfl⟩

end Gxfp.Kernel
