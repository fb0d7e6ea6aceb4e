import Gxfp.Kernel.RxqContract

/-!
# What the readers of `/dev/gxfp` get

A reader takes a record while it owns `rxq_mutex` and returns before it lets the
mutex go.  At most one record is therefore in a reader's hands, and the results
of `read(2)` come in the order in which the records left the queue, whatever
threads the readers are.

Where no packet was dropped, nothing was flushed and no user buffer faulted,
nothing is lost on the way: the pushed packets are those returned, the one in a
reader's hands and those still queued.
-/

namespace Gxfp.Kernel

open Lib.Bytes
open Lib.Execution
open Gxfp.Errno
open Gxfp.User

/-! ## Events -/

/-- The packets that were pushed. -/
def pushedPackets (seen : List RxqEvent) : List (List Byte) :=
  seen.filterMap fun
    | .push buf _ => some buf
    | _ => none

/-- The records that reads have returned. -/
def returnedData (seen : List RxqEvent) : List (List Byte) :=
  seen.filterMap fun
    | .returned _ (.data bytes) => some bytes
    | _ => none

/-- An event that loses no packet. -/
def Lossless : RxqEvent → Prop
  | .push _ (.dropped _) => False
  | .push _ _ => True
  | .popped _ _ => True
  | .flushed => False
  | .returned _ result => result ≠ .error EFAULT

/-- The MP type and the payload of a packet. -/
def packetContent (packet : List Byte) : Option (Nat × List Byte) :=
  (parseMpFrame packet).map fun mp => ((mp.flags >>> (4 : Byte)).toNat, mp.payload)

/-- The type and the payload that the library makes of the data of a read. -/
def readContent (data : List Byte) : Option (Nat × List Byte) :=
  (parseTapRecord data).toOption.map fun parsed => (parsed.1.type, parsed.2)

/-- The library takes a record apart again. -/
theorem readContent_encode (record : TapRecord) :
    readContent record.encode = some (record.type.toNat, record.payload) := by
  obtain ⟨hdr, parsed, typeEq, -⟩ := parseTapRecord_encode record
  rw [readContent, parsed, ← typeEq]
  rfl

/-- The record of a packet has its content. -/
theorem readContent_fromPacket {buf : List Byte} {record : TapRecord}
    (carried : fromPacket buf record = true) :
    readContent record.encode = packetContent buf := by
  unfold fromPacket at carried
  split at carried
  · rename_i mp parsed
    obtain ⟨typeEq, payloadEq⟩ := Bool.and_eq_true_iff.mp carried
    rw [readContent_encode, packetContent, parsed, beq_iff_eq.mp typeEq, beq_iff_eq.mp payloadEq]
    rfl
  · cases carried

/-! ## From the push to the pop -/

theorem pushedPackets_append (first second : List RxqEvent) :
    pushedPackets (first ++ second) = pushedPackets first ++ pushedPackets second :=
  List.filterMap_append

theorem queuedRecords_append (first second : List RxqEvent) :
    queuedRecords (first ++ second) = queuedRecords first ++ queuedRecords second :=
  List.filterMap_append

theorem poppedBytes_append (first second : List RxqEvent) :
    poppedBytes (first ++ second) = poppedBytes first ++ poppedBytes second :=
  List.filterMap_append

theorem returnedData_append (first second : List RxqEvent) :
    returnedData (first ++ second) = returnedData first ++ returnedData second :=
  List.filterMap_append

/-- An accepted event queues a record of the packet it pushes, and a lossless one
leaves out only what is no packet. -/
theorem accept_carried {spec next : RecordQueue} {event : RxqEvent}
    (accepted : spec.accept event = some next) :
    ((queuedRecords [event]).map fun record => readContent record.encode).Sublist
        ((pushedPackets [event]).map packetContent) ∧
      (Lossless event → (∀ buf ∈ pushedPackets [event], (parseMpFrame buf).isSome = true) →
        ((queuedRecords [event]).map fun record => readContent record.encode) =
          (pushedPackets [event]).map packetContent) := by
  cases event with
  | push buf outcome =>
      cases outcome with
      | ignored =>
          simp only [RecordQueue.accept, Option.ite_none_right_eq_some] at accepted
          refine ⟨List.nil_sublist _, fun _ parsed => ?_⟩
          have isPacket := parsed buf List.mem_cons_self
          rw [Option.isNone_iff_eq_none.mp accepted.1] at isPacket
          cases isPacket
      | dropped record => exact ⟨List.nil_sublist _, fun lossless _ => False.elim lossless⟩
      | queued record =>
          simp only [RecordQueue.accept, Option.ite_none_right_eq_some] at accepted
          have same : readContent record.encode = packetContent buf :=
            readContent_fromPacket accepted.1.1
          simp only [queuedRecords, pushedPackets, List.filterMap_cons, List.filterMap_nil,
            List.map_cons, List.map_nil, same]
          exact ⟨List.Sublist.refl _, fun _ _ => trivial⟩
  | popped tid bytes => exact ⟨List.Sublist.refl _, fun _ _ => rfl⟩
  | flushed => exact ⟨List.Sublist.refl _, fun _ _ => rfl⟩
  | returned tid result => exact ⟨List.Sublist.refl _, fun _ _ => rfl⟩

/-- Without a flush the records that leave the queue are popped. -/
theorem accept_popped {spec next : RecordQueue} {event : RxqEvent}
    (accepted : spec.accept event = some next) (lossless : Lossless event) :
    (spec.queue ++ queuedRecords [event]).map TapRecord.encode =
      poppedBytes [event] ++ next.queue.map TapRecord.encode := by
  cases event with
  | push buf outcome =>
      cases outcome with
      | ignored =>
          simp only [RecordQueue.accept, Option.ite_none_right_eq_some,
            Option.some.injEq] at accepted
          simp [queuedRecords, poppedBytes, accepted.2]
      | dropped record => exact absurd lossless id
      | queued record =>
          simp only [RecordQueue.accept, Option.ite_none_right_eq_some,
            Option.some.injEq] at accepted
          rw [← accepted.2]
          rfl
  | popped tid bytes =>
      simp only [RecordQueue.accept] at accepted
      split at accepted
      · cases accepted
      · rename_i record rest queueEq
        simp only [Option.ite_none_right_eq_some, Option.some.injEq] at accepted
        obtain ⟨⟨bytesEq, -⟩, rfl⟩ := accepted
        simp [queuedRecords, poppedBytes, queueEq, bytesEq]
  | flushed => exact absurd lossless id
  | returned tid result =>
      simp only [RecordQueue.accept, Option.ite_none_right_eq_some,
        Option.some.injEq] at accepted
      simp [queuedRecords, poppedBytes, ← accepted.2]

/-! ## The record in a reader's hands -/

/-- The records that readers hold: none or one. -/
def InHand (spec : RecordQueue) (hand : List TapRecord) : Prop :=
  (hand = [] ∧ ∀ tid, spec.held tid = none) ∨
    ∃ tid record, hand = [record] ∧ spec.held tid = some record ∧
      ∀ other, other ≠ tid → spec.held other = none

/-- Only the owner of the mutex holds a record. -/
theorem Related.held_eq_none {rxq : Rxq} {spec : RecordQueue} (related : Related rxq spec)
    {tid : Tid} (notOwner : rxq.mutex ≠ some tid) : spec.held tid = none := by
  have inv := related.thread tid
  cases pcEq : rxq.pc tid with
  | idle | readLock | flushLock =>
      rw [pcEq] at inv
      exact inv.2
  | readWait | readSleep | readPeek | readAlloc | readPop | readCopy | readUnlock | flushReset
  | flushUnlock =>
      rw [pcEq] at inv
      exact absurd inv.1 notOwner

/-- So at most one is held. -/
theorem Related.inHand {rxq : Rxq} {spec : RecordQueue} (related : Related rxq spec) :
    ∃ hand, InHand spec hand := by
  cases owner : rxq.mutex with
  | none =>
      refine ⟨[], Or.inl ⟨rfl, fun tid => related.held_eq_none ?_⟩⟩
      rw [owner]
      exact (Option.some_ne_none tid).symm
  | some tid =>
      have others : ∀ other, other ≠ tid → spec.held other = none := by
        intro other different
        apply related.held_eq_none
        rw [owner]
        exact fun same => different (Option.some.inj same).symm
      cases heldEq : spec.held tid with
      | none =>
          refine ⟨[], Or.inl ⟨rfl, fun other => ?_⟩⟩
          by_cases same : other = tid
          · rw [same]
            exact heldEq
          · exact others other same
      | some record => exact ⟨[record], Or.inr ⟨tid, record, rfl, heldEq, others⟩⟩

/-- The held record is known from any reader that holds one. -/
theorem InHand.eq_singleton {spec : RecordQueue} {hand : List TapRecord} (inHand : InHand spec hand)
    {tid : Tid} {record : TapRecord} (heldEq : spec.held tid = some record) :
    hand = [record] ∧ ∀ other, other ≠ tid → spec.held other = none := by
  rcases inHand with ⟨-, free⟩ | ⟨holder, taken, rfl, takenEq, others⟩
  · rw [free tid] at heldEq
    cases heldEq
  · by_cases same : tid = holder
    · subst holder
      have same : taken = record := Option.some.inj (takenEq.symm.trans heldEq)
      exact ⟨congrArg (fun record => [record]) same, others⟩
    · rw [others tid same] at heldEq
      cases heldEq

/-- Where nobody holds a record the hands are empty. -/
theorem InHand.eq_nil {spec : RecordQueue} {hand : List TapRecord} (inHand : InHand spec hand)
    (free : ∀ tid, spec.held tid = none) : hand = [] := by
  rcases inHand with ⟨empty, -⟩ | ⟨holder, taken, -, takenEq, -⟩
  · exact empty
  · rw [free holder] at takenEq
    cases takenEq

/-- The hands are determined by who holds what. -/
theorem InHand.congr {spec next : RecordQueue} {hand nextHand : List TapRecord}
    (inHand : InHand spec hand) (nextInHand : InHand next nextHand)
    (same : next.held = spec.held) : nextHand = hand := by
  rcases inHand with ⟨rfl, free⟩ | ⟨holder, taken, rfl, takenEq, -⟩
  · exact nextInHand.eq_nil (fun tid => (congrFun same tid).trans (free tid))
  · exact (nextInHand.eq_singleton ((congrFun same holder).trans takenEq)).1

/-- One event between states in which at most one record is held: what is popped
comes into the hands, and what leaves them is returned or was lost to a fault. -/
theorem accept_handed {spec next : RecordQueue} {event : RxqEvent} {hand nextHand : List TapRecord}
    (accepted : spec.accept event = some next) (inHand : InHand spec hand)
    (nextInHand : InHand next nextHand) :
    ∃ left, hand.map TapRecord.encode ++ poppedBytes [event] =
        left ++ nextHand.map TapRecord.encode ∧
      (returnedData [event]).Sublist left ∧ (Lossless event → returnedData [event] = left) := by
  cases event with
  | push buf outcome =>
      have same : next.held = spec.held := by
        cases outcome <;>
          (simp only [RecordQueue.accept, Option.ite_none_right_eq_some,
            Option.some.injEq] at accepted
           rw [← accepted.2])
      rw [inHand.congr nextInHand same]
      exact ⟨[], by simp [poppedBytes], List.Sublist.refl _, fun _ => rfl⟩
  | popped tid bytes =>
      simp only [RecordQueue.accept] at accepted
      split at accepted
      · cases accepted
      · rename_i record rest queueEq
        simp only [Option.ite_none_right_eq_some, Option.some.injEq] at accepted
        obtain ⟨⟨bytesEq, wasFree⟩, rfl⟩ := accepted
        obtain ⟨rfl, others⟩ := nextInHand.eq_singleton (Function.update_self ..)
        have free : ∀ other, spec.held other = none := by
          intro other
          by_cases same : other = tid
          · rw [same]
            exact wasFree
          · have otherFree : Function.update spec.held tid (some record) other = none :=
              others other same
            rwa [Function.update_of_ne same] at otherFree
        rw [inHand.eq_nil free, bytesEq]
        exact ⟨[], rfl, List.Sublist.refl _, fun _ => rfl⟩
  | flushed =>
      simp only [RecordQueue.accept, Option.some.injEq] at accepted
      rw [inHand.congr nextInHand (by rw [← accepted])]
      exact ⟨[], by simp [poppedBytes], List.Sublist.refl _, fun _ => rfl⟩
  | returned tid result =>
      simp only [RecordQueue.accept, Option.ite_none_right_eq_some,
        Option.some.injEq] at accepted
      obtain ⟨allowed, rfl⟩ := accepted
      cases heldEq : spec.held tid with
      | none =>
          have same : Function.update spec.held tid none = spec.held := by
            rw [← heldEq]
            exact Function.update_eq_self tid spec.held
          rw [inHand.congr nextInHand same]
          rw [heldEq] at allowed
          cases result with
          | zero => exact ⟨[], by simp [poppedBytes], List.Sublist.refl _, fun _ => rfl⟩
          | data bytes => cases allowed
          | error errno => exact ⟨[], by simp [poppedBytes], List.Sublist.refl _, fun _ => rfl⟩
      | some record =>
          obtain ⟨rfl, others⟩ := inHand.eq_singleton heldEq
          have free : ∀ other, Function.update spec.held tid none other = none := by
            intro other
            by_cases same : other = tid
            · rw [same, Function.update_self]
            · rw [Function.update_of_ne same]
              exact others other same
          rw [nextInHand.eq_nil free]
          rw [heldEq] at allowed
          cases result with
          | zero => cases allowed
          | data bytes =>
              have bytesEq : bytes = record.encode := by simpa [returnable] using allowed
              rw [bytesEq]
              exact ⟨[record.encode], rfl, List.Sublist.refl _, fun _ => rfl⟩
          | error errno =>
              have faulted : errno = EFAULT := by simpa [returnable] using allowed
              refine ⟨[record.encode], rfl, List.nil_sublist _, fun lossless => ?_⟩
              exact absurd (congrArg ReadResult.error faulted) lossless

/-! ## Runs -/

/-- A thread shows at most one event, and pushes nothing. -/
theorem threadStep_events (rxq : Rxq) (tid : Tid) (fault : Bool) :
    ∃ shown : Option RxqEvent, (threadStep rxq tid fault).2 = shown.toList ∧
      pushedPackets shown.toList = [] := by
  unfold threadStep
  cases rxq.pc tid with
  | idle | readWait | readPeek | flushUnlock => exact ⟨none, rfl, rfl⟩
  | readUnlock => exact ⟨some _, rfl, rfl⟩
  | readAlloc => cases fault <;> exact ⟨none, rfl, rfl⟩
  | readLock =>
      dsimp only
      split
      · exact ⟨some _, rfl, rfl⟩
      · split <;> exact ⟨none, rfl, rfl⟩
  | readSleep | flushLock | readCopy =>
      dsimp only
      split
      · exact ⟨none, rfl, rfl⟩
      · split <;> exact ⟨none, rfl, rfl⟩
  | readPop =>
      dsimp only
      split
      · exact ⟨none, rfl, rfl⟩
      · exact ⟨some _, rfl, rfl⟩
  | flushReset =>
      dsimp only
      split
      · exact ⟨some _, rfl, rfl⟩
      · exact ⟨none, rfl, rfl⟩

/-- A step shows at most one event, and pushes only the packet it is given. -/
theorem rxqStep_events (rxq : Rxq) (action : RxqAction) :
    ∃ shown : Option RxqEvent, (rxqStep rxq action).2 = shown.toList ∧
      pushedPackets shown.toList = match action with
        | .push buf _ => [buf]
        | _ => [] := by
  cases action with
  | push buf tsNs => exact ⟨some _, rfl, rfl⟩
  | callRead tid count nonblock =>
      unfold rxqStep
      dsimp only
      split
      · exact ⟨none, rfl, rfl⟩
      · split
        · exact ⟨some _, rfl, rfl⟩
        · split
          · exact ⟨some _, rfl, rfl⟩
          · exact ⟨none, rfl, rfl⟩
  | callFlush tid =>
      unfold rxqStep
      dsimp only
      split <;> exact ⟨none, rfl, rfl⟩
  | run tid fault => exact threadStep_events rxq tid fault

theorem pushedPackets_rxqStep (rxq : Rxq) (action : RxqAction) :
    pushedPackets (rxqStep rxq action).2 = match action with
      | .push buf _ => [buf]
      | _ => [] := by
  obtain ⟨shown, shownEq, pushes⟩ := rxqStep_events rxq action
  rw [shownEq]
  exact pushes

/-- What was seen of a run and what it has led to: the queue of records, the
record in a reader's hands and the records that have left the hands. -/
structure Delivers (seen : List RxqEvent) (rxq : Rxq) (spec : RecordQueue)
    (hand : List TapRecord) (left : List (List Byte)) : Prop where
  accepted : acceptAll RecordQueue.accept RecordQueue.empty seen = some spec
  related : Related rxq spec
  inHand : InHand spec hand
  taken : poppedBytes seen = left ++ hand.map TapRecord.encode
  given : (returnedData seen).Sublist left
  carried : ((queuedRecords seen).map fun record => readContent record.encode).Sublist
    ((pushedPackets seen).map packetContent)
  lossless : (∀ event ∈ seen, Lossless event) →
    returnedData seen = left ∧
      (queuedRecords seen).map TapRecord.encode =
        poppedBytes seen ++ spec.queue.map TapRecord.encode ∧
      ((∀ buf ∈ pushedPackets seen, (parseMpFrame buf).isSome = true) →
        ((queuedRecords seen).map fun record => readContent record.encode) =
          (pushedPackets seen).map packetContent)

theorem uapiRegister_delivers : Delivers [] uapiRegister RecordQueue.empty [] [] where
  accepted := rfl
  related := uapiRegister_related
  inHand := Or.inl ⟨rfl, fun _ => rfl⟩
  taken := rfl
  given := List.Sublist.refl _
  carried := List.Sublist.refl _
  lossless := fun _ => ⟨rfl, rfl, fun _ => rfl⟩

/-- One more event. -/
theorem Delivers.event {seen : List RxqEvent} {rxq : Rxq} {spec : RecordQueue}
    {hand : List TapRecord} {left : List (List Byte)} (delivers : Delivers seen rxq spec hand left)
    {event : RxqEvent} {nextRxq : Rxq} {next : RecordQueue}
    (accepted : spec.accept event = some next) (related : Related nextRxq next) :
    ∃ nextHand nextLeft, Delivers (seen ++ [event]) nextRxq next nextHand nextLeft := by
  obtain ⟨nextHand, inHand⟩ := related.inHand
  obtain ⟨out, outEq, outGiven, outLossless⟩ := accept_handed accepted delivers.inHand inHand
  obtain ⟨carries, carriesAll⟩ := accept_carried accepted
  refine ⟨nextHand, left ++ out, ?_, related, inHand, ?_, ?_, ?_, ?_⟩
  · rw [acceptAll_append, delivers.accepted, Option.bind_some, acceptAll_cons, accepted]
    rfl
  · rw [poppedBytes_append, delivers.taken, List.append_assoc, outEq, List.append_assoc]
  · rw [returnedData_append]
    exact delivers.given.append outGiven
  · rw [queuedRecords_append, pushedPackets_append, List.map_append, List.map_append]
    exact delivers.carried.append carries
  · intro all
    have before : ∀ other ∈ seen, Lossless other := by
      intro other member
      exact all other (List.mem_append_left _ member)
    have now : Lossless event := all event (List.mem_append_right _ List.mem_cons_self)
    obtain ⟨returned, popped, content⟩ := delivers.lossless before
    refine ⟨?_, ?_, ?_⟩
    · rw [returnedData_append, returned, outLossless now]
    · rw [queuedRecords_append, List.map_append, popped, poppedBytes_append, List.append_assoc,
        List.append_assoc, ← accept_popped accepted now, List.map_append]
    · intro parsed
      rw [pushedPackets_append] at parsed
      rw [queuedRecords_append, pushedPackets_append, List.map_append, List.map_append,
        content fun buf member => parsed buf (List.mem_append_left _ member),
        carriesAll now fun buf member => parsed buf (List.mem_append_right _ member)]

/-- Every step delivers. -/
theorem Delivers.step {seen : List RxqEvent} {rxq : Rxq} {spec : RecordQueue}
    {hand : List TapRecord} {left : List (List Byte)} (delivers : Delivers seen rxq spec hand left)
    (action : RxqAction) :
    ∃ next nextHand nextLeft,
      Delivers (seen ++ (rxqStep rxq action).2) (rxqStep rxq action).1 next nextHand nextLeft := by
  obtain ⟨next, accepted, related⟩ := rxqStep_simulated rxq action spec delivers.related
  obtain ⟨shown, shownEq, -⟩ := rxqStep_events rxq action
  rw [shownEq] at accepted ⊢
  cases shown with
  | none =>
      cases accepted
      rw [Option.toList_none, List.append_nil]
      exact ⟨spec, hand, left, { delivers with related := related }⟩
  | some event =>
      rw [Option.toList_some, acceptAll_cons] at accepted
      obtain ⟨middle, first, rest⟩ := Option.bind_eq_some_iff.mp accepted
      cases rest
      exact ⟨next, delivers.event first related⟩

/-- While no reader has the mutex nothing is in a reader's hands. -/
theorem Delivers.hand_eq_nil {seen : List RxqEvent} {rxq : Rxq} {spec : RecordQueue}
    {hand : List TapRecord} {left : List (List Byte)} (delivers : Delivers seen rxq spec hand left)
    (unowned : rxq.mutex = none) : hand = [] := by
  apply delivers.inHand.eq_nil
  intro tid
  apply delivers.related.held_eq_none
  rw [unowned]
  exact (Option.some_ne_none tid).symm

/-- What reads return are contents of pushed packets, in order and at most
once. -/
theorem Delivers.returned {seen : List RxqEvent} {rxq : Rxq} {spec : RecordQueue}
    {hand : List TapRecord} {left : List (List Byte)}
    (delivers : Delivers seen rxq spec hand left) :
    ((returnedData seen).map readContent).Sublist ((pushedPackets seen).map packetContent) := by
  obtain ⟨gone, queued, popped⟩ := acceptAll_conserves delivers.accepted
  have leftPopped : left.Sublist (poppedBytes seen) := by
    rw [delivers.taken]
    exact List.sublist_append_left _ _
  have goneQueued : (gone.map TapRecord.encode).Sublist
      ((queuedRecords seen).map TapRecord.encode) := by
    have split : queuedRecords seen = gone ++ spec.queue := queued
    rw [split, List.map_append]
    exact List.sublist_append_left _ _
  have chain := (((delivers.given.trans leftPopped).trans popped).trans goneQueued).map readContent
  rw [List.map_map, Function.comp_def] at chain
  exact chain.trans delivers.carried

/-- Where nothing was lost the pushed packets are those returned, the one in a
reader's hands and those queued. -/
theorem Delivers.complete {seen : List RxqEvent} {rxq : Rxq} {spec : RecordQueue}
    {hand : List TapRecord} {left : List (List Byte)} (delivers : Delivers seen rxq spec hand left)
    (all : ∀ event ∈ seen, Lossless event)
    (parsed : ∀ buf ∈ pushedPackets seen, (parseMpFrame buf).isSome = true) :
    (pushedPackets seen).map packetContent =
      (returnedData seen).map readContent ++
        (hand ++ spec.queue).map fun record => readContent record.encode := by
  obtain ⟨returned, popped, content⟩ := delivers.lossless all
  calc
    (pushedPackets seen).map packetContent =
        ((queuedRecords seen).map TapRecord.encode).map readContent := by
      rw [List.map_map, Function.comp_def]
      exact (content parsed).symm
    _ = (left ++ hand.map TapRecord.encode ++ spec.queue.map TapRecord.encode).map readContent := by
      rw [popped, delivers.taken]
    _ = (returnedData seen).map readContent ++
        (hand ++ spec.queue).map fun record => readContent record.encode := by
      rw [returned, List.append_assoc, ← List.map_append, List.map_append, List.map_map,
        Function.comp_def]

end Gxfp.Kernel
