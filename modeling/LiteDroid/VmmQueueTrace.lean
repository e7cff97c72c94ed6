import LiteDroid.VmmRequestEffects
import LiteDroid.VmmRequestFrame

/-!
# The calls of one pass over the queue

A pass reads the available index once and serves entry after entry until its
own position is there. The entries, the position and the used index are 16-bit
counters that wrap. Each call finds the memory that the calls before it left,
and the head it serves is read there. As long as no request writes into the
used ring, the used index counts the completed calls.
-/

namespace LiteDroid.VmmQueueTrace

open CoreResults MemoryRegion StorageImage VmmBlockDevice VmmQueueLayout VmmBlockRequest
open VmmDiskStore VmmBlockQueue VmmRequestEffects VmmRequestFrame LittleEndian ByteRange

/-- Memory and file after some calls, one after another. -/
def leftBy : World → List RequestCall → World
  | world,[] => world
  | _,call::rest => leftBy call.report.world rest

/-- The device a number of entries further. -/
def ahead (device : VirtioBlock) (n : ℕ) : VirtioBlock :=
  {device with lastAvail := device.lastAvail+UInt16.ofNat n}

/-- No entry further is the device itself. -/
theorem ahead_zero (device : VirtioBlock) : ahead device 0=device := by
  have hzero : device.lastAvail+UInt16.ofNat 0=device.lastAvail := UInt16.add_zero _
  rw [ahead,hzero]

/-- One entry more is one entry further from the next one. -/
theorem ahead_succ (device : VirtioBlock) (n : ℕ) :
    ahead device (n+1)=ahead device.advance n := by
  have hnext : device.lastAvail+UInt16.ofNat (n+1)=device.lastAvail+1+UInt16.ofNat n := by
    rw [← position_succ,UInt16.add_assoc,UInt16.add_comm 1]
  rw [ahead,ahead,VirtioBlock.advance,hnext]

/-- The address of a later head, as a natural number. -/
theorem ahead_headAddr (device : VirtioBlock) (n : ℕ) :
    (ahead device n).headAddr.toNat=device.queue.toNat+4+
      2*((device.lastAvail.toNat+n)%2^16%device.queueNum.toNat) := by
  have hposition : (device.lastAvail+UInt16.ofNat n).toNat=(device.lastAvail.toNat+n)%2^16 := by
    rw [UInt16.toNat_add,UInt16.toNat_ofNat',Nat.add_mod_mod]
  rw [headAddr_toNat]
  change device.queue.toNat+4+
    2*((device.lastAvail+UInt16.ofNat n).toNat%device.queueNum.toNat)=_
  rw [hposition]

/-- What a pass leaves is what its calls left. -/
theorem serveLoop_leftBy (profile : Profile) (availIdx : UInt16) (device : VirtioBlock)
    (world : World) :
    (serveLoop profile availIdx device world).world=
      leftBy world (serveLoop profile availIdx device world).calls := by
  induction device, world using serveLoop_induction profile availIdx with
  | done device world h => rw [serveLoop_done h,leftBy]
  | zero device world h hn => rw [serveLoop_zero h hn,leftBy]
  | unread device world fault h hn hh => rw [serveLoop_unread h hn hh,leftBy]
  | fails device world head fault h hn hh hr => rw [serveLoop_fault h hn hh hr,leftBy,leftBy]
  | passes device world head h hn hh hr ih =>
    rw [serveLoop_pass h hn hh hr]
    exact ih

/-- Every call stands at its position, finds what the calls before it left,
serves the head found there, and follows completed calls only. -/
theorem serveLoop_split (profile : Profile) (availIdx : UInt16) (device : VirtioBlock)
    (world : World) :
    ∀ earlier call later, (serveLoop profile availIdx device world).calls=earlier++call::later →
      call.position=(ahead device earlier.length).lastAvail ∧
      call.before=leftBy world earlier ∧
      guestU16 call.before.memory (ahead device earlier.length).headAddr=
        .ok call.head ∧
      call.report=serve profile device call.head call.before ∧
      ∀ other∈earlier, other.report.outcome=.ok () := by
  induction device, world using serveLoop_induction profile availIdx with
  | done device world h =>
    intro earlier call later hcalls
    rw [serveLoop_done h] at hcalls
    simp at hcalls
  | zero device world h hn =>
    intro earlier call later hcalls
    rw [serveLoop_zero h hn] at hcalls
    simp at hcalls
  | unread device world fault h hn hh =>
    intro earlier call later hcalls
    rw [serveLoop_unread h hn hh] at hcalls
    simp at hcalls
  | fails device world head fault h hn hh hr =>
    intro earlier call later hcalls
    rw [serveLoop_fault h hn hh hr] at hcalls
    cases earlier with
    | nil =>
      obtain ⟨rfl,-⟩ := List.cons.inj hcalls
      rw [List.length_nil,ahead_zero]
      exact ⟨rfl,rfl,hh,rfl,List.forall_mem_nil _⟩
    | cons first rest => simp at hcalls
  | passes device world head h hn hh hr ih =>
    intro earlier call later hcalls
    rw [serveLoop_pass h hn hh hr] at hcalls
    cases earlier with
    | nil =>
      obtain ⟨rfl,-⟩ := List.cons.inj hcalls
      rw [List.length_nil,ahead_zero]
      exact ⟨rfl,rfl,hh,rfl,List.forall_mem_nil _⟩
    | cons first rest =>
      obtain ⟨rfl,hrest⟩ := List.cons.inj hcalls
      obtain ⟨hposition,hbefore,hhead,hreport,hok⟩ := ih rest call later hrest
      rw [List.length_cons,ahead_succ]
      exact ⟨hposition,hbefore,hhead,hreport,List.forall_mem_cons.mpr ⟨hr,hok⟩⟩

/-- A pass that returns made one call for each entry, all of them completed, and
ends at the available index. -/
theorem serveLoop_returns (profile : Profile) (availIdx : UInt16) (device : VirtioBlock)
    (world : World) :
    (serveLoop profile availIdx device world).outcome=.ok () →
      (serveLoop profile availIdx device world).device.lastAvail=availIdx ∧
      ∀ call∈(serveLoop profile availIdx device world).calls, call.report.outcome=.ok () := by
  induction device, world using serveLoop_induction profile availIdx with
  | done device world h =>
    intro _
    rw [serveLoop_done h]
    exact ⟨h,List.forall_mem_nil _⟩
  | zero device world h hn =>
    intro hok
    rw [serveLoop_zero h hn] at hok
    cases hok
  | unread device world fault h hn hh =>
    intro hok
    rw [serveLoop_unread h hn hh] at hok
    cases hok
  | fails device world head fault h hn hh hr =>
    intro hok
    rw [serveLoop_fault h hn hh hr] at hok
    cases hok
  | passes device world head h hn hh hr ih =>
    intro hok
    rw [serveLoop_pass h hn hh hr] at hok ⊢
    obtain ⟨hlast,hall⟩ := ih hok
    exact ⟨hlast,List.forall_mem_cons.mpr ⟨hr,hall⟩⟩

/-- How a pass stops early at an entry: the head there cannot be read, or the
call for it faults. -/
def StopsAt (device : VirtioBlock) (world : World) (calls : List RequestCall) (fault : Fault)
    (n : ℕ) : Prop :=
  (calls.length=n ∧ (∀ call∈calls, call.report.outcome=.ok ()) ∧
    guestU16 (leftBy world calls).memory (ahead device n).headAddr=.error fault) ∨
  ∃ earlier call, calls=earlier++[call] ∧ earlier.length=n ∧ call.report.outcome=.error fault

/-- A pass that stops early at an entry has its position there. -/
theorem serveLoop_stops (profile : Profile) (availIdx : UInt16) (device : VirtioBlock)
    (world : World) :
    device.queueNum≠0 → ∀ fault, (serveLoop profile availIdx device world).outcome=.error fault →
      ∃ n < device.pending availIdx,
        (serveLoop profile availIdx device world).device=ahead device n ∧
        StopsAt device world (serveLoop profile availIdx device world).calls fault n := by
  induction device, world using serveLoop_induction profile availIdx with
  | done device world h =>
    intro _ fault hfault
    rw [serveLoop_done h] at hfault
    cases hfault
  | zero device world h hn =>
    intro hq
    exact absurd hn hq
  | unread device world cause h hn hh =>
    intro _ fault hfault
    rw [serveLoop_unread h hn hh] at hfault ⊢
    obtain rfl := Except.error.inj hfault
    refine ⟨0,by rw [pending_succ h]; exact Nat.succ_pos _,(ahead_zero device).symm,Or.inl ?_⟩
    rw [ahead_zero]
    exact ⟨rfl,List.forall_mem_nil _,hh⟩
  | fails device world head cause h hn hh hr =>
    intro _ fault hfault
    rw [serveLoop_fault h hn hh hr] at hfault ⊢
    obtain rfl := Except.error.inj hfault
    refine ⟨0,by rw [pending_succ h]; exact Nat.succ_pos _,(ahead_zero device).symm,Or.inr ?_⟩
    exact ⟨[],_,rfl,rfl,hr⟩
  | passes device world head h hn hh hr ih =>
    intro _ fault hfault
    rw [serveLoop_pass h hn hh hr] at hfault ⊢
    obtain ⟨n,hlt,hdevice,hstop⟩ := ih hn fault hfault
    have hcount := pending_succ h
    refine ⟨n+1,by omega,by rw [ahead_succ]; exact hdevice,?_⟩
    unfold StopsAt at hstop ⊢
    rw [ahead_succ]
    obtain ⟨hlength,hall,hread⟩ | ⟨earlier,call,hcalls,hlength,hcall⟩ := hstop
    · refine Or.inl ⟨?_,List.forall_mem_cons.mpr ⟨hr,hall⟩,hread⟩
      rw [List.length_cons,hlength]
    · refine Or.inr ⟨⟨device.lastAvail,head,world,serve profile device head world⟩::earlier,call,
        ?_,?_,hcall⟩
      · dsimp only
        rw [hcalls,List.cons_append]
      · rw [List.length_cons,hlength]

/-- Publishing that fails stores nothing before the elements of the used ring. -/
theorem pushUsed_before {device : VirtioBlock} {head : UInt16} {payloadLen : UInt32}
    {world : World} {done : List Store}
    (h : (pushUsed device.queueNum device.queue head payloadLen world done).outcome≠.ok ())
    {a : ℕ} (ha : a < usedStart device+4) :
    (pushUsed device.queueNum device.queue head payloadLen world done).world.memory.byte a=
      world.memory.byte a := by
  have h4 := fun slot => usedElement_toNat device slot (k:=4) (by decide)
  have h8 := fun slot => usedElement_toNat device slot (k:=8) (by decide)
  simp only [UInt64.reduceToNat] at h4 h8
  unfold pushUsed at h ⊢
  dsimp only at h ⊢
  split at h
  · rfl
  · rename_i usedIdx hindex
    by_cases hn : device.queueNum=0
    · rw [if_pos hn]
    · rw [if_neg hn] at h ⊢
      split at h
      · rfl
      · rename_i memory1 hfirst
        obtain ⟨-,rfl⟩ := writeGuest_ok hfirst
        have hid : (store world.memory (usedRing device.queueNum device.queue+4+
            (usedIdx%device.queueNum).toUInt64*8).toNat
            (leBytes 4 head.toUInt32.toNat)).byte a=world.memory.byte a := by
          rw [store_byte,overwrite_outside (by rw [h4]; omega)]
        split at h
        · exact hid
        · rename_i memory2 hsecond
          obtain ⟨-,rfl⟩ := writeGuest_ok hsecond
          split at h
          · dsimp only
            rw [store_byte,overwrite_outside (by rw [h8]; omega)]
            exact hid
          · exact absurd rfl h

/-- Two memories with the same bytes hold the same word. -/
theorem wordAt_congr {first second : GuestMemory} {addr : ℕ}
    (h : ∀ a, addr ≤ a → a < addr+2 → first.byte a=second.byte a) :
    wordAt first addr=wordAt second addr := by
  have hslice : slice first.byte addr 2=slice second.byte addr 2 := by
    apply (slice_eq_iff _ _ _ _ _).mpr
    intro i hi
    exact h (addr+i) (by omega) (by omega)
  unfold wordAt
  rw [hslice]

/-- Neither the payload nor the status byte of a request lies in the used ring. -/
def OffRing (profile : Profile) (device : VirtioBlock) (head : UInt16) (world : World) : Prop :=
  ∀ chain, walkChain profile device.queueNum world.memory device.queue head=.ok chain →
    Separate chain.payloadAddr.toNat chain.payloadLen.toNat
      (usedStart device) (4+8*device.queueNum.toNat) ∧
    Separate chain.statusAddr.toNat 1 (usedStart device) (4+8*device.queueNum.toNat)

/-- A completed request off the ring moves the used index on and leaves its head
in the element that the index selected. -/
theorem serve_index_ok {profile : Profile} {device : VirtioBlock} {head : UInt16} {world : World}
    (hoff : OffRing profile device head world)
    (h : (serve profile device head world).outcome=.ok ()) :
    wordAt (serve profile device head world).world.memory (usedStart device+2)=
        wordAt world.memory (usedStart device+2)+1 ∧
      slice (serve profile device head world).world.memory.byte (usedStart device+4+
        8*(wordAt world.memory (usedStart device+2)%device.queueNum).toNat) 4=
          leBytes 4 head.toUInt32.toNat := by
  obtain ⟨chain,hc,-,-,hw⟩ := processRequest_ok h
  obtain ⟨hpayload,hstatus⟩ := hoff chain hc
  have hindex := acknowledged_index world hpayload hstatus
  have helement := completed_element device head chain world
  rw [elementStart,usedSlot,hindex,show (8 : ℕ)=4+4 from rfl,slice_add] at helement
  rw [serve,hw]
  refine ⟨by rw [completed_index,hindex],?_⟩
  exact (List.append_inj helement (by rw [slice_length,leBytes_length])).1

/-- A failing request off the ring keeps the used index. -/
theorem serve_index_failed {profile : Profile} {device : VirtioBlock} {head : UInt16}
    {world : World} (hoff : OffRing profile device head world)
    (h : (serve profile device head world).outcome≠.ok ()) :
    wordAt (serve profile device head world).world.memory (usedStart device+2)=
      wordAt world.memory (usedStart device+2) := by
  unfold serve processRequest at h ⊢
  cases hc : walkChain profile device.queueNum world.memory device.queue head with
  | error fault => rfl
  | ok chain =>
    obtain ⟨hpayload,hstatus⟩ := hoff chain hc
    have hacknowledged := acknowledged_index world hpayload hstatus
    have hn := walkChain_ok_size hc
    rw [hc] at h
    dsimp only at h ⊢
    cases ht : transfer profile chain world with
    | error fault => rfl
    | ok moved =>
      obtain ⟨-,rfl⟩ := transfer_ok_iff.mp ht
      rw [ht] at h
      dsimp only at h ⊢
      cases hs : writeGuest (delivered chain world).memory chain.statusAddr [statusOf chain] with
      | error fault =>
        have hlength := readBytes_length_le chain world
        have hq : 0 < device.queueNum.toNat :=
          Nat.pos_of_ne_zero fun hz => hn (UInt16.toNat_inj.mp hz)
        unfold Separate at hpayload
        refine wordAt_congr ?_
        intro a ha hb
        exact delivered_outside (by omega)
      | ok memory =>
        obtain ⟨-,rfl⟩ := writeGuest_ok hs
        rw [hs] at h
        rw [← hacknowledged]
        refine wordAt_congr ?_
        intro a ha hb
        exact pushUsed_before h (by omega)

/-- Counting one more completed call. -/
theorem passed_count_ok {call : RequestCall} {rest : List RequestCall}
    (h : call.report.outcome=.ok ()) : passed (call::rest)=passed rest+1 := by
  have hcons := passed_cons 0 call rest
  rw [if_pos h] at hcons
  omega

/-- A failing call is not counted. -/
theorem passed_count_failed {call : RequestCall} {rest : List RequestCall}
    (h : call.report.outcome≠.ok ()) : passed (call::rest)=passed rest := by
  have hcons := passed_cons 0 call rest
  rw [if_neg h] at hcons
  omega

/-- As long as the calls stay off the ring, the used index counts those that
were completed. -/
theorem serveLoop_used (profile : Profile) (availIdx : UInt16) (device : VirtioBlock)
    (world : World) :
    (∀ call∈(serveLoop profile availIdx device world).calls,
      OffRing profile device call.head call.before) →
    ∀ earlier later, (serveLoop profile availIdx device world).calls=earlier++later →
      wordAt (leftBy world earlier).memory (usedStart device+2)=
        wordAt world.memory (usedStart device+2)+UInt16.ofNat (passed earlier) := by
  have hstart : ∀ w : UInt16, w=w+UInt16.ofNat (passed []) := fun w => (UInt16.add_zero w).symm
  induction device, world using serveLoop_induction profile availIdx with
  | done device world h =>
    intro _ earlier later hcalls
    rw [serveLoop_done h] at hcalls
    obtain ⟨rfl,-⟩ := List.append_eq_nil_iff.mp hcalls.symm
    exact hstart _
  | zero device world h hn =>
    intro _ earlier later hcalls
    rw [serveLoop_zero h hn] at hcalls
    obtain ⟨rfl,-⟩ := List.append_eq_nil_iff.mp hcalls.symm
    exact hstart _
  | unread device world fault h hn hh =>
    intro _ earlier later hcalls
    rw [serveLoop_unread h hn hh] at hcalls
    obtain ⟨rfl,-⟩ := List.append_eq_nil_iff.mp hcalls.symm
    exact hstart _
  | fails device world head fault h hn hh hr =>
    intro hoff earlier later hcalls
    rw [serveLoop_fault h hn hh hr] at hcalls hoff
    have hne : (serve profile device head world).outcome≠.ok () := by
      rw [hr]
      exact fun hc => by cases hc
    cases earlier with
    | nil => exact hstart _
    | cons first rest =>
      obtain ⟨rfl,hrest⟩ := List.cons.inj hcalls
      obtain ⟨rfl,-⟩ := List.append_eq_nil_iff.mp hrest.symm
      rw [passed_count_failed hne,leftBy,leftBy]
      exact (serve_index_failed (hoff _ List.mem_cons_self) hne).trans (hstart _)
  | passes device world head h hn hh hr ih =>
    intro hoff earlier later hcalls
    rw [serveLoop_pass h hn hh hr] at hcalls hoff
    cases earlier with
    | nil => exact hstart _
    | cons first rest =>
      obtain ⟨rfl,hrest⟩ := List.cons.inj hcalls
      have hnext := ih (fun call hm => hoff call (List.mem_cons_of_mem _ hm)) rest later hrest
      have hfirst := (serve_index_ok (hoff _ List.mem_cons_self) hr).1
      have hring : usedStart device.advance=usedStart device := rfl
      rw [hring,hfirst] at hnext
      rw [passed_count_ok hr,leftBy,hnext,← position_succ,UInt16.add_assoc,UInt16.add_comm 1]

/-- The used element that a 16-bit index some steps further selects. -/
theorem ahead_slot (index queueNum : UInt16) (n : ℕ) :
    ((index+UInt16.ofNat n)%queueNum).toNat=(index.toNat+n)%2^16%queueNum.toNat := by
  rw [UInt16.toNat_mod,UInt16.toNat_add,UInt16.toNat_ofNat',Nat.add_mod_mod]

/-- When every call was completed, all of them are counted. -/
theorem passed_eq_length {calls : List RequestCall}
    (h : ∀ call∈calls, call.report.outcome=.ok ()) : passed calls=calls.length := by
  unfold passed
  rw [List.countP_eq_length]
  intro call hm
  exact decide_eq_true (h call hm)

/-- One pass over a queue of some size consumes exactly the published entries.
Its calls go through the positions one by one, each serving the head it finds
in what the calls before it left, and all but the last are completed. A pass
that returns made as many calls as entries were published and ends at the index
it read; one that stops early has its position on the entry it stopped at. If
no request writes into the used ring, the used index has moved on by the number
of completed calls, and each of those left its head in the element of its turn. -/
theorem queue_pass_exact (profile : Profile) (device : VirtioBlock) (world : World)
    (availIdx : UInt16) (hn : device.queueNum≠0)
    (hindex : guestU16 world.memory (device.queue+2)=.ok availIdx) :
    (∀ earlier call later,
      (processQueue profile device world).calls=earlier++call::later →
        call.before=leftBy world earlier ∧
        (∃ addr : UInt64, addr.toNat=device.queue.toNat+4+
            2*((device.lastAvail.toNat+earlier.length)%2^16%device.queueNum.toNat) ∧
          guestU16 call.before.memory addr=.ok call.head) ∧
        call.report=serve profile device call.head call.before ∧
        ∀ other∈earlier, other.report.outcome=.ok ()) ∧
    (processQueue profile device world).world=
      leftBy world (processQueue profile device world).calls ∧
    ((processQueue profile device world).outcome=.ok () →
      (processQueue profile device world).calls.length=
          (availIdx.toNat+2^16-device.lastAvail.toNat)%2^16 ∧
        (∀ call∈(processQueue profile device world).calls, call.report.outcome=.ok ()) ∧
        (processQueue profile device world).device.lastAvail=availIdx) ∧
    (∀ fault, (processQueue profile device world).outcome=.error fault →
      ∃ n < (availIdx.toNat+2^16-device.lastAvail.toNat)%2^16,
        (processQueue profile device world).device.lastAvail=device.lastAvail+UInt16.ofNat n ∧
        StopsAt device world (processQueue profile device world).calls fault n) ∧
    ((∀ call∈(processQueue profile device world).calls,
        OffRing profile device call.head call.before) →
      wordAt (processQueue profile device world).world.memory (usedStart device+2)=
          wordAt world.memory (usedStart device+2)+
            UInt16.ofNat (passed (processQueue profile device world).calls) ∧
        ∀ earlier call later,
          (processQueue profile device world).calls=earlier++call::later →
          call.report.outcome=.ok () →
            slice call.report.world.memory.byte (usedStart device+4+
              8*(((wordAt world.memory (usedStart device+2)).toNat+earlier.length)%2^16%
                device.queueNum.toNat)) 4=leBytes 4 call.head.toUInt32.toNat) := by
  have hpass : processQueue profile device world=serveLoop profile availIdx device world := by
    rw [processQueue,hindex]
  have hpending : device.pending availIdx=
      (availIdx.toNat+2^16-device.lastAvail.toNat)%2^16 := by
    have hlast := device.lastAvail.toNat_lt
    have havail := availIdx.toNat_lt
    rw [VirtioBlock.pending,UInt16.toNat_sub]
    omega
  have hsplit := serveLoop_split profile availIdx device world
  have hworld := serveLoop_leftBy profile availIdx device world
  rw [hpass]
  refine ⟨?_,hworld,?_,?_,?_⟩
  · intro earlier call later hcalls
    obtain ⟨-,hbefore,hhead,hreport,hok⟩ := hsplit earlier call later hcalls
    exact ⟨hbefore,⟨_,ahead_headAddr device earlier.length,hhead⟩,hreport,hok⟩
  · intro hok
    obtain ⟨hlast,hall⟩ := serveLoop_returns profile availIdx device world hok
    refine ⟨?_,hall,hlast⟩
    rw [serveLoop_length profile availIdx device world hlast,hpending]
  · intro fault hfault
    obtain ⟨n,hlt,hdevice,hstop⟩ := serveLoop_stops profile availIdx device world hn fault hfault
    rw [hpending] at hlt
    exact ⟨n,hlt,by rw [hdevice,ahead],hstop⟩
  · intro hoff
    have hused := serveLoop_used profile availIdx device world hoff
    refine ⟨?_,?_⟩
    · rw [hworld]
      exact hused _ [] (List.append_nil _).symm
    · intro earlier call later hcalls hcall
      obtain ⟨-,hbefore,-,hreport,hok⟩ := hsplit earlier call later hcalls
      have hmember : call∈(serveLoop profile availIdx device world).calls := by
        rw [hcalls]
        exact List.mem_append_right _ List.mem_cons_self
      have hcount := hused earlier (call::later) hcalls
      rw [hreport] at hcall
      obtain ⟨-,hslice⟩ := serve_index_ok (hoff call hmember) hcall
      rw [← hreport,hbefore,hcount,passed_eq_length hok,ahead_slot] at hslice
      exact hslice

/-- The pass over a published write request makes one call and ends at index one. -/
theorem queue_pass_exact_write :
    (processQueue .release smallDevice ⟨batchMemory 1,blankImage⟩).outcome=.ok () ∧
      (processQueue .release smallDevice ⟨batchMemory 1,blankImage⟩).calls.length=1 ∧
      (processQueue .release smallDevice ⟨batchMemory 1,blankImage⟩).device.lastAvail=1 := by
  have hindex : guestU16 (batchMemory 1) (smallDevice.queue+2)=.ok 1 := by decide +kernel
  have hhead : guestU16 (batchMemory 1) smallDevice.headAddr=.ok 1 := by decide +kernel
  have hserve : (serve .release smallDevice 1 ⟨batchMemory 1,blankImage⟩).outcome=.ok () := by
    decide +kernel
  have hok : (processQueue .release smallDevice ⟨batchMemory 1,blankImage⟩).outcome=.ok () := by
    rw [processQueue,hindex]
    dsimp only
    rw [serveLoop_pass (by decide) (by decide) hhead hserve]
    dsimp only
    rw [serveLoop_done (by decide)]
  obtain ⟨hlength,-,hlast⟩ := (queue_pass_exact .release smallDevice ⟨batchMemory 1,blankImage⟩ 1
    (by decide) hindex).2.2.1 hok
  exact ⟨hok,hlength,hlast⟩

end LiteDroid.VmmQueueTrace
