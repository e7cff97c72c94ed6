import LiteDroid.DevicesRuns

/-!
# What the devices of a bus hold

A register holds what was last written to it. A console has put out what was
transmitted, in order and byte for byte. A source of random numbers has handed
out its bytes one after another, none of them twice. An audio device waits with
the bytes that came in since it last played two kilobytes, so that its buffer
never runs full.
-/

namespace LiteDroid.DevicesStates

open CoreResults LittleEndian DevicesBus DevicesKinds DevicesRuns

/-- What a register holds after calls: the value last written to it, or the one
that a reset gives it. -/
def registerAfter (offset : UInt64) (fresh : UInt32) : UInt32 → List DeviceCall → UInt32
  | held,[] => held
  | held,.read _ _::rest => registerAfter offset fresh held rest
  | held,.write at_ _ value::rest =>
    registerAfter offset fresh (if at_=offset then value.toUInt32 else held) rest
  | _,.reset::rest => registerAfter offset fresh fresh rest

/-- The bytes that a call transmits on a console. -/
def transmits : DeviceCall → Option (List UInt8)
  | .write offset size value => if offset=0x100 then some (transmitted size value) else none
  | _ => none

/-- What a console holds after calls. -/
theorem serial_after : ∀ (calls : List DeviceCall) (status : UInt32) (output : List (List UInt8)),
    (serve deviceCall (Device.serial ⟨status,0,output⟩) calls).2=
      .serial ⟨registerAfter 0x40 0 status calls,0,output++calls.filterMap transmits⟩ := by
  intro calls
  induction calls with
  | nil =>
    intro status output
    rw [List.filterMap_nil,List.append_nil]
    rfl
  | cons call rest ih =>
    intro status output
    cases call with
    | read offset size => exact ih status output
    | write offset size value =>
      change (serve deviceCall (Device.serial
        (VirtioSerialDevice.mmioWrite ⟨status,0,output⟩ offset size value)) rest).2=_
      rw [VirtioSerialDevice.mmioWrite,registerAfter,List.filterMap_cons,transmits]
      by_cases hstatus : offset=0x40
      · have hdata : offset≠0x100 := by
          rw [hstatus]
          decide
        rw [if_pos hstatus,if_pos hstatus,if_neg hdata]
        exact ih value.toUInt32 output
      · rw [if_neg hstatus,if_neg hstatus]
        split
        · rw [ih,List.append_assoc]
          rfl
        · exact ih status output
    | reset => exact ih 0 output

/-- The bytes that wait of all that came in since the last reset: those behind
the last full two kilobytes. -/
def waiting (bytes : List UInt8) : List UInt8 :=
  bytes.drop (bytes.length/flushThreshold*flushThreshold)

/-- The audio bytes that came in since the last reset. -/
def audioBytes : List UInt8 → List DeviceCall → List UInt8
  | held,[] => held
  | held,.read _ _::rest => audioBytes held rest
  | held,.write offset _ value::rest =>
    audioBytes (if offset=0x04 then held++[value.toUInt8] else held) rest
  | _,.reset::rest => audioBytes [] rest

/-- Fewer than two kilobytes wait. -/
theorem waiting_length (bytes : List UInt8) :
    (waiting bytes).length=bytes.length%flushThreshold := by
  rw [waiting,List.length_drop,flushThreshold]
  omega

/-- One more byte waits behind the others, or all of them are played. -/
theorem waiting_snoc (bytes : List UInt8) (byte : UInt8) :
    waiting (bytes++[byte])=
      if flushThreshold ≤ (waiting bytes++[byte]).length then [] else waiting bytes++[byte] := by
  have hlength : (bytes++[byte]).length=bytes.length+1 := by
    rw [List.length_append,List.length_singleton]
  rw [List.length_append,waiting_length,List.length_singleton,waiting,waiting,hlength]
  rw [flushThreshold]
  split
  · rw [List.drop_eq_nil_iff,hlength]
    omega
  · have hsame : (bytes.length+1)/2048*2048=bytes.length/2048*2048 := by omega
    rw [hsame,List.drop_append_of_le_length (by omega)]

/-- A byte is never lost because the buffer is full. -/
theorem push_waiting (bytes : List UInt8) (byte : UInt8) (sampleRate channels status : UInt32) :
    (AudioDevice.push ⟨waiting bytes,sampleRate,channels,status⟩ byte).flushBuffer=
      ⟨waiting (bytes++[byte]),sampleRate,channels,status⟩ := by
  have hroom : (waiting bytes).length < audioBufSize := by
    rw [waiting_length,flushThreshold,audioBufSize]
    omega
  rw [AudioDevice.push,if_pos hroom,AudioDevice.flushBuffer,waiting_snoc]
  split
  · rfl
  · rfl

/-- What an audio device holds after calls. -/
theorem audio_after : ∀ (calls : List DeviceCall) (bytes : List UInt8)
    (sampleRate channels status : UInt32),
    (serve deviceCall (Device.audio ⟨waiting bytes,sampleRate,channels,status⟩) calls).2=
      .audio ⟨waiting (audioBytes bytes calls),registerAfter 0x08 48000 sampleRate calls,
        registerAfter 0x0c 2 channels calls,registerAfter 0x10 0 status calls⟩ := by
  intro calls
  induction calls with
  | nil => exact fun _ _ _ _ => rfl
  | cons call rest ih =>
    intro bytes sampleRate channels status
    cases call with
    | read offset size => exact ih bytes sampleRate channels status
    | write offset size value =>
      have hafter : (AudioDevice.mk (waiting bytes) sampleRate channels status).mmioWrite
          offset size value=⟨waiting (if offset=0x04 then bytes++[value.toUInt8] else bytes),
            if offset=0x08 then value.toUInt32 else sampleRate,
            if offset=0x0c then value.toUInt32 else channels,
            if offset=0x10 then value.toUInt32 else status⟩ := by
        rw [AudioDevice.mmioWrite,push_waiting]
        have hdifferent : (0x00 : UInt64)≠0x04 ∧ (0x00 : UInt64)≠0x08 ∧ (0x00 : UInt64)≠0x0c ∧
            (0x00 : UInt64)≠0x10 ∧ (0x04 : UInt64)≠0x08 ∧ (0x04 : UInt64)≠0x0c ∧
            (0x04 : UInt64)≠0x10 ∧ (0x08 : UInt64)≠0x0c ∧ (0x08 : UInt64)≠0x10 ∧
            (0x0c : UInt64)≠0x10 := by decide
        repeat' split
        all_goals simp_all
      change (serve deviceCall (Device.audio
        ((AudioDevice.mk (waiting bytes) sampleRate channels status).mmioWrite
          offset size value)) rest).2=_
      rw [hafter,ih]
      rfl
    | reset =>
      have hfresh : (deviceCall (Device.audio ⟨waiting bytes,sampleRate,channels,status⟩) .reset).2=
          .audio ⟨waiting [],48000,2,0⟩ := rfl
      rw [serve]
      dsimp only
      rw [hfresh,ih]
      rfl

/-- The size of a data read of a source of random numbers. -/
def draws : DeviceCall → Option UInt32
  | .read offset size => if offset=0x100 then some size else none
  | _ => none

/-- The data reads among recorded calls, with their answers. -/
def drawn (log : List (DeviceCall×Reply)) : List (UInt32×Reply) :=
  log.filterMap fun entry => (draws entry.1).map (·,entry.2)

/-- A data read of some size takes a part of the file and has a value. -/
inductive Drawn (size : UInt32) : List (Option UInt8) → UInt64 → Prop where
  /-- It takes as many bytes, and its value is the number they are when the last
  one is the least significant; of more than eight bytes the last eight count. -/
  | full (bytes : List UInt8) (hlength : bytes.length=size.toNat) :
      Drawn size (bytes.map some) (UInt64.ofNat (beNat bytes))
  /-- An error or the end of the file comes before: its value is zero. -/
  | short (bytes : List UInt8) (error : List (Option UInt8)) (hlength : bytes.length < size.toNat)
      (herror : error=[none] ∨ error=[]) : Drawn size (bytes.map some++error) 0

/-- Folding bytes into a register gives the number with the last byte as the
least significant one, cut to the width of the register. -/
theorem foldBytes_eq (bytes : List UInt8) : foldBytes bytes=UInt64.ofNat (beNat bytes) := by
  apply UInt64.toNat_inj.mp
  rw [UInt64.toNat_ofNat']
  induction bytes using List.reverseRecOn with
  | nil => rfl
  | append_singleton front byte ih =>
    have hbyte := byte.toNat_lt
    have hstep : foldBytes (front++[byte])=foldBytes front<<<8|||byte.toUInt64 := by
      rw [foldBytes,List.foldl_append]
      rfl
    have hshift : (foldBytes front).toNat<<<8%2^64=((foldBytes front).toNat%2^56)<<<8 := by
      rw [Nat.shiftLeft_eq,Nat.shiftLeft_eq]
      omega
    have height : (8 : UInt64).toNat%64=8 := rfl
    rw [hstep,beNat_snoc,UInt64.toNat_or,UInt64.toNat_shiftLeft,UInt8.toNat_toUInt64,height,hshift,
      ← Nat.shiftLeft_add_eq_or_of_lt hbyte,Nat.shiftLeft_eq,ih]
    omega

/-- What filling a buffer takes from a file. -/
theorem readExact_takes : ∀ (n : ℕ) (file : List (Option UInt8)),
    match readExact n file with
    | (some bytes,rest) => file=bytes.map some++rest ∧ bytes.length=n
    | (none,rest) => ∃ (bytes : List UInt8) (error : List (Option UInt8)),
        file=bytes.map some++error++rest ∧ bytes.length < n ∧ (error=[none] ∨ error=[]) := by
  intro n
  induction n with
  | zero => exact fun _ => ⟨rfl,rfl⟩
  | succ n ih =>
    intro file
    cases file with
    | nil => exact ⟨[],[],rfl,Nat.succ_pos n,.inr rfl⟩
    | cons answer rest =>
      cases answer with
      | none => exact ⟨[],[none],rfl,Nat.succ_pos n,.inl rfl⟩
      | some byte =>
        have hlater := ih rest
        rw [readExact]
        generalize readExact n rest=later at hlater
        obtain ⟨result,left⟩ := later
        cases result with
        | some bytes =>
          obtain ⟨hrest,hlength⟩ := hlater
          exact ⟨congrArg (some byte::·) hrest,congrArg Nat.succ hlength⟩
        | none =>
          obtain ⟨bytes,error,hrest,hlength,herror⟩ := hlater
          exact ⟨byte::bytes,error,congrArg (some byte::·) hrest,Nat.succ_lt_succ hlength,herror⟩

/-- A data read takes a part of the file and has the value of that part. -/
theorem data_read (device : VirtioRngDevice) (size : UInt32) :
    ∃ taken rest value, device.urandom=taken++rest ∧ Drawn size taken value ∧
      deviceCall (Device.rng device) (.read 0x100 size)=
        (.value (.ok value),.rng ⟨device.status,rest⟩) := by
  have htakes := readExact_takes size.toNat device.urandom
  have hread : device.mmioRead 0x100 size=
      (randomValue (readExact size.toNat device.urandom).1,
        {device with urandom := (readExact size.toNat device.urandom).2}) := rfl
  have hcall : deviceCall (Device.rng device) (.read 0x100 size)=
      (.value (.ok (device.mmioRead 0x100 size).1),.rng (device.mmioRead 0x100 size).2) := rfl
  rw [hcall,hread]
  generalize readExact size.toNat device.urandom=out at htakes
  obtain ⟨result,rest⟩ := out
  cases result with
  | some bytes =>
    obtain ⟨hfile,hlength⟩ := htakes
    have hdrawn : Drawn size (bytes.map some) (foldBytes bytes) := by
      rw [foldBytes_eq]
      exact .full bytes hlength
    exact ⟨bytes.map some,rest,foldBytes bytes,hfile,hdrawn,rfl⟩
  | none =>
    obtain ⟨bytes,error,hfile,hlength,herror⟩ := htakes
    exact ⟨bytes.map some++error,rest,0,hfile,.short bytes error hlength herror,rfl⟩

/-- Data reads hand out parts of a file that follow one another, and leave its rest. -/
def HandsOut (reads : List (UInt32×Reply)) (file rest : List (Option UInt8)) : Prop :=
  ∃ taken : List (List (Option UInt8)), file=taken.flatten++rest ∧
    List.Forall₂ (fun entry part => ∃ value, entry.2=.value (.ok value) ∧
      Drawn entry.1 part value) reads taken

/-- A read that hands out the first part of a file goes before those that hand out the rest. -/
theorem HandsOut.cons {size : UInt32} {value : UInt64} {part file rest : List (Option UInt8)}
    {reads : List (UInt32×Reply)} (hpart : Drawn size part value) (h : HandsOut reads file rest) :
    HandsOut ((size,.value (.ok value))::reads) (part++file) rest := by
  obtain ⟨taken,hfile,hparts⟩ := h
  refine ⟨part::taken,?_,.cons ⟨value,rfl,hpart⟩ hparts⟩
  rw [hfile,List.flatten_cons,List.append_assoc]

/-- What a source of random numbers has handed out and holds after calls. -/
theorem rng_after : ∀ (calls : List DeviceCall) (device : VirtioRngDevice), ∃ rest,
    HandsOut (drawn (serve deviceCall (Device.rng device) calls).1) device.urandom rest ∧
      (serve deviceCall (Device.rng device) calls).2=
        .rng ⟨registerAfter 0x40 0 device.status calls,rest⟩ := by
  intro calls
  induction calls with
  | nil => exact fun device => ⟨device.urandom,⟨[],rfl,.nil⟩,rfl⟩
  | cons call rest ih =>
    intro device
    -- A call that draws nothing leaves the file alone.
    have hidle : ∀ status, (deviceCall (Device.rng device) call).2=.rng ⟨status,device.urandom⟩ →
        registerAfter 0x40 0 status rest=registerAfter 0x40 0 device.status (call::rest) →
        draws call=none → ∃ left,
          HandsOut (drawn (serve deviceCall (Device.rng device) (call::rest)).1)
            device.urandom left ∧
          (serve deviceCall (Device.rng device) (call::rest)).2=
            .rng ⟨registerAfter 0x40 0 device.status (call::rest),left⟩ := by
      intro status hnext hregister hnone
      obtain ⟨left,hparts,hstate⟩ := ih ⟨status,device.urandom⟩
      rw [serve,drawn]
      dsimp only
      rw [List.filterMap_cons,hnone,hnext,← hregister]
      exact ⟨left,hparts,hstate⟩
    cases call with
    | read offset size =>
      by_cases hdata : offset=0x100
      · subst hdata
        obtain ⟨part,file,value,htaken,hdrawn,hcall⟩ := data_read device size
        obtain ⟨left,hparts,hstate⟩ := ih ⟨device.status,file⟩
        rw [serve,hcall,htaken]
        exact ⟨left,hparts.cons hdrawn,hstate⟩
      · refine hidle device.status ?_ rfl (if_neg hdata)
        change Device.rng (device.mmioRead offset size).2=_
        rw [VirtioRngDevice.mmioRead,if_neg hdata]
        repeat' split
        all_goals rfl
    | write offset size value =>
      refine hidle (if offset=0x40 then value.toUInt32 else device.status) ?_ rfl rfl
      change Device.rng (device.mmioWrite offset size value)=_
      rw [VirtioRngDevice.mmioWrite]
      split
      · rfl
      · rfl
    | reset => exact hidle 0 rfl rfl rfl

/-- On a bus that serves any accesses and resets, a console puts out what is
transmitted in its window, all of it, in order and nothing else. -/
theorem console_output {bus : VirtioBus Device} {i : ℕ} {status : UInt32}
    {output : List (List UInt8)} (h : bus.devices[i]?=some (.serial ⟨status,0,output⟩))
    (calls : List BusCall) :
    (serve busCall bus calls).2.devices[i]?=some (.serial
      ⟨registerAfter 0x40 0 status (calls.filterMap (BusCall.routed i)),0,
        output++(calls.filterMap (BusCall.routed i)).filterMap transmits⟩) := by
  rw [(serve_device reset_ok i calls bus _ h).2,serial_after]

/-- A bus with a console on it, and behind it a source of random numbers and an
audio device. -/
def sampleBus : VirtioBus Device where
  devices := [.serial (.new []),.rng (.new [some 7,some 1,none,some 9]),.audio .new]
  devices_le := by decide

/-- Two bytes, a reset and one byte arrive as two calls of the callback. -/
theorem console_output_sample :
    (serve busCall sampleBus [.write 0xfea00100 2 0x4241,.resetAll,.write 0xfea00300 1 9,
        .write 0xfea00100 1 0x43]).2.devices[0]?=
      some (.serial ⟨0,0,[[0x41,0x42],[0x43]]⟩) :=
  @console_output sampleBus 0 0 [] rfl _

/-- On a bus that serves any accesses and resets, the data reads of a source of
random numbers take parts of the file that follow one another, so that no byte
is handed out twice, and each read has the value of its own part. -/
theorem random_bytes_once {bus : VirtioBus Device} {i : ℕ} {device : VirtioRngDevice}
    (h : bus.devices[i]?=some (.rng device)) (calls : List BusCall) : ∃ rest,
    HandsOut (drawn ((serve busCall bus calls).1.filterMap (routedEntry i)))
        device.urandom rest ∧
      (serve busCall bus calls).2.devices[i]?=some (.rng
        ⟨registerAfter 0x40 0 device.status (calls.filterMap (BusCall.routed i)),rest⟩) := by
  obtain ⟨hlog,hdevice⟩ := serve_device reset_ok i calls bus _ h
  obtain ⟨rest,hparts,hstate⟩ := rng_after (calls.filterMap (BusCall.routed i)) device
  rw [hdevice,hstate,hlog]
  exact ⟨rest,hparts,rfl⟩

/-- Two reads of the second device, with a reset and an access elsewhere between them. -/
theorem random_bytes_sample : ∃ rest,
    HandsOut (drawn ((serve busCall sampleBus [.read 0xfea00300 2,.resetAll,.read 0xfea00100 1,
        .read 0xfea00300 4]).1.filterMap (routedEntry 1))) [some 7,some 1,none,some 9] rest ∧
      (serve busCall sampleBus [.read 0xfea00300 2,.resetAll,.read 0xfea00100 1,
        .read 0xfea00300 4]).2.devices[1]?=some (.rng ⟨0,rest⟩) :=
  @random_bytes_once sampleBus 1 (.new [some 7,some 1,none,some 9]) rfl _

/-- On a bus that serves any accesses and resets, an audio device waits with the
bytes behind the last full two kilobytes since its last reset, fewer than two
kilobytes, and its registers hold what was last written to them. -/
theorem audio_waits {bus : VirtioBus Device} {i : ℕ} (h : bus.devices[i]?=some (.audio .new))
    (calls : List BusCall) :
    let own := calls.filterMap (BusCall.routed i)
    (serve busCall bus calls).2.devices[i]?=some (.audio ⟨waiting (audioBytes [] own),
        registerAfter 0x08 48000 48000 own,registerAfter 0x0c 2 2 own,
        registerAfter 0x10 0 0 own⟩) ∧
      (waiting (audioBytes [] own)).length=(audioBytes [] own).length%2048 := by
  intro own
  have hafter := audio_after own [] 48000 2 0
  refine ⟨?_,waiting_length _⟩
  rw [(serve_device reset_ok i calls bus _ h).2,← hafter]
  rfl

/-- Of two bytes around a reset the second one waits, and the sample rate is reset. -/
theorem audio_waits_sample :
    (serve busCall sampleBus [.write 0xfea00404 1 0x80,.write 0xfea00408 4 44100,.resetAll,
        .write 0xfea00404 1 0x81]).2.devices[2]?=some (.audio ⟨[0x81],48000,2,0⟩) ∧
      (waiting [0x81]).length=1 :=
  @audio_waits sampleBus 2 rfl [.write 0xfea00404 1 0x80,.write 0xfea00408 4 44100,.resetAll,
    .write 0xfea00404 1 0x81]

end LiteDroid.DevicesStates
