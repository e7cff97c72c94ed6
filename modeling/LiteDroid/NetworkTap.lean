import LiteDroid.CoreResults
import LiteDroid.CoreText
import LiteDroid.LittleEndian
import LiteDroid.ListSplice

/-!
# Addresses of the tap interface

The address and the mask of the tap interface are given to the kernel in a
request whose address field is expected in network byte order. The octets of an
address are first folded into a number with the most significant octet first,
and the number is then stored in the byte order of the host, which is little
endian here. The kernel finds the octets the other way round.
-/

namespace LiteDroid.NetworkTap

open CoreResults CoreText LittleEndian ListSplice

/-- The four octets of an address. -/
structure Ipv4Addr where
  /-- First octet. -/
  a : UInt8
  /-- Second octet. -/
  b : UInt8
  /-- Third octet. -/
  c : UInt8
  /-- Fourth octet. -/
  d : UInt8
  deriving DecidableEq, Repr

/-- The octets in order. -/
def Ipv4Addr.octets (ip : Ipv4Addr) : List UInt8 := [ip.a,ip.b,ip.c,ip.d]

/-- The value of some decimal digits. -/
def decimal (digits : List Char) : ℕ := digits.foldl (fun value c => value*10+(c.toNat-48)) 0

/-- An octet in decimal: one to three digits, without a leading zero. -/
def parseOctet (digits : List Char) : Option UInt8 :=
  if digits=[] ∨ 3 < digits.length ∨ !(digits.all Char.isDigit) then none
  else if digits.head?=some '0' ∧ 1 < digits.length then none
  else if 255 < decimal digits then none
  else some (UInt8.ofNat (decimal digits))

/-- An address in dotted decimal, as the standard library reads it. -/
def Ipv4Addr.parse (text : String) : Option Ipv4Addr :=
  match text.toList.splitOn '.' with
  | [first,second,third,fourth] => do
    return ⟨← parseOctet first,← parseOctet second,← parseOctet third,← parseOctet fourth⟩
  | _ => none

/-- An address as the number that the kernel interface takes. -/
def parseIp (addr : String) : Except LiteDroidError UInt32 :=
  match Ipv4Addr.parse addr with
  | none => .error (.networkInterfaceFailed s!"invalid IP: {addr}")
  | some ip => .ok (UInt32.ofNat (beNat ip.octets))

/-- The socket address of an interface. -/
structure SockaddrIn where
  /-- Address family. -/
  sinFamily : UInt16
  /-- Port. -/
  sinPort : UInt16
  /-- Address. -/
  sinAddr : UInt32
  /-- Padding. -/
  sinZero : List UInt8
  /-- There are eight bytes of padding. -/
  zero_length : sinZero.length=8

/-- The memory of a socket address on a little-endian host. -/
def SockaddrIn.bytes (sa : SockaddrIn) : List UInt8 :=
  leBytes 2 sa.sinFamily.toNat++leBytes 2 sa.sinPort.toNat++leWord sa.sinAddr++sa.sinZero

/-- A socket address has sixteen bytes. -/
theorem SockaddrIn.bytes_length (sa : SockaddrIn) : sa.bytes.length=16 := by
  simp only [SockaddrIn.bytes,List.length_append,leBytes_length,leWord_length,sa.zero_length]

/-- The family of internet addresses. -/
def afInet : UInt16 := 2

/-- The socket address that starts out zeroed and is given a family and an address. -/
def SockaddrIn.ofAddr (addr : UInt32) : SockaddrIn :=
  ⟨afInet,0,addr,List.replicate 8 0,List.length_replicate⟩

/-- An interface request. -/
structure IfReq where
  /-- Name of the interface. -/
  name : List UInt8
  /-- The union of the request's arguments. -/
  data : List UInt8
  /-- A name has sixteen bytes. -/
  name_length : name.length=16
  /-- The arguments have 24 bytes. -/
  data_length : data.length=24

/-- A request of zeros. -/
def IfReq.new : IfReq :=
  ⟨List.replicate 16 0,List.replicate 24 0,List.length_replicate,List.length_replicate⟩

/-- Set the name, cut to the size of the field and terminated. -/
def IfReq.setName (ifr : IfReq) (name : String) : IfReq :=
  let bytes := asBytes name
  let len := min bytes.length (ifr.name.length-1)
  {ifr with
    name := (splice ifr.name 0 (bytes.take len)).set len 0
    name_length := by
      have hlength := ifr.name_length
      rw [List.length_set,splice_length,hlength]
      rw [List.length_take]
      omega}

/-- Copy a socket address over the arguments. -/
def IfReq.setSockaddrIn (ifr : IfReq) (sa : SockaddrIn) : IfReq :=
  {ifr with
    data := splice ifr.data 0 sa.bytes
    data_length := by
      rw [splice_length,ifr.data_length]
      rw [sa.bytes_length,ifr.data_length]
      decide}

/-- The tap interface. -/
structure TapInterface where
  /-- File descriptor. -/
  fd : Int32
  /-- Name given by the kernel. -/
  name : String

/-- A call of the kernel. -/
structure Ioctl where
  /-- File descriptor. -/
  fd : Int32
  /-- Number of the request. -/
  request : UInt64
  /-- Its argument. -/
  ifr : IfReq

/-- What configuring the interface did. -/
structure TapReport where
  /-- Its result. -/
  outcome : Outcome Unit
  /-- The calls of the kernel. -/
  calls : List Ioctl

/-- Give the kernel an address in a request, and the kernel's answer in a refusal. -/
def TapInterface.setAddress (tap : TapInterface) (request : UInt64) (label : String)
    (ioctl : Ioctl → Except String Unit) (addr : String) : TapReport :=
  match parseIp addr with
  | .error e => ⟨.error (.error e),[]⟩
  | .ok inAddr =>
    let call : Ioctl :=
      ⟨tap.fd,request,(IfReq.new.setName tap.name).setSockaddrIn (.ofAddr inAddr)⟩
    match ioctl call with
    | .error e =>
      ⟨.error (.error (.networkInterfaceFailed s!"{label} failed for {tap.name}: {e}")),[call]⟩
    | .ok () => ⟨.ok (),[call]⟩

/-- Assign an address to the interface. -/
def TapInterface.setIpAddress (tap : TapInterface) : (Ioctl → Except String Unit) → String →
    TapReport := tap.setAddress 0x8916 "SIOCSIFADDR"

/-- Set the mask of the interface. -/
def TapInterface.setNetmask (tap : TapInterface) : (Ioctl → Except String Unit) → String →
    TapReport := tap.setAddress 0x891c "SIOCSIFNETMASK"

/-- The address field of a request. -/
def IfReq.sinAddr (ifr : IfReq) : List UInt8 := (ifr.data.drop 4).take 4

/-- A request that was given a socket address holds the bytes of its number. -/
theorem sinAddr_set (ifr : IfReq) (addr : UInt32) :
    (ifr.setSockaddrIn (.ofAddr addr)).sinAddr=leWord addr := by
  have hfamily : (SockaddrIn.ofAddr addr).bytes=
      [2,0,0,0]++(leWord addr++List.replicate 8 0) := by
    simp only [SockaddrIn.bytes,SockaddrIn.ofAddr,List.append_assoc]
    rfl
  have hword := leWord_length addr
  simp only [IfReq.sinAddr,IfReq.setSockaddrIn,splice,List.take_zero,List.nil_append,hfamily,
    List.append_assoc]
  have hfour : ([2,0,0,0] : List UInt8).length=4 := rfl
  rw [List.drop_left' hfour,List.take_left' hword]

/-- The number of an address has its octets the other way round. -/
theorem leWord_octets (ip : Ipv4Addr) :
    leWord (UInt32.ofNat (beNat ip.octets))=ip.octets.reverse := by
  have hlt : beNat ip.octets < 256^4 := beNat_lt ip.octets
  rw [leWord,UInt32.toNat_ofNat',Nat.mod_eq_of_lt (by omega)]
  exact leBytes_beNat ip.octets

/-- An accepted address reaches the kernel in one call, with its octets the other
way round. -/
theorem setAddress_calls (tap : TapInterface) (request : UInt64) (label : String)
    (ioctl : Ioctl → Except String Unit) {addr : String} {ip : Ipv4Addr}
    (h : Ipv4Addr.parse addr=some ip) :
    ∃ call, (tap.setAddress request label ioctl addr).calls=[call] ∧ call.request=request ∧
      call.ifr.sinAddr=ip.octets.reverse := by
  refine ⟨⟨tap.fd,request,(IfReq.new.setName tap.name).setSockaddrIn
    (.ofAddr (UInt32.ofNat (beNat ip.octets)))⟩,?_,rfl,?_⟩
  · simp only [TapInterface.setAddress,parseIp,h]
    split
    · rfl
    · rfl
  · rw [sinAddr_set,leWord_octets]

/-- What configuring the interface gives to the kernel is one request, with the
octets of an address in their order. -/
def Ordered (report : TapReport) (ip : Ipv4Addr) : Prop :=
  ∃ call, report.calls=[call] ∧ call.ifr.sinAddr=ip.octets

/-- The kernel is given the octets in order exactly when they read the same both
ways. -/
theorem setAddress_ordered_iff (tap : TapInterface) (request : UInt64) (label : String)
    (ioctl : Ioctl → Except String Unit) {addr : String} {ip : Ipv4Addr}
    (h : Ipv4Addr.parse addr=some ip) :
    Ordered (tap.setAddress request label ioctl addr) ip ↔ ip.a=ip.d ∧ ip.b=ip.c := by
  obtain ⟨call,hcalls,-,hfield⟩ := setAddress_calls tap request label ioctl h
  have hordered : Ordered (tap.setAddress request label ioctl addr) ip ↔
      ip.octets.reverse=ip.octets := by
    unfold Ordered
    rw [hcalls,← hfield]
    constructor
    · rintro ⟨other,hother,hoctets⟩
      rwa [(List.singleton_inj.mp hother).symm] at hoctets
    · exact fun hoctets => ⟨call,rfl,hoctets⟩
  rw [hordered]
  simp only [Ipv4Addr.octets,List.reverse_cons,List.reverse_nil,List.nil_append,List.cons_append,
    List.cons.injEq,and_true]
  constructor
  · rintro ⟨had,hbc,-,-⟩
    exact ⟨had.symm,hbc.symm⟩
  · rintro ⟨had,hbc⟩
    exact ⟨had.symm,hbc.symm,hbc,had⟩

/-- An address that is accepted is given to the kernel in network byte order, as
the address and as the mask of the interface, exactly when its first octet is
the fourth and its second one the third. -/
theorem interface_address_iff (tap : TapInterface) (ioctl : Ioctl → Except String Unit)
    (addr : String) (ip : Ipv4Addr) (h : Ipv4Addr.parse addr=some ip) :
    (Ordered (tap.setIpAddress ioctl addr) ip ∧ Ordered (tap.setNetmask ioctl addr) ip) ↔
      ip.a=ip.d ∧ ip.b=ip.c := by
  have haddress := setAddress_ordered_iff tap 0x8916 "SIOCSIFADDR" ioctl h
  have hmask := setAddress_ordered_iff tap 0x891c "SIOCSIFNETMASK" ioctl h
  constructor
  · intro hboth
    exact haddress.mp hboth.1
  · intro hsame
    exact ⟨haddress.mpr hsame,hmask.mpr hsame⟩

/-- The same octets both ways are given in order. -/
theorem interface_address_iff_palindrome :
    Ordered (TapInterface.setIpAddress ⟨3,"litedroid-tap0"⟩ (fun _ => .ok ()) "10.0.0.10")
        ⟨10,0,0,10⟩ ∧
      Ordered (TapInterface.setNetmask ⟨3,"litedroid-tap0"⟩ (fun _ => .ok ()) "10.0.0.10")
        ⟨10,0,0,10⟩ :=
  (interface_address_iff ⟨3,"litedroid-tap0"⟩ (fun _ => .ok ()) "10.0.0.10" ⟨10,0,0,10⟩
    (by decide +kernel)).mpr ⟨rfl,rfl⟩

/-- The gateway of the guest is given to the kernel as 1.2.0.10. -/
theorem gateway_reversed :
    Ipv4Addr.parse "10.0.2.1"=some ⟨10,0,2,1⟩ ∧
      ((TapInterface.setIpAddress ⟨3,"litedroid-tap0"⟩ (fun _ => .ok ()) "10.0.2.1").calls.map
        fun call => call.ifr.sinAddr)=[[1,2,0,10]] ∧
      ¬Ordered (TapInterface.setIpAddress ⟨3,"litedroid-tap0"⟩ (fun _ => .ok ()) "10.0.2.1")
        ⟨10,0,2,1⟩ := by
  have hparse : Ipv4Addr.parse "10.0.2.1"=some ⟨10,0,2,1⟩ := by decide +kernel
  refine ⟨hparse,by decide +kernel,?_⟩
  unfold TapInterface.setIpAddress
  rw [setAddress_ordered_iff _ _ _ _ hparse]
  decide

end LiteDroid.NetworkTap
