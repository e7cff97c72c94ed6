import LiteDroid.CoreResults
import Mathlib.Tactic.SplitIfs

/-!
# Device configurations and boot constants

The limits a configuration is checked against and the guest-physical
addresses of the boot images, as the core crate fixes them. A configuration
keeps the fields that the monitor reads.
-/

namespace LiteDroid.CoreDeviceConfig

open CoreResults

/-- Default RAM size in megabytes. -/
def defaultRamMb : UInt64 := 2048

/-- Minimum allowed RAM size in megabytes. -/
def minRamMb : UInt64 := 512

/-- Maximum allowed RAM size in megabytes. -/
def maxRamMb : UInt64 := 8192

/-- Guest physical address where the kernel is loaded. -/
def kernelLoadAddr : UInt64 := 0x100000

/-- Its value. -/
@[simp] theorem kernelLoadAddr_toNat : kernelLoadAddr.toNat=0x100000 := by decide

/-- Guest physical address where the initramfs is loaded. -/
def initramfsLoadAddr : UInt64 := 0x8000000

/-- Its value. -/
@[simp] theorem initramfsLoadAddr_toNat : initramfsLoadAddr.toNat=0x8000000 := by decide

/-- Android application binary interfaces. -/
inductive AndroidAbi where
  /-- 64-bit x86. -/
  | x8664
  /-- 64-bit ARM. -/
  | arm64V8a
  /-- 32-bit ARM. -/
  | armeabiV7a
  deriving DecidableEq, Repr

/-- The configuration of a virtual device. -/
structure DeviceConfig where
  /-- Number of virtual CPUs. -/
  vcpuCount : UInt32
  /-- Guest RAM size in megabytes. -/
  ramMb : UInt64
  /-- Path to the Android system image. -/
  systemImagePath : String
  /-- Android binary interfaces supported by this configuration. -/
  supportedAbis : List AndroidAbi
  /-- Kernel command line, as its UTF-8 bytes. -/
  kernelCmdline : List UInt8
  deriving DecidableEq, Repr

/-- The first check of a configuration that fails, in the order they are made. -/
def DeviceConfig.validate (config : DeviceConfig) : Outcome Unit :=
  let ramMb := config.ramMb
  if ramMb < minRamMb then
    .error (.error (.configError s!"RAM {ramMb}MB is below the minimum of {minRamMb}MB"))
  else if maxRamMb < ramMb then
    .error (.error (.configError s!"RAM {ramMb}MB exceeds the maximum of {maxRamMb}MB"))
  else if config.vcpuCount=0 then
    .error (.error (.configError "vCPU count must be at least 1"))
  else if config.supportedAbis=[] then
    .error (.error (.configError "At least one ABI must be specified"))
  else .ok ()

/-- A configuration is accepted exactly when each of its checks passes. -/
theorem validate_ok_iff (config : DeviceConfig) :
    config.validate=.ok () ↔ 512 ≤ config.ramMb.toNat ∧ config.ramMb.toNat ≤ 8192 ∧
      config.vcpuCount≠0 ∧ config.supportedAbis≠[] := by
  have hmin : config.ramMb < minRamMb ↔ config.ramMb.toNat < 512 := UInt64.lt_iff_toNat_lt
  have hmax : maxRamMb < config.ramMb ↔ 8192 < config.ramMb.toNat := UInt64.lt_iff_toNat_lt
  unfold DeviceConfig.validate
  dsimp only
  split_ifs with h1 h2 h3 h4
  · rw [hmin] at h1
    exact ⟨fun h => (by cases h),fun h => absurd h.1 (by omega)⟩
  · rw [hmax] at h2
    exact ⟨fun h => (by cases h),fun h => absurd h.2.1 (by omega)⟩
  · exact ⟨fun h => (by cases h),fun h => absurd h3 h.2.2.1⟩
  · exact ⟨fun h => (by cases h),fun h => absurd h4 h.2.2.2⟩
  · rw [hmin] at h1
    rw [hmax] at h2
    exact ⟨fun _ => ⟨by omega,by omega,h3,h4⟩,fun _ => rfl⟩

/-- The bytes of guest RAM of a configuration. -/
def DeviceConfig.memSize (config : DeviceConfig) : UInt64 := config.ramMb*1024*1024

/-- The RAM size of an accepted configuration is computed without wrapping. -/
theorem memSize_toNat {config : DeviceConfig} (h : config.validate=.ok ()) :
    config.memSize.toNat=config.ramMb.toNat*2^20 := by
  obtain ⟨-,hmax,-,-⟩ := (validate_ok_iff config).mp h
  simp only [DeviceConfig.memSize,UInt64.toNat_mul,UInt64.reduceToNat]
  omega

end LiteDroid.CoreDeviceConfig
