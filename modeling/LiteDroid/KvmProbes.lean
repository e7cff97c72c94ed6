import Mathlib.Data.List.Basic
import Mathlib.Tactic.FinCases

/-!
# The capabilities of the host

A hypervisor asks the host for a fixed list of capabilities once and keeps the
answers in a hash map, whose order is not determined. The summary lists the
names by what the host has answered, each part in order, so it is one and the
same text for every order of the map, and every answer can be read off it.
-/

namespace LiteDroid.KvmProbes

/-- What the host can be asked for. -/
inductive Cap where
  | irqchip | hlt | mmuShadowCacheControl | userMemory | setTssAddr | vapic | extCpuid
  | clocksource | nrVcpus | nrMemslots | pit | pvMmu | mpState | coalescedMmio | syncMmu | iommu
  | userNmi | irqRouting | irqfd | pitState2 | ioeventfd | setIdentityMapAddr | adjustClock
  | internalErrorData | hyperv | enableCap | syncRegs | kvmclockCtrl | signalMsi
  | ioapicPolarityIgnored | enableCapVm | ioeventfdNoLength | vmAttributes | armPsci
  | extEmulCpuid | checkExtensionVm | s390UserSigp | msiDevid | ppcGetPvinfo | ppcBookeWatchdog
  | ppcEpr | coalescedPio | tscDeadlineTimer | asyncPf | pci23 | readonlyMem | irqfdResample
  | s390Gmap | ppcGetSmmuInfo | ppcRtas | getMsrFeatures | maxVcpus | maxVcpuId | deviceCtrl
  | immediateExit | armPmuV3
  deriving DecidableEq, Repr

/-- The capabilities that are asked for, with their names. -/
def probes : List (String×Cap) := [
  ("IRQCHIP",.irqchip),("HLT",.hlt),("MMU_SHADOW_CACHE_CONTROL",.mmuShadowCacheControl),
  ("USER_MEMORY",.userMemory),("SET_TSS_ADDR",.setTssAddr),("VAPIC",.vapic),
  ("EXT_CPUID",.extCpuid),("CLOCKSOURCE",.clocksource),("NR_VCPUS",.nrVcpus),
  ("NR_MEMSLOTS",.nrMemslots),("PIT",.pit),("PV_MMU",.pvMmu),("MP_STATE",.mpState),
  ("COALESCED_MMIO",.coalescedMmio),("SYNC_MMU",.syncMmu),("IOMMU",.iommu),("USER_NMI",.userNmi),
  ("IRQ_ROUTING",.irqRouting),("IRQFD",.irqfd),("PIT_STATE2",.pitState2),("IOEVENTFD",.ioeventfd),
  ("SET_IDENTITY_MAP_ADDR",.setIdentityMapAddr),("ADJUST_CLOCK",.adjustClock),
  ("INTERNAL_ERROR_DATA",.internalErrorData),("HYPERV",.hyperv),("ENABLE_CAP",.enableCap),
  ("SYNC_REGS",.syncRegs),("KVMCLOCK_CTRL",.kvmclockCtrl),("SIGNAL_MSI",.signalMsi),
  ("IOAPIC_POLARITY_IGNORED",.ioapicPolarityIgnored),("ENABLE_CAP_VM",.enableCapVm),
  ("IOEVENTFD_NO_LENGTH",.ioeventfdNoLength),("VM_ATTRIBUTES",.vmAttributes),
  ("ARM_PSCI",.armPsci),("EXT_EMUL_CPUID",.extEmulCpuid),("CHECK_EXTENSION_VM",.checkExtensionVm),
  ("S390_USER_SIGP",.s390UserSigp),("MSI_DEVID",.msiDevid),("PPC_GET_PVINFO",.ppcGetPvinfo),
  ("PPC_BOOKE_WATCHDOG",.ppcBookeWatchdog),("PPC_EPR",.ppcEpr),("COALESCED_PIO",.coalescedPio),
  ("TSC_DEADLINE_TIMER",.tscDeadlineTimer),("ASYNC_PF",.asyncPf),("PCI_2_3",.pci23),
  ("READONLY_MEM",.readonlyMem),("IRQFD_RESAMPLE",.irqfdResample),("S390_GMAP",.s390Gmap),
  ("PPC_GET_SMMU_INFO",.ppcGetSmmuInfo),("PPC_RTAS",.ppcRtas),
  ("GET_MSR_FEATURES",.getMsrFeatures),("MAX_VCPUS",.maxVcpus),("MAX_VCPU_ID",.maxVcpuId),
  ("DEVICE_CTRL",.deviceCtrl),("IMMEDIATE_EXIT",.immediateExit),("ARM_PMU_V3",.armPmuV3)
]

/-- The answers, in the order in which the hash map goes through them. -/
structure KvmCapabilities where
  /-- The names with their answers. -/
  flags : List (String×Bool)
  /-- Every name is there once. -/
  distinct : (flags.map Prod.fst).Nodup

/-- The names that are asked for are different. -/
theorem probes_distinct : (probes.map Prod.fst).Nodup := by decide

/-- Ask the host for everything. -/
def KvmCapabilities.new (checkExtension : Cap → Bool) : KvmCapabilities where
  flags := probes.map fun probe => (probe.1,checkExtension probe.2)
  distinct := by
    rw [List.map_map]
    exact probes_distinct

/-- Another order of the same map. -/
def KvmCapabilities.Reordered (first second : KvmCapabilities) : Prop :=
  first.flags.Perm second.flags

/-- What the host has answered; a name that was not asked for is not available. -/
def KvmCapabilities.isAvailable (capabilities : KvmCapabilities) (name : String) : Bool :=
  (capabilities.flags.lookup name).getD false

/-- Names in order. -/
def sorted (names : List String) : List String := names.mergeSort fun a b => a ≤ b

/-- The names with an answer, in order. -/
def KvmCapabilities.answered (capabilities : KvmCapabilities) (present : Bool) : List String :=
  sorted ((capabilities.flags.filter fun flag => flag.2=present).map Prod.fst)

/-- A line of names behind a mark, unless there are none. -/
def markedLine (lead : String) (names : List String) : List String :=
  if names=[] then [] else [lead++", ".intercalate names]

/-- The lines of the summary. -/
def KvmCapabilities.summaryLines (capabilities : KvmCapabilities) : List String :=
  "KVM capabilities:"::(markedLine "  ✓ " (capabilities.answered true)++
    markedLine "  ✗ " (capabilities.answered false))

/-- The answers for a reader. -/
def KvmCapabilities.summary (capabilities : KvmCapabilities) : String :=
  "\n".intercalate capabilities.summaryLines

/-- The names between commas, each but the first with a blank before. -/
def readNames (line : List Char) : List String :=
  match line.splitOn ',' with
  | [] => []
  | first::rest => (first::rest.map List.tail).map String.ofList

/-- The names on the line with a mark, as a reader finds them. -/
def listed (lead text : String) : List String :=
  (((text.toList.splitOn '\n').find? fun line => lead.toList.isPrefixOf line).map
    fun line => readNames (line.drop lead.toList.length)).getD []

/-- A name that can stand in a line of names. -/
def Plain (name : String) : Prop := ','∉name.toList ∧ '\n'∉name.toList

instance (name : String) : Decidable (Plain name) := inferInstanceAs (Decidable (_ ∧ _))

/-- The names that are asked for are plain. -/
theorem probes_plain : ∀ name∈probes.map Prod.fst, Plain name := by decide

/-- Parts with a comma and a blank between them are parts with a comma between
them, all but the first with a blank before. -/
theorem intercalate_spaced (rest : List (List Char)) : ∀ first : List Char,
    [',',' '].intercalate (first::rest)=[','].intercalate (first::rest.map (' '::·)) := by
  induction rest with
  | nil =>
    intro first
    rfl
  | cons second others ih =>
    intro first
    rw [List.intercalate_cons_cons,ih second,List.map_cons,List.intercalate_cons_cons]
    cases others with
    | nil => simp
    | cons third more =>
      rw [List.map_cons,List.intercalate_cons_cons,List.intercalate_cons_cons]
      simp

/-- What stands in parts with something between them stands in one of them or there. -/
theorem mem_intercalate {x : Char} {sep : List Char} {parts : List (List Char)}
    (h : x∈sep.intercalate parts) : x∈sep ∨ ∃ part∈parts, x∈part := by
  induction parts with
  | nil => simp at h
  | cons first rest ih =>
    cases rest with
    | nil =>
      rw [List.intercalate_singleton] at h
      exact Or.inr ⟨first,List.mem_cons_self,h⟩
    | cons second others =>
      rw [List.intercalate_cons_cons,List.append_assoc,List.mem_append,List.mem_append] at h
      rcases h with hfirst | hsep | hrest
      · exact Or.inr ⟨first,List.mem_cons_self,hfirst⟩
      · exact Or.inl hsep
      · exact (ih hrest).imp_right fun ⟨part,hpart,hx⟩ => ⟨part,List.mem_cons_of_mem first hpart,hx⟩

/-- A line of plain names has no end of line. -/
theorem markedLine_plain {lead : String} {names : List String} (hlead : '\n'∉lead.toList)
    (h : ∀ name∈names, Plain name) : ∀ line∈markedLine lead names, '\n'∉line.toList := by
  intro line hline hmem
  unfold markedLine at hline
  split at hline
  · cases hline
  · rw [List.mem_singleton.mp hline,String.toList_append,List.mem_append,
      String.toList_intercalate] at hmem
    obtain hmem | hmem := hmem
    · exact hlead hmem
    · obtain hsep | ⟨part,hpart,hx⟩ := mem_intercalate hmem
      · exact absurd hsep (by decide)
      · obtain ⟨name,hname,rfl⟩ := List.mem_map.mp hpart
        exact (h name hname).2 hx

/-- The names of a line are read back. -/
theorem readNames_joined {names : List String} (hsome : names≠[])
    (h : ∀ name∈names, Plain name) : readNames (", ".intercalate names).toList=names := by
  cases names with
  | nil => exact absurd rfl hsome
  | cons first rest =>
    have hsplit : (", ".intercalate (first::rest)).toList.splitOn ','=
        first.toList::rest.map fun name => ' '::name.toList := by
      rw [String.toList_intercalate,show ", ".toList=[',',' '] from rfl,List.map_cons,
        intercalate_spaced,List.splitOn_intercalate]
      · rw [List.map_map]
        rfl
      · intro part hpart hmem
        rcases List.mem_cons.mp hpart with rfl | hlater
        · exact (h first List.mem_cons_self).1 hmem
        · rw [List.map_map] at hlater
          obtain ⟨name,hname,rfl⟩ := List.mem_map.mp hlater
          rcases List.mem_cons.mp hmem with hblank | hin
          · exact absurd hblank (by decide)
          · exact (h name (List.mem_cons_of_mem first hname)).1 hin
      · exact List.cons_ne_nil _ _
    unfold readNames
    rw [hsplit]
    simp [List.map_map,Function.comp_def]

/-- The marks of the two lines. -/
def leads : List String := ["  ✓ ","  ✗ "]

/-- The line with a mark is found by it. -/
theorem find_marked {lead other : String} (names : List String) (hlead : lead∈leads)
    (hother : other∈leads) :
    ((markedLine lead names).map String.toList).find?
      (fun line => other.toList.isPrefixOf line)=
      if lead=other ∧ names≠[] then some (lead.toList++(", ".intercalate names).toList)
      else none := by
  have hdiffer : lead≠other → ∀ line, other.toList.isPrefixOf (lead.toList++line)=false := by
    intro hne line
    fin_cases hlead <;> fin_cases hother <;> first | exact absurd rfl hne | rfl
  unfold markedLine
  by_cases hnone : names=[]
  · rw [if_pos hnone,if_neg (fun h => h.2 hnone)]
    rfl
  · rw [if_neg hnone,List.map_singleton,List.find?_singleton,String.toList_append]
    by_cases hsame : lead=other
    · subst hsame
      rw [if_pos (List.isPrefixOf_iff_prefix.mpr (List.prefix_append _ _)),if_pos ⟨rfl,hnone⟩]
    · rw [hdiffer hsame,if_neg Bool.false_ne_true,if_neg (fun h => hsame h.1)]

/-- What a reader makes of the line that was found. -/
theorem read_found (lead : String) {names : List String} (h : ∀ name∈names, Plain name) :
    ((if names≠[] then some (lead.toList++(", ".intercalate names).toList) else none).map
      fun line => readNames (line.drop lead.toList.length)).getD []=names := by
  by_cases hnone : names=[]
  · rw [if_neg (fun hsome => hsome hnone),hnone]
    rfl
  · rw [if_pos hnone,Option.map_some,Option.getD_some,List.drop_left,readNames_joined hnone h]

/-- A reader of plain names between marks finds them. -/
theorem listed_marked {first second : List String} (hfirst : ∀ name∈first, Plain name)
    (hsecond : ∀ name∈second, Plain name) {lead : String} (hlead : lead∈leads) :
    listed lead ("\n".intercalate ("KVM capabilities:"::(markedLine "  ✓ " first++
      markedLine "  ✗ " second)))=if lead="  ✓ " then first else second := by
  have hsplit : ("\n".intercalate ("KVM capabilities:"::(markedLine "  ✓ " first++
      markedLine "  ✗ " second))).toList.splitOn '\n'=
        "KVM capabilities:".toList::((markedLine "  ✓ " first).map String.toList++
          (markedLine "  ✗ " second).map String.toList) := by
    rw [String.toList_intercalate,show "\n".toList=['\n'] from rfl,List.splitOn_intercalate,
      List.map_cons,List.map_append]
    · intro part hpart
      obtain ⟨line,hline,rfl⟩ := List.mem_map.mp hpart
      rcases List.mem_cons.mp hline with rfl | hmarked
      · decide
      · rcases List.mem_append.mp hmarked with hline | hline
        · exact markedLine_plain (by decide) hfirst line hline
        · exact markedLine_plain (by decide) hsecond line hline
    · exact List.cons_ne_nil _ _
  have hheader : lead.toList.isPrefixOf "KVM capabilities:".toList=false := by
    fin_cases hlead <;> rfl
  unfold listed
  rw [hsplit,List.find?_cons,hheader,List.find?_append,
    find_marked first (by decide) hlead,find_marked second (by decide) hlead]
  have hmark : "  ✓ "≠"  ✗ " := by decide
  fin_cases hlead
  · rw [if_pos rfl]
    simp only [true_and,hmark.symm,false_and,if_false,Option.or_none]
    exact read_found "  ✓ " hfirst
  · rw [if_neg hmark.symm]
    simp only [true_and,hmark,false_and,if_false,Option.none_or]
    exact read_found "  ✗ " hsecond

/-- Names in order depend on the names alone. -/
theorem sorted_perm {first second : List String} (h : first.Perm second) :
    sorted first=sorted second := by
  have hordered : ∀ names, (sorted names).Pairwise fun a b => a ≤ b := by
    intro names
    refine (List.pairwise_mergeSort ?_ ?_ names).imp fun hle => of_decide_eq_true hle
    · intro a b c hab hbc
      exact decide_eq_true (String.le_trans (of_decide_eq_true hab) (of_decide_eq_true hbc))
    · intro a b
      exact Bool.or_eq_true_iff.mpr ((String.le_total a b).imp decide_eq_true decide_eq_true)
  refine List.Perm.eq_of_pairwise (fun a b _ _ hab hba => String.le_antisymm hab hba)
    (hordered first) (hordered second) ?_
  exact (List.mergeSort_perm first _).trans (h.trans (List.mergeSort_perm second _).symm)

/-- The answer to a name that is there once. -/
theorem lookup_distinct {flags : List (String×Bool)} {name : String} {present : Bool}
    (hdistinct : (flags.map Prod.fst).Nodup) (h : (name,present)∈flags) :
    flags.lookup name=some present := by
  induction flags with
  | nil => cases h
  | cons flag rest ih =>
    rw [List.map_cons,List.nodup_cons] at hdistinct
    rcases List.mem_cons.mp h with rfl | hrest
    · exact List.lookup_cons_self
    · have hne : name≠flag.1 := by
        rintro rfl
        exact hdistinct.1 (List.mem_map.mpr ⟨_,hrest,rfl⟩)
      rw [List.lookup_cons,beq_eq_false_iff_ne.mpr hne]
      exact ih hdistinct.2 hrest

/-- There is no answer to a name that is not there. -/
theorem lookup_missing {flags : List (String×Bool)} {name : String}
    (h : name∉flags.map Prod.fst) : flags.lookup name=none := by
  rw [List.lookup_eq_none_iff]
  intro flag hflag
  rw [bne_iff_ne]
  rintro rfl
  exact h (List.mem_map_of_mem hflag)

variable {checkExtension : Cap → Bool} {capabilities : KvmCapabilities}

/-- The names with an answer are those that the host has answered so. -/
theorem mem_answered (h : capabilities.Reordered (.new checkExtension)) {name : String}
    {present : Bool} : name∈capabilities.answered present ↔
      ∃ cap, (name,cap)∈probes ∧ checkExtension cap=present := by
  unfold KvmCapabilities.answered sorted
  rw [List.mem_mergeSort,((List.Perm.filter _ h).map Prod.fst).mem_iff]
  constructor
  · intro hmem
    obtain ⟨flag,hflag,rfl⟩ := List.mem_map.mp hmem
    obtain ⟨hnew,hpresent⟩ := List.mem_filter.mp hflag
    obtain ⟨probe,hprobe,rfl⟩ := List.mem_map.mp hnew
    exact ⟨probe.2,hprobe,of_decide_eq_true hpresent⟩
  · rintro ⟨cap,hprobe,rfl⟩
    refine List.mem_map.mpr ⟨(name,checkExtension cap),List.mem_filter.mpr ⟨?_,?_⟩,rfl⟩
    · exact List.mem_map.mpr ⟨(name,cap),hprobe,rfl⟩
    · exact decide_eq_true rfl

/-- A reader finds the names that the host has answered so. -/
theorem listed_answered (h : capabilities.Reordered (.new checkExtension)) (present : Bool) :
    listed (if present then "  ✓ " else "  ✗ ") capabilities.summary=
      capabilities.answered present := by
  have hplain : ∀ answer, ∀ name∈capabilities.answered answer, Plain name := by
    intro answer name hname
    obtain ⟨cap,hprobe,-⟩ := (mem_answered h).mp hname
    exact probes_plain name (List.mem_map.mpr ⟨_,hprobe,rfl⟩)
  have hread := fun lead hlead =>
    @listed_marked _ _ (hplain true) (hplain false) lead hlead
  cases present with
  | true => exact (hread "  ✓ " (by decide)).trans (if_pos rfl)
  | false => exact (hread "  ✗ " (by decide)).trans (if_neg (by decide))

/-- What a hypervisor knows and tells about the host. -/
structure Reported (checkExtension : Cap → Bool) (capabilities : KvmCapabilities) : Prop where
  /-- A name that was asked for is available exactly if the host has said so. -/
  available : ∀ name cap, (name,cap)∈probes →
    capabilities.isAvailable name=checkExtension cap
  /-- Any other name is not. -/
  unknown : ∀ name, name∉probes.map Prod.fst → capabilities.isAvailable name=false
  /-- The summary does not depend on the order of the map. -/
  text : capabilities.summary=(KvmCapabilities.new checkExtension).summary
  /-- Each name is listed once in the summary, behind the mark of its answer. -/
  listed : ∀ present : Bool, (listed (if present then "  ✓ " else "  ✗ ")
    capabilities.summary).Perm ((probes.filter fun probe => checkExtension probe.2=present).map
      Prod.fst)
  /-- Hosts with the same summary have given the same answers. -/
  told : ∀ (otherExtension : Cap → Bool) (other : KvmCapabilities),
    other.Reordered (.new otherExtension) → other.summary=capabilities.summary →
    ∀ probe∈probes, otherExtension probe.2=checkExtension probe.2

/-- For every host and every order of the map the capabilities are reported. -/
theorem capabilities_reported (h : capabilities.Reordered (.new checkExtension)) :
    Reported checkExtension capabilities where
  available := by
    intro name cap hprobe
    have hflag : (name,checkExtension cap)∈capabilities.flags :=
      h.mem_iff.mpr (List.mem_map.mpr ⟨(name,cap),hprobe,rfl⟩)
    unfold KvmCapabilities.isAvailable
    rw [lookup_distinct capabilities.distinct hflag,Option.getD_some]
  unknown := by
    intro name hname
    have hmissing : name∉capabilities.flags.map Prod.fst := by
      intro hmem
      refine hname ?_
      have hnew := (h.map Prod.fst).mem_iff.mp hmem
      unfold KvmCapabilities.new at hnew
      rw [List.map_map] at hnew
      exact hnew
    unfold KvmCapabilities.isAvailable
    rw [lookup_missing hmissing,Option.getD_none]
  text := by
    unfold KvmCapabilities.summary KvmCapabilities.summaryLines KvmCapabilities.answered
    rw [sorted_perm ((List.Perm.filter _ h).map Prod.fst),
      sorted_perm ((List.Perm.filter _ h).map Prod.fst)]
  listed := by
    intro present
    rw [listed_answered h present]
    unfold KvmCapabilities.answered sorted
    refine (List.mergeSort_perm _ _).trans (((List.Perm.filter _ h).map Prod.fst).trans ?_)
    unfold KvmCapabilities.new
    rw [List.filter_map,List.map_map]
    exact List.Perm.refl _
  told := by
    intro otherExtension other hother hsame probe hprobe
    have hanswered := listed_answered hother (otherExtension probe.2)
    rw [hsame,listed_answered h] at hanswered
    have hmem : probe.1∈capabilities.answered (otherExtension probe.2) := by
      rw [hanswered]
      exact (mem_answered hother).mpr ⟨probe.2,hprobe,rfl⟩
    obtain ⟨cap,hnamed,hcap⟩ := (mem_answered h).mp hmem
    have hcapability : cap=probe.2 := by
      have hinj := List.inj_on_of_nodup_map probes_distinct hnamed hprobe rfl
      exact congrArg Prod.snd hinj
    rw [← hcap,hcapability]

/-- The map gone through from its other end. -/
def KvmCapabilities.reversed (capabilities : KvmCapabilities) : KvmCapabilities where
  flags := capabilities.flags.reverse
  distinct := by
    rw [List.map_reverse,List.nodup_reverse]
    exact capabilities.distinct

/-- A host that can halt and nothing else. -/
def haltsOnly (cap : Cap) : Bool := cap=.hlt

/-- Its one capability is told whichever end the map starts from. -/
theorem capabilities_reported_halts :
    (KvmCapabilities.new haltsOnly).reversed.isAvailable "HLT"=true ∧
      (KvmCapabilities.new haltsOnly).reversed.isAvailable "PIT"=false ∧
      Reported haltsOnly (KvmCapabilities.new haltsOnly).reversed := by
  have hreported : Reported haltsOnly (KvmCapabilities.new haltsOnly).reversed :=
    capabilities_reported (List.reverse_perm _)
  exact ⟨hreported.available "HLT" .hlt (by decide),hreported.available "PIT" .pit (by decide),
    hreported⟩

end LiteDroid.KvmProbes
