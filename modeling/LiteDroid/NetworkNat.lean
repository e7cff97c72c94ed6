import LiteDroid.CoreResults
import LiteDroid.CoreText
import LiteDroid.SettledTable

/-!
# Address translation rules of the guest network

The manager that installs and removes firewall rules for a tap interface, and
the host whose table it changes. A table is a multiset: adding puts in one
copy of a rule, deleting takes out one copy if there is one. Every command is
taken to run. What a manager will still delete are its removals.
-/

namespace LiteDroid.NetworkNat

open CoreResults CoreText SettledTable

/-- A rule of the firewall. -/
structure Rule where
  /-- The table it belongs to. -/
  table : String
  /-- The chain it belongs to. -/
  chain : String
  /-- Its matches and its target. -/
  spec : List String
  deriving DecidableEq, Repr

/-- Rewrite what the guest's network sends out of an interface. -/
def Rule.masquerade (hostIface : String) : Rule :=
  ⟨"nat","POSTROUTING",["-o",hostIface,"-s","10.0.2.0/24","-j","MASQUERADE"]⟩

/-- Let through what comes in from a tap interface. -/
def Rule.forwardIn (tapName : String) : Rule :=
  ⟨"filter","FORWARD",["-i",tapName,"-j","ACCEPT"]⟩

/-- Let through what goes out to a tap interface. -/
def Rule.forwardOut (tapName : String) : Rule :=
  ⟨"filter","FORWARD",["-o",tapName,"-j","ACCEPT"]⟩

/-- A command that changes the rules. -/
inductive Iptables where
  /-- Add a rule behind the others. -/
  | append (rule : Rule)
  /-- Add a rule before the others. -/
  | insert (rule : Rule)
  /-- Delete one copy of a rule. -/
  | delete (rule : Rule)

/-- The rules after a command. -/
def Iptables.apply (rules : Multiset Rule) : Iptables → Multiset Rule
  | .append rule => rule::ₘrules
  | .insert rule => rule::ₘrules
  | .delete rule => rules.erase rule

/-- What the managers use of the host. -/
structure Host where
  /-- The rules of the firewall. -/
  rules : Multiset Rule
  /-- The routing table, or why it cannot be read. -/
  route : Except String String
  /-- Whether the switch for forwarding can be written. -/
  forwardWritable : Bool
  /-- Whether the host forwards packets. -/
  forwarding : Bool

/-- Run commands in order. -/
def Host.iptables (host : Host) (commands : List Iptables) : Host :=
  {host with rules := commands.foldl Iptables.apply host.rules}

/-- Turn forwarding on. A failure is only logged. -/
def Host.enableForwarding (host : Host) : Host :=
  {host with forwarding := host.forwarding || host.forwardWritable}

/-- The interface of the first route to everywhere. The first line is a heading. -/
def hostInterface (route : Except String String) : Except LiteDroidError String :=
  match route with
  | .error e => .error (.natSetupFailed s!"read /proc/net/route: {e}")
  | .ok content =>
    let default := ((lines content).drop 1).findSome? fun line =>
      match splitWhitespace line with
      | iface::destination::_ => if destination="00000000" then some iface else none
      | _ => none
    match default with
    | some iface => .ok iface
    | none => .error (.natSetupFailed "no default route found in /proc/net/route")

/-- The interface rules are made for. -/
def Host.outgoing (host : Host) : String :=
  match hostInterface host.route with
  | .ok iface => iface
  | .error _ => "eth0"

/-- Owner of the rules of one tap interface. -/
structure NatManager where
  /-- The tap interface, once set up. -/
  tapName : Option String
  /-- Whether the rules are installed. -/
  isSetup : Bool
  deriving DecidableEq, Repr

/-- A manager that is not set up. -/
def NatManager.new : NatManager := ⟨none,false⟩

/-- A manager that is set up for a tap interface. -/
def NatManager.installed (tapName : String) : NatManager := ⟨some tapName,true⟩

/-- A manager, what it returned, and the host afterwards. -/
structure SetupReport where
  /-- The manager. -/
  self : NatManager
  /-- The manager it returned. -/
  returned : NatManager
  /-- The host. -/
  host : Host

/-- Turn forwarding on and install the rules. Both the manager and the one it
returns are marked as owners of them. -/
def NatManager.setup (_self : NatManager) (tapName : String) (host : Host) : SetupReport :=
  let hostIface := host.outgoing
  ⟨.installed tapName,.installed tapName,host.enableForwarding.iptables
    [.append (.masquerade hostIface),.insert (.forwardIn tapName),.insert (.forwardOut tapName)]⟩

/-- Delete the rules a manager owns. The outgoing interface is looked up again. -/
def NatManager.teardown (self : NatManager) (host : Host) : NatManager×Host :=
  if self.isSetup then
    match self.tapName with
    | none => ({self with isSetup := false},host)
    | some tapName =>
      (⟨none,false⟩,host.iptables
        [.delete (.masquerade host.outgoing),.delete (.forwardIn tapName),
          .delete (.forwardOut tapName)])
  else (self,host)

/-- The host after a manager is dropped. -/
def NatManager.drop (self : NatManager) (host : Host) : Host :=
  if self.isSetup then (self.teardown host).2 else host

/-- The tap interface whose rules a manager will delete. -/
def NatManager.activeTap (manager : NatManager) : Option String :=
  if manager.isSetup then manager.tapName else none

/-- The rules installed for a tap interface. -/
def natRules (hostIface tapName : String) : Multiset Rule :=
  {.masquerade hostIface,.forwardIn tapName,.forwardOut tapName}

/-- What a manager will delete while an interface is the outgoing one. -/
def NatManager.removal (hostIface : String) (manager : NatManager) : Multiset Rule :=
  match manager.activeTap with
  | none => 0
  | some tapName => natRules hostIface tapName

/-- The rules that depend on the tap interface only. -/
def tapRules (tapName : String) : Multiset Rule := {.forwardIn tapName,.forwardOut tapName}

/-- What a manager will delete whatever the outgoing interface is. -/
def NatManager.tapRemoval (manager : NatManager) : Multiset Rule :=
  match manager.activeTap with
  | none => 0
  | some tapName => tapRules tapName

/-- What a manager will delete because an interface is the outgoing one. -/
def NatManager.ifaceRemoval (hostIface : String) (manager : NatManager) : Multiset Rule :=
  match manager.activeTap with
  | none => 0
  | some _ => {.masquerade hostIface}

/-- The rules for a tap interface are the masquerading rule and its own two. -/
theorem natRules_eq (hostIface tapName : String) :
    natRules hostIface tapName={.masquerade hostIface}+tapRules tapName := rfl

/-- The removals have a part for the outgoing interface and one for the tap interface. -/
theorem removal_eq (hostIface : String) (manager : NatManager) :
    manager.removal hostIface=manager.ifaceRemoval hostIface+manager.tapRemoval := by
  unfold NatManager.removal NatManager.ifaceRemoval NatManager.tapRemoval
  cases manager.activeTap with
  | none => rfl
  | some tapName => exact natRules_eq hostIface tapName

/-- A manager that was set up will remove the rules of its tap interface. -/
@[simp] theorem installed_removal (hostIface tapName : String) :
    (NatManager.installed tapName).removal hostIface=natRules hostIface tapName := rfl

/-- A new manager removes nothing. -/
@[simp] theorem new_removal (hostIface : String) : NatManager.new.removal hostIface=0 := rfl

/-- Masquerading rules differ when their interfaces do. -/
theorem masquerade_inj {first second : String} :
    Rule.masquerade first=Rule.masquerade second ↔ first=second := by
  simp [Rule.masquerade]

/-- The rules of different tap interfaces are different. -/
theorem tapRules_disjoint {first second : String} (h : first≠second) :
    ∀ rule∈tapRules first, rule∉tapRules second := by
  simp [tapRules,Rule.forwardIn,Rule.forwardOut,h]

/-- The two rules of a tap interface are different. -/
theorem tapRules_count {tapName : String} {rule : Rule} (h : rule∈tapRules tapName) :
    (tapRules tapName).count rule=1 := by
  have hnodup : (tapRules tapName).Nodup := by
    simp [tapRules,Rule.forwardIn,Rule.forwardOut]
  exact Multiset.count_eq_one_of_mem hnodup h

/-- No rule of a tap interface is a masquerading rule. -/
theorem masquerade_notMem_tapRules (hostIface tapName : String) :
    Rule.masquerade hostIface∉tapRules tapName := by
  simp [tapRules,Rule.masquerade,Rule.forwardIn,Rule.forwardOut]

/-- A rule of one tap interface occurs among the rules installed for another
only if they are the same. -/
theorem natRules_count {hostIface own tapName : String} {rule : Rule}
    (h : rule∈tapRules tapName) :
    (natRules hostIface own).count rule=if own=tapName then 1 else 0 := by
  have hother : rule∉({.masquerade hostIface} : Multiset Rule) := by
    intro hm
    rw [Multiset.mem_singleton.mp hm] at h
    exact masquerade_notMem_tapRules hostIface tapName h
  rw [natRules_eq,Multiset.count_add,Multiset.count_eq_zero.mpr hother,zero_add]
  by_cases hown : own=tapName
  · rw [if_pos hown,hown,tapRules_count h]
  · rw [if_neg hown,Multiset.count_eq_zero]
    exact tapRules_disjoint (Ne.symm hown) rule h

/-- Setting up adds the rules of the tap interface. -/
theorem setup_rules (self : NatManager) (tapName : String) (host : Host) :
    (self.setup tapName host).host.rules=natRules host.outgoing tapName+host.rules := by
  have hadd : natRules host.outgoing tapName+host.rules=
      .masquerade host.outgoing::ₘ.forwardIn tapName::ₘ.forwardOut tapName::ₘhost.rules := by
    simp [natRules]
  rw [hadd,Multiset.cons_swap (Rule.masquerade _),Multiset.cons_swap (Rule.masquerade _),
    Multiset.cons_swap (Rule.forwardIn _)]
  rfl

/-- Setting up changes no route. -/
theorem setup_outgoing (self : NatManager) (tapName : String) (host : Host) :
    (self.setup tapName host).host.outgoing=host.outgoing := rfl

/-- Tearing down carries out the removals of the manager. -/
theorem teardown_rules (self : NatManager) (host : Host) :
    (self.teardown host).2.rules=host.rules-self.removal host.outgoing := by
  unfold NatManager.teardown NatManager.removal NatManager.activeTap
  cases self.isSetup with
  | false => simp
  | true =>
    cases self.tapName with
    | none => simp
    | some tapName =>
      simp [natRules,Host.iptables,Iptables.apply,Multiset.sub_cons]

/-- A manager that was torn down removes nothing. -/
theorem teardown_removal (self : NatManager) (host : Host) (hostIface : String) :
    (self.teardown host).1.removal hostIface=0 := by
  unfold NatManager.teardown NatManager.removal NatManager.activeTap
  cases hs : self.isSetup with
  | false => simp [hs]
  | true => cases self.tapName <;> rfl

/-- Dropping a manager carries out its removals. -/
theorem drop_rules (self : NatManager) (host : Host) :
    (self.drop host).rules=host.rules-self.removal host.outgoing := by
  unfold NatManager.drop
  cases hs : self.isSetup with
  | true => exact teardown_rules self host
  | false => simp [NatManager.removal,NatManager.activeTap,hs]

/-- Tearing down changes no route. -/
theorem teardown_outgoing (self : NatManager) (host : Host) :
    (self.teardown host).2.outgoing=host.outgoing := by
  unfold NatManager.teardown
  cases self.isSetup with
  | false => rfl
  | true => cases self.tapName <;> rfl

/-- Dropping changes no route. -/
theorem drop_outgoing (self : NatManager) (host : Host) :
    (self.drop host).outgoing=host.outgoing := by
  unfold NatManager.drop
  cases self.isSetup with
  | false => rfl
  | true => exact teardown_outgoing self host

end LiteDroid.NetworkNat
