import LiteDroid.NetworkNat
import LiteDroid.StepRun

/-!
# Balance of the address translation rules

Managers are created, set up, torn down and dropped in any order, while the
default route changes and other parties add and remove rules of their own. A
setup leaves two owners behind for one set of rules, and a teardown deletes
the masquerading rule of the route it finds. After which steps tearing
everything down would still leave exactly the rules of the other parties is
a condition on the step and the state before it.
-/

namespace LiteDroid.NetworkNatRuns

open NetworkNat SettledTable StepRun

/-- The host, the managers on it and the rules of other parties. -/
structure Session where
  /-- The host. -/
  host : Host
  /-- The managers that have not been dropped. -/
  managers : List NatManager
  /-- The rules before the first setup, as other parties changed them since. -/
  others : Multiset Rule

/-- A host on which no manager exists yet. -/
def Session.initial (host : Host) : Session := ⟨host,[],host.rules⟩

/-- One step of a session. -/
inductive Op where
  /-- Create a manager. -/
  | new
  /-- Set a manager up; the one it returns joins the others. -/
  | setup (i : ℕ) (tapName : String)
  /-- Tear a manager down. -/
  | teardown (i : ℕ)
  /-- Drop a manager. -/
  | drop (i : ℕ)
  /-- The routing table changes, or becomes unreadable. -/
  | routeChange (route : Except String String)
  /-- Another party adds a rule. -/
  | otherAdd (rule : Rule)
  /-- Another party removes a rule of its own. -/
  | otherRemove (rule : Rule)

/-- The session after a step, if the manager or the rule it names exists. -/
def step (session : Session) : Op → Option Session
  | .new => some {session with managers := session.managers++[.new]}
  | .setup i tapName =>
    (session.managers[i]?).map fun manager =>
      let report := manager.setup tapName session.host
      {session with
        host := report.host
        managers := session.managers.set i report.self++[report.returned]}
  | .teardown i =>
    (session.managers[i]?).map fun manager =>
      let report := manager.teardown session.host
      {session with host := report.2, managers := session.managers.set i report.1}
  | .drop i =>
    (session.managers[i]?).map fun manager =>
      {session with
        host := manager.drop session.host
        managers := session.managers.eraseIdx i}
  | .routeChange route => some {session with host := {session.host with route := route}}
  | .otherAdd rule =>
    some {session with
      host := {session.host with rules := rule::ₘsession.host.rules}
      others := rule::ₘsession.others}
  | .otherRemove rule =>
    if rule∈session.others then
      some {session with
        host := {session.host with rules := session.host.rules.erase rule}
        others := session.others.erase rule}
    else none

/-- The host after all managers are torn down in order. -/
def Session.tearDownAll (session : Session) : Host :=
  session.managers.foldl (fun host manager => (manager.teardown host).2) session.host

/-- Number of managers that own the rules of a tap interface. -/
def Session.holders (session : Session) (tapName : String) : ℕ :=
  session.managers.countP fun manager => manager.activeTap=some tapName

/-- What all managers together will delete. -/
def Session.removals (session : Session) : Multiset Rule :=
  (session.managers.map (NatManager.removal session.host.outgoing)).sum

/-- Tearing all managers down would leave the rules of the other parties. -/
def Balanced (session : Session) : Prop :=
  Settled session.host.rules session.removals session.others

/-- Steps after which tearing down leaves what it would have left before. A
manager that owns nothing is set up only where no other party has one of the
three rules. A manager that owns the rules of another tap interface hands
them over only to further owners. The outgoing interface changes only while
no manager owns rules, or while the masquerading rules of both interfaces
are absent. Other parties add no rule with more removals than copies. -/
def Balancing (session : Session) : Op → Prop
  | .setup i tapName =>
    match session.managers[i]? with
    | none => True
    | some manager =>
      match manager.activeTap with
      | none => ∀ rule∈natRules session.host.outgoing tapName, rule∉session.others
      | some old =>
        old=tapName ∨
          (Rule.forwardIn tapName∉session.others ∧ Rule.forwardOut tapName∉session.others) ∧
          session.host.rules.count (.forwardIn old) < session.holders old ∧
          session.host.rules.count (.forwardOut old) < session.holders old
  | .routeChange route =>
    Host.outgoing {session.host with route := route}=session.host.outgoing ∨
    (∀ manager∈session.managers, manager.activeTap=none) ∨
    Rule.masquerade session.host.outgoing∉session.host.rules ∧
      Rule.masquerade (Host.outgoing {session.host with route := route})∉session.others
  | .otherAdd rule => session.removals.count rule ≤ session.host.rules.count rule
  | _ => True

/-- Tearing all managers down carries out all removals. -/
theorem tearDownAll_rules (session : Session) :
    session.tearDownAll.rules=session.host.rules-session.removals := by
  obtain ⟨host,managers,others⟩ := session
  unfold Session.tearDownAll Session.removals
  dsimp only
  induction managers generalizing host with
  | nil => simp
  | cons manager rest ih =>
    rw [List.foldl_cons,ih,teardown_outgoing,teardown_rules,List.map_cons,List.sum_cons,
      tsub_add_eq_tsub_tsub]

/-- A session is balanced when tearing everything down leaves the rules of the
other parties. -/
theorem balanced_iff_tearDownAll (session : Session) :
    Balanced session ↔ session.tearDownAll.rules=session.others := by
  rw [tearDownAll_rules]
  exact Iff.rfl

/-- A rule of a tap interface will be removed once by each of its owners. -/
theorem removals_count (session : Session) {tapName : String} {rule : Rule}
    (h : rule∈tapRules tapName) : session.removals.count rule=session.holders tapName := by
  obtain ⟨host,managers,others⟩ := session
  unfold Session.removals Session.holders
  dsimp only
  induction managers with
  | nil => rfl
  | cons manager rest ih =>
    have hremoval : (manager.removal host.outgoing).count rule=
        if manager.activeTap=some tapName then 1 else 0 := by
      unfold NatManager.removal
      cases manager.activeTap with
      | none => simp
      | some own =>
        dsimp only
        rw [natRules_count h]
        simp only [Option.some.injEq]
    rw [List.map_cons,List.sum_cons,Multiset.count_add,ih,hremoval,List.countP_cons]
    simp only [decide_eq_true_eq]
    omega

/-- A statement about the rules of a tap interface is one about its two rules. -/
theorem forall_tapRules {tapName : String} {P : Rule → Prop} :
    (∀ rule∈tapRules tapName, P rule) ↔ P (.forwardIn tapName) ∧ P (.forwardOut tapName) := by
  simp [tapRules]

/-- An owner of the rules of one tap interface may own those of another instead
exactly when no other party has these and further owners delete the first. -/
theorem tap_exchange_iff {session : Session} {old tapName : String} {rest : Multiset Rule}
    (hne : old≠tapName) (hremovals : session.removals=natRules session.host.outgoing old+rest)
    (h : Balanced session) :
    Settled session.host.rules (natRules session.host.outgoing tapName+rest) session.others ↔
      (Rule.forwardIn tapName∉session.others ∧ Rule.forwardOut tapName∉session.others) ∧
      session.host.rules.count (.forwardIn old) < session.holders old ∧
      session.host.rules.count (.forwardOut old) < session.holders old := by
  have hswap : ∀ tap, natRules session.host.outgoing tap+rest=
      tapRules tap+({.masquerade session.host.outgoing}+rest) := by
    intro tap
    rw [natRules_eq,add_comm {_} (tapRules tap),add_assoc]
  have hholders : ∀ rule∈tapRules old,
      ({.masquerade session.host.outgoing}+rest).count rule+1=session.holders old := by
    intro rule hrule
    have hcount := removals_count session hrule
    rw [hremovals,hswap,Multiset.count_add _ (tapRules old),tapRules_count hrule] at hcount
    omega
  obtain ⟨hin,hout⟩ := forall_tapRules.mp hholders
  unfold Balanced at h
  rw [hremovals,hswap] at h
  rw [hswap,settled_exchange_iff (tapRules_disjoint (Ne.symm hne)) h,forall_tapRules,
    forall_tapRules]
  constructor
  · rintro ⟨hfree,hl,hr⟩
    exact ⟨hfree,by omega,by omega⟩
  · rintro ⟨hfree,hl,hr⟩
    exact ⟨hfree,by omega,by omega⟩

/-- The condition on setups says when the removals of a manager may be exchanged
for those of the rules of a tap interface. -/
theorem setup_exchange_iff {session : Session} {i : ℕ} {manager : NatManager} {tapName : String}
    {rest : Multiset Rule} (hm : session.managers[i]?=some manager)
    (hremovals : session.removals=manager.removal session.host.outgoing+rest)
    (h : Balanced session) :
    Settled session.host.rules (natRules session.host.outgoing tapName+rest) session.others ↔
      Balancing session (.setup i tapName) := by
  dsimp only [Balancing]
  rw [hm]
  dsimp only
  cases ht : manager.activeTap with
  | none =>
    have hnone : manager.removal session.host.outgoing=0 := by
      unfold NatManager.removal
      rw [ht]
    unfold Balanced at h
    rw [hremovals,hnone] at h
    rw [settled_exchange_iff (fun rule _ => Multiset.notMem_zero rule) h]
    exact and_iff_left fun rule hr => absurd hr (Multiset.notMem_zero rule)
  | some old =>
    have hold : manager.removal session.host.outgoing=natRules session.host.outgoing old := by
      unfold NatManager.removal
      rw [ht]
    rw [hold] at hremovals
    by_cases hsame : old=tapName
    · subst hsame
      unfold Balanced at h
      rw [hremovals] at h
      exact ⟨fun _ => Or.inl rfl,fun _ => h⟩
    · rw [tap_exchange_iff hsame hremovals h]
      exact (or_iff_right hsame).symm

/-- A setup keeps the balance exactly under its condition. -/
theorem setup_balanced_iff {session : Session} (h : Balanced session) (i : ℕ)
    (tapName : String) :
    Balancing session (.setup i tapName) ↔
      ∀ next, step session (.setup i tapName)=some next → Balanced next := by
  cases hm : session.managers[i]? with
  | none =>
    have hstep : step session (.setup i tapName)=none := by
      dsimp only [step]
      rw [hm]
      rfl
    have hcondition : Balancing session (.setup i tapName) := by
      dsimp only [Balancing]
      rw [hm]
      trivial
    refine ⟨fun _ next hn => ?_,fun _ => hcondition⟩
    rw [hstep] at hn
    cases hn
  | some manager =>
    obtain ⟨rest,hsum,hset,-⟩ := sum_split (NatManager.removal session.host.outgoing) hm
    have hstep : step session (.setup i tapName)=
        some {session with
          host := (manager.setup tapName session.host).host
          managers := session.managers.set i (.installed tapName)++[.installed tapName]} := by
      dsimp only [step]
      rw [hm]
      rfl
    have hnext : ((session.managers.set i (NatManager.installed tapName)++
        [NatManager.installed tapName]).map (NatManager.removal session.host.outgoing)).sum=
        natRules session.host.outgoing tapName+(natRules session.host.outgoing tapName+rest) := by
      rw [List.map_append,List.sum_append,hset,List.map_singleton,List.sum_singleton,
        installed_removal,add_comm]
    rw [←setup_exchange_iff hm hsum h,hstep]
    simp only [Option.some.injEq,forall_eq']
    unfold Balanced Session.removals
    dsimp only
    rw [setup_outgoing,setup_rules,hnext,settled_deposit_iff]

/-- A teardown keeps the balance. -/
theorem teardown_balanced {session next : Session} {i : ℕ} (h : Balanced session)
    (hnext : step session (.teardown i)=some next) : Balanced next := by
  dsimp only [step] at hnext
  obtain ⟨manager,hm,rfl⟩ := Option.map_eq_some_iff.mp hnext
  obtain ⟨rest,hsum,hset,-⟩ := sum_split (NatManager.removal session.host.outgoing) hm
  unfold Balanced Session.removals at h ⊢
  rw [hsum] at h
  dsimp only
  rw [teardown_outgoing,teardown_rules,hset,teardown_removal,zero_add,settled_withdraw_iff]
  exact h

/-- Dropping a manager keeps the balance. -/
theorem drop_balanced {session next : Session} {i : ℕ} (h : Balanced session)
    (hnext : step session (.drop i)=some next) : Balanced next := by
  dsimp only [step] at hnext
  obtain ⟨manager,hm,rfl⟩ := Option.map_eq_some_iff.mp hnext
  obtain ⟨rest,hsum,-,herase⟩ := sum_split (NatManager.removal session.host.outgoing) hm
  unfold Balanced Session.removals at h ⊢
  rw [hsum] at h
  dsimp only
  rw [drop_outgoing,drop_rules,herase,settled_withdraw_iff]
  exact h

/-- Creating a manager keeps the balance. -/
theorem new_balanced {session next : Session} (h : Balanced session)
    (hnext : step session .new=some next) : Balanced next := by
  obtain rfl := Option.some.inj hnext
  unfold Balanced Session.removals at h ⊢
  dsimp only
  rw [List.map_append,List.sum_append,List.map_singleton,List.sum_singleton,new_removal,add_zero]
  exact h

/-- The removals that depend on the outgoing interface are of its masquerading
rule, and exist when a manager owns rules. -/
theorem mem_ifaceRemovals {hostIface : String} {managers : List NatManager} {rule : Rule} :
    rule∈(managers.map (NatManager.ifaceRemoval hostIface)).sum ↔
      rule=.masquerade hostIface ∧ ∃ manager∈managers, manager.activeTap≠none := by
  induction managers with
  | nil => simp
  | cons manager rest ih =>
    have hhead : rule∈manager.ifaceRemoval hostIface ↔
        rule=.masquerade hostIface ∧ manager.activeTap≠none := by
      unfold NatManager.ifaceRemoval
      cases manager.activeTap <;> simp
    rw [List.map_cons,List.sum_cons,Multiset.mem_add,ih,hhead]
    simp only [List.mem_cons,exists_eq_or_imp]
    tauto

/-- The removals for tap interfaces are of no masquerading rule. -/
theorem masquerade_notMem_tapRemovals (hostIface : String) (managers : List NatManager) :
    Rule.masquerade hostIface∉(managers.map NatManager.tapRemoval).sum := by
  induction managers with
  | nil => simp
  | cons manager rest ih =>
    have hhead : Rule.masquerade hostIface∉manager.tapRemoval := by
      unfold NatManager.tapRemoval
      cases manager.activeTap with
      | none => exact Multiset.notMem_zero _
      | some tapName => exact masquerade_notMem_tapRules hostIface tapName
    rw [List.map_cons,List.sum_cons,Multiset.mem_add]
    exact not_or.mpr ⟨hhead,ih⟩

/-- The removals of all managers by the interface they depend on. -/
theorem removals_eq (hostIface : String) (managers : List NatManager) :
    (managers.map (NatManager.removal hostIface)).sum=
      (managers.map (NatManager.ifaceRemoval hostIface)).sum+
        (managers.map NatManager.tapRemoval).sum := by
  rw [←List.sum_map_add]
  exact congrArg List.sum (List.map_congr_left fun manager _ => removal_eq hostIface manager)

/-- The outgoing interface may change exactly when no manager owns rules, or the
masquerading rule of the old one is absent and no other party has the new one's. -/
theorem iface_exchange_iff {managers : List NatManager} {rules others : Multiset Rule}
    {before after : String} (hne : after≠before)
    (h : Settled rules (managers.map (NatManager.removal before)).sum others) :
    Settled rules (managers.map (NatManager.removal after)).sum others ↔
      (∀ manager∈managers, manager.activeTap=none) ∨
      Rule.masquerade before∉rules ∧ Rule.masquerade after∉others := by
  have hdisjoint : ∀ rule∈(managers.map (NatManager.ifaceRemoval after)).sum,
      rule∉(managers.map (NatManager.ifaceRemoval before)).sum := by
    intro rule hafter hbefore
    have hrule := (mem_ifaceRemovals.mp hafter).1
    rw [(mem_ifaceRemovals.mp hbefore).1] at hrule
    exact hne (masquerade_inj.mp hrule).symm
  have habsent := Multiset.count_eq_zero.mpr (masquerade_notMem_tapRemovals before managers)
  rw [removals_eq] at h ⊢
  rw [settled_exchange_iff hdisjoint h]
  by_cases hidle : ∀ manager∈managers, manager.activeTap=none
  · have hnone : ∀ iface rule, rule∉(managers.map (NatManager.ifaceRemoval iface)).sum := by
      intro iface rule hrule
      obtain ⟨-,manager,hm,hactive⟩ := mem_ifaceRemovals.mp hrule
      exact hactive (hidle manager hm)
    exact ⟨fun _ => Or.inl hidle,fun _ => ⟨fun rule hr => absurd hr (hnone after rule),
      fun rule hr => absurd hr (hnone before rule)⟩⟩
  · have howner : ∃ manager∈managers, manager.activeTap≠none := by
      simpa using hidle
    constructor
    · rintro ⟨hothers,hrules⟩
      have hcount := hrules (.masquerade before) (mem_ifaceRemovals.mpr ⟨rfl,howner⟩)
      rw [habsent] at hcount
      exact Or.inr ⟨Multiset.count_eq_zero.mp (Nat.le_zero.mp hcount),
        hothers (.masquerade after) (mem_ifaceRemovals.mpr ⟨rfl,howner⟩)⟩
    · intro hclear
      obtain ⟨hrules,hothers⟩ := hclear.resolve_left hidle
      constructor
      · intro rule hr
        rw [(mem_ifaceRemovals.mp hr).1]
        exact hothers
      · intro rule hr
        rw [(mem_ifaceRemovals.mp hr).1,Multiset.count_eq_zero.mpr hrules]
        exact Nat.zero_le _

/-- A change of the routing table keeps the balance exactly under its condition. -/
theorem route_balanced_iff {session : Session} (h : Balanced session)
    (route : Except String String) :
    Balancing session (.routeChange route) ↔
      Balanced {session with host := {session.host with route := route}} := by
  have hnext : Balanced {session with host := {session.host with route := route}} ↔
      Settled session.host.rules
        ((session.managers.map (NatManager.removal
          (Host.outgoing {session.host with route := route}))).sum) session.others := Iff.rfl
  rw [hnext]
  dsimp only [Balancing]
  unfold Balanced Session.removals at h
  by_cases hsame : Host.outgoing {session.host with route := route}=session.host.outgoing
  · rw [hsame]
    exact ⟨fun _ => h,fun _ => Or.inl rfl⟩
  · rw [or_iff_right hsame]
    exact (iface_exchange_iff hsame h).symm

/-- A step keeps the balance exactly under its condition. -/
theorem step_balanced_iff {session : Session} (h : Balanced session) (op : Op) :
    Balancing session op ↔ ∀ next, step session op=some next → Balanced next := by
  cases op with
  | new => exact ⟨fun _ next hnext => new_balanced h hnext,fun _ => trivial⟩
  | setup i tapName => exact setup_balanced_iff h i tapName
  | teardown i => exact ⟨fun _ next hnext => teardown_balanced h hnext,fun _ => trivial⟩
  | drop i => exact ⟨fun _ next hnext => drop_balanced h hnext,fun _ => trivial⟩
  | routeChange route =>
    rw [route_balanced_iff h route]
    dsimp only [step]
    simp only [Option.some.injEq,forall_eq']
  | otherAdd rule =>
    dsimp only [Balancing,step]
    simp only [Option.some.injEq,forall_eq']
    exact (settled_other_add_iff rule h).symm
  | otherRemove rule =>
    refine ⟨fun _ next hnext => ?_,fun _ => trivial⟩
    dsimp only [step] at hnext
    split at hnext
    · obtain rfl := Option.some.inj hnext
      exact h.other_erase rule
    · cases hnext

/-- A host without managers is balanced. -/
theorem initial_balanced (host : Host) : Balanced (.initial host) :=
  settled_zero_iff.mpr rfl

/-- With every manager torn down or dropped, balance means that exactly the
rules of the other parties are left. -/
theorem idle_balanced_iff {session : Session}
    (hidle : ∀ manager∈session.managers, manager.isSetup=false) :
    Balanced session ↔ session.host.rules=session.others := by
  have hremovals : session.removals=0 := by
    unfold Session.removals
    refine List.sum_eq_zero ?_
    intro removal hc
    obtain ⟨manager,hm,rfl⟩ := List.mem_map.mp hc
    unfold NatManager.removal NatManager.activeTap
    rw [hidle manager hm]
    rfl
  unfold Balanced
  rw [hremovals]
  exact settled_zero_iff

/-- The steps of the managers and of the routing table leave the rules of the
other parties as they are. -/
def Op.own : Op → Bool
  | .otherAdd _ => false
  | .otherRemove _ => false
  | _ => true

/-- A step that is not another party's changes none of its rules. -/
theorem step_others {session next : Session} {op : Op} (hown : op.own=true)
    (hnext : step session op=some next) : next.others=session.others := by
  cases op with
  | new =>
    obtain rfl := Option.some.inj hnext
    rfl
  | setup i tapName =>
    obtain ⟨manager,-,rfl⟩ := Option.map_eq_some_iff.mp hnext
    rfl
  | teardown i =>
    obtain ⟨manager,-,rfl⟩ := Option.map_eq_some_iff.mp hnext
    rfl
  | drop i =>
    obtain ⟨manager,-,rfl⟩ := Option.map_eq_some_iff.mp hnext
    rfl
  | routeChange route =>
    obtain rfl := Option.some.inj hnext
    rfl
  | otherAdd rule => cases hown
  | otherRemove rule => cases hown

/-- A session whose steps all keep the balance, and whose managers are all torn
down or dropped in the end, leaves exactly the rules of the other parties; if
these did nothing, the rules there were before. Sessions of such steps are
exactly those in which tearing everything down after any step would leave
the rules of the other parties. -/
theorem nat_rules_balance_iff (host : Host) (ops : List Op) :
    ((∀ v∈visits step (.initial host) ops, Balancing v.1 v.2) →
      ∀ last, run step (.initial host) ops=some last →
        (∀ manager∈last.managers, manager.isSetup=false) →
        last.host.rules=last.others ∧
          ((∀ op∈ops, op.own=true) → last.host.rules=host.rules)) ∧
    ((∀ v∈visits step (.initial host) ops, Balancing v.1 v.2) ↔
      ∀ v∈visits step (.initial host) ops, ∀ next, step v.1 v.2=some next →
        next.tearDownAll.rules=next.others) := by
  have hstep : ∀ session op next, Balanced session → Balancing session op →
      step session op=some next → Balanced next := by
    intro session op next hb hop hnext
    exact (step_balanced_iff hb op).mp hop next hnext
  refine ⟨?_,⟨?_,?_⟩⟩
  · intro hops last hrun hidle
    have hlast := run_invariant hstep ops (.initial host) last (initial_balanced host) hops hrun
    have hrules := (idle_balanced_iff hidle).mp hlast
    refine ⟨hrules,fun hown => ?_⟩
    have hothers : last.others=host.rules := by
      refine @run_invariant _ _ step (fun session => session.others=host.rules)
        (fun _ op => op.own=true) ?_ ops (.initial host) last rfl ?_ hrun
      · intro session op next hs hop hnext
        rw [step_others hop hnext,hs]
      · exact fun v hv => hown v.2 (visits_input hv)
    rw [hrules,hothers]
  · intro hops v hv next hnext
    have hb := visits_invariant hstep ops (.initial host) (initial_balanced host) hops v hv
    exact (balanced_iff_tearDownAll next).mp (hstep v.1 v.2 next hb (hops v hv) hnext)
  · intro hops v hv
    have hbalanced : ∀ w∈visits step (.initial host) ops, ∀ next, step w.1 w.2=some next →
        Balanced next := by
      intro w hw next hnext
      exact (balanced_iff_tearDownAll next).mpr (hops w hw next hnext)
    have hb := @visits_invariant _ _ step Balanced
      (fun session op => ∀ next, step session op=some next → Balanced next)
      (fun session op next _ hgood hnext => hgood next hnext) ops (.initial host)
      (initial_balanced host) hbalanced v hv
    exact (step_balanced_iff hb v.2).mpr (hbalanced v hv)

/-- A host that already masquerades its own interface, with the given routing table. -/
def masqueradingHost (route : Except String String) : Host :=
  ⟨{.masquerade "eth0"},route,true,true⟩

/-- A routing table whose default route goes out of an interface. -/
def defaultRoute (iface : String) : Except String String :=
  .ok ("Iface\tDestination\tGateway\n"++iface++"\t00000000\t0102A8C0\n")

/-- One setup and the two drops that belong to it delete the rule of another party. -/
theorem foreign_rule_deleted :
    ∃ last, run step (.initial (masqueradingHost (defaultRoute "eth0")))
        [.new,.setup 0 "tap0",.drop 1,.drop 0]=some last ∧
      (∀ manager∈last.managers, manager.isSetup=false) ∧
      last.host.rules≠(masqueradingHost (defaultRoute "eth0")).rules := by
  have hrun : run step (.initial (masqueradingHost (defaultRoute "eth0")))
      [.new,.setup 0 "tap0",.drop 1,.drop 0]=
      some ⟨⟨0,defaultRoute "eth0",true,true⟩,[],{.masquerade "eth0"}⟩ := rfl
  refine ⟨_,hrun,?_,?_⟩
  · intro manager hm
    cases hm
  · intro hrules
    exact Multiset.singleton_ne_zero (Rule.masquerade "eth0") hrules.symm

end LiteDroid.NetworkNatRuns
