import LiteDroid.NetworkNat

/-!
# The outgoing interface

The interface that the guest's packets leave by is looked up in the routing
table. A route to everywhere has the destination zero and the mask zero. The
lookup compares the destination only and takes the first match, so it also
takes a route to half of the network that stands first.
-/

namespace LiteDroid.NetworkRoutes

open CoreResults CoreText NetworkNat

/-- The entries of a routing table: the fields of every line behind the heading. -/
def entries (content : String) : List (List String) :=
  ((lines content).drop 1).map splitWhitespace

/-- An entry has the destination zero. -/
def zeroDestination (fields : List String) : Bool := fields[1]?=some "00000000"

/-- An entry is a default route: its destination and its mask are zero. -/
def IsDefaultRoute (fields : List String) : Prop :=
  fields[1]?=some "00000000" ∧ fields[7]?=some "00000000"

/-- The lookup returns the interface of a default route, and fails only where
there is none. -/
structure Faithful (content : String) : Prop where
  /-- What it returns is the interface of a default route. -/
  returned : ∀ iface, hostInterface (.ok content)=.ok iface →
    ∃ fields∈entries content, IsDefaultRoute fields ∧ fields[0]?=some iface
  /-- It fails only without a default route. -/
  failed : ∀ e, hostInterface (.ok content)=.error e →
    ∀ fields∈entries content, ¬IsDefaultRoute fields

/-- The interface of an entry with the destination zero. -/
def outgoing (fields : List String) : Option String :=
  match fields with
  | iface::destination::_ => if destination="00000000" then some iface else none
  | _ => none

/-- An entry with the destination zero has an interface. -/
theorem outgoing_zero {fields : List String} (h : zeroDestination fields=true) :
    outgoing fields=fields[0]? ∧ fields[0]?≠none := by
  unfold zeroDestination at h
  rw [decide_eq_true_iff] at h
  cases fields with
  | nil => cases h
  | cons iface rest =>
    cases rest with
    | nil => cases h
    | cons destination later =>
      have hzero : destination="00000000" := Option.some.inj h
      rw [outgoing,if_pos hzero]
      exact ⟨rfl,Option.some_ne_none _⟩

/-- Any other entry is passed over. -/
theorem outgoing_other {fields : List String} (h : zeroDestination fields=false) :
    outgoing fields=none := by
  unfold zeroDestination at h
  rw [decide_eq_false_iff_not] at h
  cases fields with
  | nil => rfl
  | cons iface rest =>
    cases rest with
    | nil => rfl
    | cons destination later =>
      have hother : destination≠"00000000" := fun heq => h (congrArg some heq)
      rw [outgoing,if_neg hother]

/-- The first entry with an outgoing interface is the first with the destination
zero. -/
theorem findSome_outgoing (table : List (List String)) :
    table.findSome? outgoing=(table.find? zeroDestination).bind fun fields => fields[0]? := by
  induction table with
  | nil => rfl
  | cons fields rest ih =>
    cases hzero : zeroDestination fields with
    | true =>
      obtain ⟨heq,hsome⟩ := outgoing_zero hzero
      obtain ⟨iface,hiface⟩ := Option.ne_none_iff_exists'.mp hsome
      rw [List.findSome?_cons,List.find?_cons,hzero,heq,hiface]
      exact hiface.symm
    | false => rw [List.findSome?_cons,List.find?_cons,hzero,outgoing_other hzero,ih]

/-- The lookup through the entries. -/
theorem hostInterface_entries (content : String) :
    hostInterface (.ok content)=
      match (entries content).findSome? outgoing with
      | some iface => .ok iface
      | none => .error (.natSetupFailed "no default route found in /proc/net/route") := by
  rw [entries,List.findSome?_map]
  rfl

/-- Where an entry has the destination zero, the lookup returns the interface of
the first such entry. -/
theorem hostInterface_first {content iface : String} {fields : List String}
    (h : (entries content).find? zeroDestination=some fields) (hiface : fields[0]?=some iface) :
    hostInterface (.ok content)=.ok iface := by
  rw [hostInterface_entries,findSome_outgoing,h,Option.bind_some,hiface]

/-- Where no entry has it, the lookup fails. -/
theorem hostInterface_none {content : String}
    (h : (entries content).find? zeroDestination=none) :
    hostInterface (.ok content)=
      .error (.natSetupFailed "no default route found in /proc/net/route") := by
  rw [hostInterface_entries,findSome_outgoing,h]
  rfl

/-- The lookup is faithful exactly when the interface of the first entry with the
destination zero, if there is one, also has a default route. -/
theorem default_route_iff (content : String) :
    Faithful content ↔
      ∀ fields, (entries content).find? zeroDestination=some fields →
        ∃ other∈entries content, IsDefaultRoute other ∧ other[0]?=fields[0]? := by
  constructor
  · intro h fields hfind
    obtain ⟨-,hsome⟩ := outgoing_zero (List.find?_some hfind)
    obtain ⟨iface,hiface⟩ := Option.ne_none_iff_exists'.mp hsome
    rw [hiface]
    exact h.returned iface (hostInterface_first hfind hiface)
  · intro h
    cases hfind : (entries content).find? zeroDestination with
    | none =>
      have hlookup := hostInterface_none hfind
      refine ⟨?_,?_⟩
      · intro iface hiface
        rw [hlookup] at hiface
        cases hiface
      · intro e _ fields hfields hdefault
        have hother := List.find?_eq_none.mp hfind fields hfields
        exact hother (decide_eq_true hdefault.1)
    | some fields =>
      obtain ⟨-,hsome⟩ := outgoing_zero (List.find?_some hfind)
      obtain ⟨found,hfound⟩ := Option.ne_none_iff_exists'.mp hsome
      have hlookup := hostInterface_first hfind hfound
      refine ⟨?_,?_⟩
      · intro iface hiface
        rw [hlookup] at hiface
        rw [← Except.ok.inj hiface,← hfound]
        exact h fields hfind
      · intro e he
        rw [hlookup] at he
        cases he

/-- The lines of a routing table in which a tunnel takes the first half of the
network and comes before the default route. -/
def tunnelLines : List String :=
  ["Iface\tDestination\tGateway\tFlags\tRefCnt\tUse\tMetric\tMask\tMTU\tWindow\tIRTT",
    "tun0\t00000000\t0100080A\t0003\t0\t0\t0\t00000080\t0\t0\t0",
    "eth0\t00000000\t0102A8C0\t0003\t0\t0\t100\t00000000\t0\t0\t0"]

/-- The table. -/
def tunnelRoutes : String := String.join (tunnelLines.map fun line => line++"\n")

/-- The entries of this table. -/
theorem tunnelRoutes_entries :
    entries tunnelRoutes=
      [["tun0","00000000","0100080A","0003","0","0","0","00000080","0","0","0"],
        ["eth0","00000000","0102A8C0","0003","0","0","100","00000000","0","0","0"]] := by
  have hplain : ∀ line∈tunnelLines, '\n'∉line.toList ∧ '\r'∉line.toList := by decide +kernel
  rw [entries,tunnelRoutes,lines_terminated hplain]
  decide +kernel

/-- The lookup returns the tunnel, and the default route is another interface's. -/
theorem tunnel_is_returned :
    hostInterface (.ok tunnelRoutes)=.ok "tun0" ∧
      (["eth0","00000000","0102A8C0","0003","0","0","100","00000000","0","0","0"]∈
        entries tunnelRoutes) ∧
      ¬Faithful tunnelRoutes := by
  have hfirst : (entries tunnelRoutes).find? zeroDestination=
      some ["tun0","00000000","0100080A","0003","0","0","0","00000080","0","0","0"] := by
    rw [tunnelRoutes_entries]
    rfl
  have htunnel : hostInterface (.ok tunnelRoutes)=.ok "tun0" := hostInterface_first hfirst rfl
  refine ⟨htunnel,?_,?_⟩
  · rw [tunnelRoutes_entries]
    exact List.mem_cons_of_mem _ List.mem_cons_self
  · intro h
    obtain ⟨fields,hfields,hdefault,hiface⟩ := h.returned "tun0" htunnel
    rw [tunnelRoutes_entries] at hfields
    rcases List.mem_cons.mp hfields with rfl | hother
    · exact absurd hdefault.2 (by decide)
    · rw [List.mem_singleton.mp hother] at hiface
      exact absurd hiface (by decide)

end LiteDroid.NetworkRoutes
