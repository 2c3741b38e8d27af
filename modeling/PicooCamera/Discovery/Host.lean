import PicooCamera.Library.Least

/-!
# The address that a Receiver advertises

An address of a physical interface that a phone can reach, the best one by the
interface's name and the prefix of the address.
-/

namespace PicooCamera.Discovery

open PicooCamera.Library

structure Ipv4Addr where
  octets : Vector (Fin 256) 4
  deriving DecidableEq, Repr

namespace Ipv4Addr

def isUnspecified (ip : Ipv4Addr) : Bool := ip.octets.toList = [0, 0, 0, 0]

def isLoopback (ip : Ipv4Addr) : Bool := ip.octets[0] = 127

def isLinkLocal (ip : Ipv4Addr) : Bool := ip.octets[0] = 169 ∧ ip.octets[1] = 254

def isMulticast (ip : Ipv4Addr) : Bool := 224 ≤ ip.octets[0] ∧ ip.octets[0] ≤ 239

end Ipv4Addr

/-- What `netdev` says of an interface. -/
structure Interface where
  name : String
  friendlyName : Option String
  isUp : Bool
  isLoopback : Bool
  ipv4 : List Ipv4Addr
  deriving DecidableEq, Repr

def isAdvertiseCandidate (ip : Ipv4Addr) : Bool :=
  !ip.isUnspecified && !ip.isLoopback && !ip.isLinkLocal && !ip.isMulticast

def scoreIpOnly (ip : Ipv4Addr) : Int :=
  if ip.octets[0] = 192 ∧ ip.octets[1] = 168 then 80
  else if ip.octets[0] = 10 then 60
  else if ip.octets[0] = 172 ∧ 16 ≤ ip.octets[1] ∧ ip.octets[1] ≤ 31 then 10
  else 20

def contains (text part : String) : Bool := part.toList <:+: text.toList

def virtualMarkers : List String :=
  ["docker", "wsl", "hyper-v", "vethernet", "virtual", "vmware", "vbox", "npcap", "loopback",
    "tunnel", "tailscale", "zerotier", "wireguard", "openvpn", "vpn", "utun", "ppp", "tap", "tun",
    "bridge"]

def isMacosEnInterface (name : String) : Bool :=
  name.toList.take 2 = "en".toList ∧ name.toList.drop 2 ≠ [] ∧
    (name.toList.drop 2).all Char.isDigit

section Names

-- `str::to_lowercase`
variable (lowercase : String → String)

def isVirtualOrTunnelInterface (interfaceName : String) : Bool :=
  virtualMarkers.any fun marker => contains (lowercase interfaceName) marker

def scoreAdvertiseCandidate (interfaceName : String) (ip : Ipv4Addr) : Int :=
  let lower := lowercase interfaceName
  let wireless := ["wi-fi", "wifi", "wlan", "wireless"].any (contains lower)
  let wired := ["ethernet", "eth"].any (contains lower) || isMacosEnInterface lower
  let bonus := if wireless then 200 else if wired then 150 else 0
  let penalty := if isVirtualOrTunnelInterface lowercase lower then 500 else 0
  scoreIpOnly ip + bonus - penalty

/-- A higher score comes first, and then lower octets. -/
def rank (scored : Int × Ipv4Addr) : Intᵒᵈ ×ₗ List (Fin 256) :=
  toLex (OrderDual.toDual scored.1, scored.2.octets.toList)

def selectAdvertiseIpv4WithInterfaces (ifaces : List (String × Ipv4Addr)) : Option Ipv4Addr :=
  (leastBy rank ((ifaces.filter fun iface => isAdvertiseCandidate iface.2 &&
    !isVirtualOrTunnelInterface lowercase iface.1).map fun iface =>
      (scoreAdvertiseCandidate lowercase iface.1 iface.2, iface.2))).map Prod.snd

/-- The addresses of the interfaces that are up, each with the name that is shown. -/
def shownAddresses (ifaces : List Interface) : List (String × Ipv4Addr) :=
  (ifaces.filter fun iface => iface.isUp && !iface.isLoopback).flatMap fun iface =>
    iface.ipv4.map fun ip => (iface.friendlyName.getD iface.name, ip)

def localAdvertiseIpv4 (ifaces : List Interface) : Option Ipv4Addr :=
  if shownAddresses ifaces = [] then none
  else selectAdvertiseIpv4WithInterfaces lowercase (shownAddresses ifaces)

def mdnsDisableInterfaceNames (ifaces : List Interface) (advertise : Ipv4Addr) : List String :=
  (ifaces.filter fun iface => !iface.ipv4.contains advertise ||
    (isVirtualOrTunnelInterface lowercase iface.name ||
      iface.friendlyName.any (isVirtualOrTunnelInterface lowercase))).map Interface.name

end Names

/-! ### The choice among the interfaces -/

section Choice

variable {lowercase : String → String} {ifaces ifaces' : List Interface} {ip : Ipv4Addr}

theorem rank_le {a b : Int × Ipv4Addr} :
    rank a ≤ rank b ↔ b.1 < a.1 ∨ a.1 = b.1 ∧ a.2.octets.toList ≤ b.2.octets.toList := by
  unfold rank
  rw [Prod.Lex.toLex_le_toLex]
  rfl

theorem snd_eq_of_rank {a b : Int × Ipv4Addr} (h : rank a = rank b) : a.2 = b.2 := by
  have hoctets : a.2.octets.toList = b.2.octets.toList :=
    congrArg (fun r => (ofLex r).2) h
  have hvector := Vector.toList_inj.mp hoctets
  cases ha : a.2 with
  | mk octets =>
      cases hb : b.2 with
      | mk octets' =>
          rw [ha, hb] at hvector
          exact congrArg Ipv4Addr.mk hvector

theorem mem_shownAddresses {name : String} :
    (name, ip) ∈ shownAddresses ifaces ↔ ∃ iface ∈ ifaces, iface.isUp = true ∧
      iface.isLoopback = false ∧ ip ∈ iface.ipv4 ∧ iface.friendlyName.getD iface.name = name := by
  simp only [shownAddresses, List.mem_flatMap, List.mem_filter, List.mem_map, Prod.mk.injEq,
    Bool.and_eq_true, Bool.not_eq_true']
  constructor
  · rintro ⟨iface, ⟨hmem, hup, hloop⟩, ip', hip, hname, rfl⟩
    exact ⟨iface, hmem, hup, hloop, hip, hname⟩
  · rintro ⟨iface, hmem, hup, hloop, hip, hname⟩
    exact ⟨iface, ⟨hmem, hup, hloop⟩, ip, hip, hname, rfl⟩

/-- The addresses that phones may be told, each with the name that is shown. -/
def advertisable (lowercase : String → String) (ifaces : List Interface) :
    List (String × Ipv4Addr) :=
  (shownAddresses ifaces).filter fun shown => isAdvertiseCandidate shown.2 &&
    !isVirtualOrTunnelInterface lowercase shown.1

def scores (lowercase : String → String) (ifaces : List Interface) : List (Int × Ipv4Addr) :=
  (advertisable lowercase ifaces).map fun shown =>
    (scoreAdvertiseCandidate lowercase shown.1 shown.2, shown.2)

theorem localAdvertiseIpv4_eq :
    localAdvertiseIpv4 lowercase ifaces =
      (leastBy rank (scores lowercase ifaces)).map Prod.snd := by
  unfold localAdvertiseIpv4
  split
  case isTrue hnil =>
    have hscores : scores lowercase ifaces = [] := by
      simp only [scores, advertisable, hnil, List.filter_nil, List.map_nil]
    rw [leastBy_eq_none.mpr hscores]
    rfl
  case isFalse => rfl

theorem mem_advertisable {name : String} :
    (name, ip) ∈ advertisable lowercase ifaces ↔ (name, ip) ∈ shownAddresses ifaces ∧
      isAdvertiseCandidate ip = true ∧ isVirtualOrTunnelInterface lowercase name = false := by
  simp only [advertisable, List.mem_filter, Bool.and_eq_true, Bool.not_eq_true']

theorem scores_perm (h : ifaces.Perm ifaces') :
    (scores lowercase ifaces).Perm (scores lowercase ifaces') := by
  unfold scores advertisable shownAddresses
  exact (((h.filter _).flatMap_right _).filter _).map _

/-- An interface that the mDNS daemon may use for the address. -/
structure Announces (lowercase : String → String) (ip : Ipv4Addr) (iface : Interface) : Prop where
  holds : ip ∈ iface.ipv4
  physical : isVirtualOrTunnelInterface lowercase iface.name = false
  shown : ∀ shown ∈ iface.friendlyName, isVirtualOrTunnelInterface lowercase shown = false

theorem disabled_eq_false {iface : Interface} :
    (!iface.ipv4.contains ip || (isVirtualOrTunnelInterface lowercase iface.name ||
      iface.friendlyName.any (isVirtualOrTunnelInterface lowercase))) = false ↔
        Announces lowercase ip iface := by
  have hparts : Announces lowercase ip iface ↔ ip ∈ iface.ipv4 ∧
      isVirtualOrTunnelInterface lowercase iface.name = false ∧
      ∀ shown ∈ iface.friendlyName, isVirtualOrTunnelInterface lowercase shown = false :=
    ⟨fun h => ⟨h.holds, h.physical, h.shown⟩, fun h => ⟨h.1, h.2.1, h.2.2⟩⟩
  rw [hparts]
  cases iface.friendlyName <;> simp

theorem announces_of_kept {iface : Interface} (hmem : iface ∈ ifaces)
    (hkept : iface.name ∉ mdnsDisableInterfaceNames lowercase ifaces ip) :
    Announces lowercase ip iface := by
  refine disabled_eq_false.mp ?_
  rw [← Bool.not_eq_true]
  intro hdisabled
  exact hkept (List.mem_map.mpr ⟨iface, List.mem_filter.mpr ⟨hmem, hdisabled⟩, rfl⟩)

/-- The daemon is told names only, so that a second interface of the name may disable it. -/
theorem kept_of_announces {iface : Interface} (hnames : (ifaces.map Interface.name).Nodup)
    (hmem : iface ∈ ifaces) (h : Announces lowercase ip iface) :
    iface.name ∉ mdnsDisableInterfaceNames lowercase ifaces ip := by
  intro hdisabled
  obtain ⟨other, hother, hname⟩ := List.mem_map.mp hdisabled
  obtain ⟨hlisted, hother⟩ := List.mem_filter.mp hother
  rw [List.inj_on_of_nodup_map hnames hlisted hmem hname, disabled_eq_false.mpr h] at hother
  exact absurd hother Bool.false_ne_true

theorem localAdvertiseIpv4_none :
    localAdvertiseIpv4 lowercase ifaces = none ↔ advertisable lowercase ifaces = [] := by
  rw [localAdvertiseIpv4_eq, Option.map_eq_none_iff, leastBy_eq_none]
  exact List.map_eq_nil_iff

theorem localAdvertiseIpv4_some (h : localAdvertiseIpv4 lowercase ifaces = some ip) :
    ∃ name, (name, ip) ∈ advertisable lowercase ifaces ∧
      ∀ other ∈ advertisable lowercase ifaces,
        scoreAdvertiseCandidate lowercase other.1 other.2 <
          scoreAdvertiseCandidate lowercase name ip ∨
        scoreAdvertiseCandidate lowercase other.1 other.2 =
            scoreAdvertiseCandidate lowercase name ip ∧
          ip.octets.toList ≤ other.2.octets.toList := by
  rw [localAdvertiseIpv4_eq] at h
  obtain ⟨best, hbest, rfl⟩ := Option.map_eq_some_iff.mp h
  obtain ⟨hmem, hleast⟩ := leastBy_spec hbest
  obtain ⟨⟨name, ip⟩, hshown, rfl⟩ := List.mem_map.mp hmem
  refine ⟨name, hshown, fun other hother => ?_⟩
  rcases rank_le.mp (hleast _ (List.mem_map_of_mem hother)) with hlt | ⟨heq, hle⟩
  · exact Or.inl hlt
  · exact Or.inr ⟨heq.symm, hle⟩

end Choice

/-- The advertised address is the best one that phones can be told, whatever the
order in which the interfaces are listed; the daemon keeps only interfaces that hold
it and that neither of their names tells to be virtual, among them the one that it was
chosen from unless that one's own name is virtual. -/
theorem advertised_host_contract (lowercase : String → String) (ifaces : List Interface) :
    (localAdvertiseIpv4 lowercase ifaces = none ↔ advertisable lowercase ifaces = []) ∧
    (∀ ip, localAdvertiseIpv4 lowercase ifaces = some ip →
      ∃ iface ∈ ifaces, ∃ name,
        iface.isUp = true ∧ iface.isLoopback = false ∧ ip ∈ iface.ipv4 ∧
        iface.friendlyName.getD iface.name = name ∧ isAdvertiseCandidate ip = true ∧
        isVirtualOrTunnelInterface lowercase name = false ∧
        (∀ other ∈ advertisable lowercase ifaces,
          scoreAdvertiseCandidate lowercase other.1 other.2 <
            scoreAdvertiseCandidate lowercase name ip ∨
          scoreAdvertiseCandidate lowercase other.1 other.2 =
              scoreAdvertiseCandidate lowercase name ip ∧
            ip.octets.toList ≤ other.2.octets.toList) ∧
        ((ifaces.map Interface.name).Nodup →
          isVirtualOrTunnelInterface lowercase iface.name = false →
            iface.name ∉ mdnsDisableInterfaceNames lowercase ifaces ip) ∧
        ∀ other ∈ ifaces, other.name ∉ mdnsDisableInterfaceNames lowercase ifaces ip →
          Announces lowercase ip other) ∧
    ∀ ifaces', ifaces.Perm ifaces' →
      localAdvertiseIpv4 lowercase ifaces' = localAdvertiseIpv4 lowercase ifaces := by
  refine ⟨localAdvertiseIpv4_none, fun ip hip => ?_, fun ifaces' hperm => ?_⟩
  · obtain ⟨name, hbest, hleast⟩ := localAdvertiseIpv4_some hip
    obtain ⟨hshown, hcandidate, hphysical⟩ := mem_advertisable.mp hbest
    obtain ⟨iface, hiface, hup, hloop, hholds, hname⟩ := mem_shownAddresses.mp hshown
    refine ⟨iface, hiface, name, hup, hloop, hholds, hname, hcandidate, hphysical, hleast, ?_,
      fun other hother => announces_of_kept hother⟩
    intro hnodup hraw
    refine kept_of_announces hnodup hiface ⟨hholds, hraw, fun shown hshown => ?_⟩
    rw [Option.mem_def.mp hshown, Option.getD_some] at hname
    exact hname ▸ hphysical
  · rw [localAdvertiseIpv4_eq, localAdvertiseIpv4_eq]
    exact (leastBy_map_perm (fun _ _ _ _ => snd_eq_of_rank) (scores_perm hperm)).symm

end PicooCamera.Discovery
