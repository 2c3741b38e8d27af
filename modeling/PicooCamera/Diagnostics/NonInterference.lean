import PicooCamera.Diagnostics.Redaction

/-!
# What a report shows of the redacted content

Two inputs that differ in redacted content only give the same report, as long as
their IPv6 hosts expose the same. A bare IPv6 literal exposes its last group, if
it looks like a port, and each exposes whether it ends in a dotted quad.
-/

namespace PicooCamera.Diagnostics

open PicooCamera.Library PicooCamera.Pairing

variable {Preview : Type} {x y : DiagnosticInput Preview} {h h' : Text} {port : Option Text}

/-! ## Hosts that differ in redacted content -/

def IsPort (port : Option Text) : Prop :=
  ∀ digits ∈ port, digits ≠ [] ∧ ∀ c ∈ digits, c.isDigit = true

def dottedQuad (a b c d : Nat) : Text :=
  ['.'].intercalate ([a, b, c, d].map (Nat.toDigits 10))

inductive IPv4Host (a b : Nat) (port : Option Text) : Text → Prop
  | mk (c d : Nat) (ha : a < 256) (hb : b < 256) (hc : c < 256) (hd : d < 256) :
      IPv4Host a b port (withPort (dottedQuad a b c d) port)

/-- Every IPv6 literal is such a text, with an embedded IPv4 address and a zone or not. -/
def IPv6Text (v : Text) : Prop := 2 ≤ v.count ':' ∧ '[' ∉ v ∧ ']' ∉ v

instance (v : Text) : Decidable (IPv6Text v) :=
  inferInstanceAs (Decidable (2 ≤ v.count ':' ∧ '[' ∉ v ∧ ']' ∉ v))

inductive IPv6Host : Option Text → Text → Prop
  | bare (v : Text) (hv : IPv6Text v) : IPv6Host none v
  | bracketed (v : Text) (port : Option Text) (hv : IPv6Text v) :
      IPv6Host port (withPort ('[' :: v ++ [']']) port)

/-- A name that is no IPv4 address. -/
structure Hostname (labels : Nat) (first : Char) (name : Text) : Prop where
  plain : ':' ∉ name ∧ '[' ∉ name ∧ ']' ∉ name
  length : (name.splitOn '.').length = labels
  head : name.head? = some first
  named : labels = 4 → (name.splitOn '.').all parsesU8 = false

inductive SameHost : Text → Text → Prop
  | refl (h : Text) : SameHost h h
  | ipv4 {a b : Nat} {port : Option Text} {h h' : Text} (hport : IsPort port)
      (hhost : IPv4Host a b port h) (hhost' : IPv4Host a b port h') : SameHost h h'
  | ipv6 {port : Option Text} {h h' : Text} (hport : IsPort port) (hhost : IPv6Host port h)
      (hhost' : IPv6Host port h') : SameHost h h'
  | hostname {labels : Nat} {first : Char} {port : Option Text} {name name' : Text}
      (hport : IsPort port) (hname : Hostname labels first name)
      (hname' : Hostname labels first name') :
      SameHost (withPort name port) (withPort name' port)

/-! ## Splitting off the port -/

theorem not_mem_port (hport : IsPort port) {digits : Text} (h : digits ∈ port) {c : Char}
    (hc : c.isDigit = false) : c ∉ digits := by
  intro hmem
  rw [(hport digits h).2 c hmem] at hc
  cases hc

theorem splitPort_withPort {addr : Text} (hport : IsPort port) (haddr : ':' ∉ addr) :
    splitPort (withPort addr port) = (addr, port) := by
  unfold splitPort
  cases port with
  | none =>
      dsimp only [withPort]
      rw [rsplitOnce_of_not_mem haddr]
  | some digits =>
      dsimp only [withPort]
      rw [rsplitOnce_append (not_mem_port hport rfl (by decide))]
      exact if_pos (List.all_eq_true.mpr (hport digits rfl).2)

theorem splitPort_some {addr digits : Text} (hport : IsPort (some digits)) :
    splitPort (addr ++ ':' :: digits) = (addr, some digits) := by
  unfold splitPort
  rw [rsplitOnce_append (not_mem_port hport rfl (by decide))]
  exact if_pos (List.all_eq_true.mpr (hport digits rfl).2)

/-! ## IPv4 hosts -/

theorem parsesU8_toDigits {n : Nat} (h : n < 256) : parsesU8 (Nat.toDigits 10 n) = true := by
  have hdigit : ∀ c ∈ Nat.toDigits 10 n, c.isDigit = true := fun c hc =>
    Nat.isDigit_of_mem_toDigits (by decide) (by decide) hc
  have hhead : (Nat.toDigits 10 n).head? ≠ some '+' := by
    intro hplus
    have hmem := hdigit '+' (List.mem_of_head? hplus)
    cases hmem
  unfold parsesU8
  dsimp only
  rw [if_neg hhead, Nat.ofDigitChars_toDigits (by decide) (by decide)]
  exact decide_eq_true ⟨Nat.toDigits_ne_nil, List.all_eq_true.mpr hdigit, Nat.le_of_lt_succ h⟩

theorem not_mem_toDigits (n : Nat) {c : Char} (hc : c.isDigit = false) :
    c ∉ Nat.toDigits 10 n := by
  intro hmem
  rw [Nat.isDigit_of_mem_toDigits (by decide) (by decide) hmem] at hc
  cases hc

theorem splitOn_dottedQuad (a b c d : Nat) :
    (dottedQuad a b c d).splitOn '.' = [a, b, c, d].map (Nat.toDigits 10) := by
  apply List.splitOn_intercalate
  · intro part hpart
    obtain ⟨n, -, rfl⟩ := List.mem_map.mp hpart
    exact not_mem_toDigits n (by decide)
  · exact List.cons_ne_nil _ _

theorem not_mem_dottedQuad {a b c d : Nat} {sep : Char} (hdigit : sep.isDigit = false)
    (hdot : sep ≠ '.') : sep ∉ dottedQuad a b c d := by
  have hpart := fun n => @not_mem_toDigits n sep hdigit
  simp [dottedQuad, hpart, hdot]

theorem redactHost_ipv4 {a b : Nat} (hport : IsPort port) (hhost : IPv4Host a b port h) :
    redactHost h true = withPort
      (Nat.toDigits 10 a ++ '.' :: Nat.toDigits 10 b ++ ".xxx.xxx".toList) port := by
  obtain ⟨c, d, ha, hb, hc, hd⟩ := hhost
  have hnot : ∀ {sep : Char}, sep.isDigit = false → sep ≠ '.' → sep ∉ dottedQuad a b c d :=
    fun hdigit hdot => not_mem_dottedQuad hdigit hdot
  unfold redactHost
  rw [if_neg (by decide), splitPort_withPort hport (hnot (by decide) (by decide))]
  dsimp only
  rw [trimMatches_of_not_mem (hnot (by decide) (by decide)) (hnot (by decide) (by decide))]
  congr 1
  unfold redactAddr redactIpv4
  dsimp only
  have hparses : ([a, b, c, d].map (Nat.toDigits 10)).all parsesU8 = true := by
    simp [parsesU8_toDigits, ha, hb, hc, hd]
  rw [splitOn_dottedQuad, if_pos (by rfl), if_pos ⟨by rfl, hparses⟩]
  rfl

/-! ## Hostnames -/

/-- What is kept of a name. -/
def keptName (labels : Nat) (first : Char) : Text :=
  if labels = 4 then "xxx.xxx.xxx.xxx".toList
  else if first = '.' ∨ first = '*' then ".***".toList
  else first :: ".***".toList

theorem head_splitOn {name : Text} {first : Char} (h : name.head? = some first) :
    ∃ label, (name.splitOn '.').head? = some (if first = '.' then [] else first :: label) := by
  cases name with
  | nil => cases h
  | cons c name =>
      obtain rfl := Option.some.inj h
      obtain ⟨label, labels, hsplit⟩ := List.exists_cons_of_ne_nil (List.splitOn_ne_nil '.' name)
      refine ⟨label, ?_⟩
      rw [List.splitOn_cons_eq_if_modifyHead, hsplit]
      by_cases hdot : c = '.'
      · rw [if_pos (beq_iff_eq.mpr hdot), if_pos hdot]
        rfl
      · rw [if_neg (fun heq => hdot (beq_iff_eq.mp heq)), if_neg hdot]
        rfl

theorem redactAddr_hostname {labels : Nat} {first : Char} {name : Text}
    (hname : Hostname labels first name) : redactAddr name = keptName labels first := by
  unfold redactAddr keptName
  rw [hname.length]
  by_cases hfour : labels = 4
  · rw [if_pos hfour, if_pos hfour]
    unfold redactIpv4
    dsimp only
    rw [hname.named hfour]
    exact if_neg fun h => (nomatch h.2)
  · rw [if_neg hfour, if_neg hfour, if_neg hname.plain.1]
    obtain ⟨label, hlabel⟩ := head_splitOn hname.head
    dsimp only
    rw [hlabel, Option.getD_some]
    by_cases hdot : first = '.'
    · rw [if_pos hdot, if_pos (Or.inl hdot)]
      rfl
    · rw [if_neg hdot]
      by_cases hstar : first = '*'
      · rw [if_pos (Or.inr hstar), hstar]
        rfl
      · rw [if_neg (not_or.mpr ⟨hdot, hstar⟩)]
        have hkept : ((redactDeviceName (first :: label)).rdropWhile fun c => c = '*') =
            [first] := by
          simp [redactDeviceName, List.rdropWhile, hstar]
        rw [hkept]
        rfl

theorem redactHost_hostname {labels : Nat} {first : Char} {name : Text} (hport : IsPort port)
    (hname : Hostname labels first name) :
    redactHost (withPort name port) true = withPort (keptName labels first) port := by
  unfold redactHost
  rw [if_neg (by decide), splitPort_withPort hport hname.plain.1]
  dsimp only
  rw [trimMatches_of_not_mem hname.plain.2.1 hname.plain.2.2, redactAddr_hostname hname]

/-! ## IPv6 hosts -/

/-- What an IPv6 host shows: whether it has the dots of an embedded IPv4 address, and what is
taken for its port. -/
def exposed (host : Text) : Option (Bool × Option Text) :=
  if 2 ≤ host.count ':' then some (decide (host.count '.' = 3), (splitPort host).2) else none

def keptAddr (dotted : Bool) : Text :=
  if dotted then "xxx.xxx.xxx.xxx".toList else "xxxx:xxxx:xxxx:xxxx::".toList

theorem length_splitOn (text : Text) (sep : Char) :
    (text.splitOn sep).length = text.count sep + 1 := by
  induction text with
  | nil => rfl
  | cons c text ih =>
      rw [List.splitOn_cons_eq_if_modifyHead, List.count_cons]
      split
      · rw [List.length_cons, ih]
      · rw [List.length_modifyHead, ih]

theorem mem_splitOn {text : Text} {sep c : Char} (hc : c ∈ text) (hne : c ≠ sep) :
    ∃ part ∈ text.splitOn sep, c ∈ part := by
  induction text with
  | nil => cases hc
  | cons d text ih =>
      obtain ⟨label, labels, hsplit⟩ := List.exists_cons_of_ne_nil (List.splitOn_ne_nil sep text)
      rw [List.splitOn_cons_eq_if_modifyHead, hsplit]
      rw [hsplit] at ih
      rcases List.mem_cons.mp hc with rfl | htail
      · rw [if_neg fun heq => hne (beq_iff_eq.mp heq)]
        exact ⟨c :: label, List.mem_cons_self, List.mem_cons_self⟩
      · obtain ⟨part, hpart, hmem⟩ := ih htail
        split
        · exact ⟨part, List.mem_cons_of_mem _ hpart, hmem⟩
        · rcases List.mem_cons.mp hpart with rfl | hrest
          · exact ⟨d :: part, List.mem_cons_self, List.mem_cons_of_mem _ hmem⟩
          · exact ⟨part, List.mem_cons_of_mem _ hrest, hmem⟩

theorem parsesU8_of_colon {part : Text} (h : ':' ∈ part) : parsesU8 part = false := by
  rw [Bool.eq_false_iff]
  intro hparses
  unfold parsesU8 at hparses
  have hall := List.all_eq_true.mp (of_decide_eq_true hparses).2.1
  have hmem : ':' ∈ (if part.head? = some '+' then part.tail else part) := by
    split
    · rename_i hplus
      cases part with
      | nil => cases hplus
      | cons c part =>
          obtain rfl := Option.some.inj hplus
          exact (List.mem_cons.mp h).resolve_left (by decide)
    · exact h
  cases hall ':' hmem

theorem redactAddr_ipv6 {addr : Text} (h : ':' ∈ addr) :
    redactAddr addr = keptAddr (decide (addr.count '.' = 3)) := by
  unfold redactAddr keptAddr
  rw [length_splitOn]
  by_cases hdots : addr.count '.' = 3
  · rw [if_pos (by rw [hdots]), decide_eq_true hdots, if_pos rfl]
    unfold redactIpv4
    obtain ⟨part, hpart, hmem⟩ := mem_splitOn h (by decide : ':' ≠ '.')
    refine if_neg fun hall => ?_
    have hparses := List.all_eq_true.mp hall.2 part hpart
    rw [parsesU8_of_colon hmem] at hparses
    cases hparses
  · rw [if_neg (by omega), decide_eq_false hdots, if_pos h]
    rfl

theorem count_port {digits : Text} {c : Char} (hport : IsPort (some digits))
    (hc : c.isDigit = false) : digits.count c = 0 :=
  List.count_eq_zero.mpr (not_mem_port hport rfl hc)

theorem redactHost_bare {v : Text} (hv : IPv6Text v) :
    redactHost v true = withPort (keptAddr (decide (v.count '.' = 3))) (splitPort v).2 := by
  obtain ⟨hcolons, hopen, hclose⟩ := hv
  have hmem : ':' ∈ v := List.count_pos_iff.mp (by omega)
  obtain ⟨before, after, rfl, hafter⟩ := eq_append_of_mem hmem
  unfold redactHost
  rw [if_neg (by decide)]
  by_cases hdigits : after.all Char.isDigit = true
  · have hsplit : splitPort (before ++ ':' :: after) = (before, some after) := by
      unfold splitPort
      rw [rsplitOnce_append hafter]
      exact if_pos hdigits
    have hdots : after.count '.' = 0 := by
      apply List.count_eq_zero.mpr
      intro hdot
      cases List.all_eq_true.mp hdigits '.' hdot
    have hbefore : ':' ∈ before := by
      apply List.count_pos_iff.mp
      rw [List.count_append, List.count_cons_self, List.count_eq_zero.mpr hafter] at hcolons
      omega
    rw [List.mem_append, not_or] at hopen hclose
    rw [hsplit]
    dsimp only
    rw [trimMatches_of_not_mem hopen.1 hclose.1, redactAddr_ipv6 hbefore, List.count_append,
      List.count_cons_of_ne (by decide), hdots, Nat.add_zero]
  · have hsplit : splitPort (before ++ ':' :: after) = (before ++ ':' :: after, none) := by
      unfold splitPort
      rw [rsplitOnce_append hafter]
      exact if_neg hdigits
    rw [hsplit]
    dsimp only
    rw [trimMatches_of_not_mem hopen hclose, redactAddr_ipv6 hmem]

theorem splitPort_bracketed {v : Text} (hport : IsPort port) (hmem : ':' ∈ v) :
    splitPort (withPort ('[' :: v ++ [']']) port) = ('[' :: v ++ [']'], port) := by
  cases port with
  | some digits => exact splitPort_some hport
  | none =>
      obtain ⟨before, after, rfl, hafter⟩ := eq_append_of_mem hmem
      have heq : '[' :: (before ++ ':' :: after) ++ [']'] =
          ('[' :: before) ++ ':' :: (after ++ [']']) := by
        simp
      have hlast : ':' ∉ after ++ [']'] := by
        rw [List.mem_append, List.mem_singleton, not_or]
        exact ⟨hafter, by decide⟩
      unfold splitPort withPort
      dsimp only
      rw [heq, rsplitOnce_append hlast]
      refine if_neg fun hall => ?_
      cases List.all_eq_true.mp hall ']' (List.mem_append_right _ (List.mem_singleton_self _))

theorem count_withPort {addr : Text} {c : Char} (hport : IsPort port) (hc : c.isDigit = false)
    (hcolon : c ≠ ':') : (withPort addr port).count c = addr.count c := by
  cases port with
  | none => rfl
  | some digits =>
      unfold withPort
      dsimp only
      rw [List.count_append, List.count_cons_of_ne hcolon.symm, count_port hport hc,
        Nat.add_zero]

theorem redactHost_ipv6 (hport : IsPort port) (hhost : IPv6Host port h) :
    2 ≤ h.count ':' ∧
      redactHost h true = withPort (keptAddr (decide (h.count '.' = 3))) (splitPort h).2 := by
  cases hhost with
  | bare v hv => exact ⟨hv.1, redactHost_bare hv⟩
  | bracketed v port hv =>
      obtain ⟨hcolons, hopen, hclose⟩ := hv
      have hmem : ':' ∈ v := List.count_pos_iff.mp (by omega)
      have hcount : ∀ {c : Char}, c ≠ '[' → c ≠ ']' →
          ('[' :: v ++ [']']).count c = v.count c := by
        intro c hne hne'
        rw [List.cons_append, List.count_cons_of_ne hne.symm, List.count_append,
          List.count_singleton', if_neg hne'.symm, Nat.add_zero]
      constructor
      · have hprefix : ('[' :: v ++ [']']).count ':' ≤
            (withPort ('[' :: v ++ [']']) port).count ':' := by
          cases port with
          | none => exact Nat.le_refl _
          | some digits => exact (List.prefix_append _ _).sublist.count_le _
        rw [hcount (by decide) (by decide)] at hprefix
        exact hcolons.trans hprefix
      · unfold redactHost
        rw [if_neg (by decide), splitPort_bracketed hport hmem,
          count_withPort hport (by decide) (by decide), hcount (by decide) (by decide)]
        dsimp only
        rw [trimMatches_enclosed hopen hclose (by decide), redactAddr_ipv6 hmem]

/-! ## One pair of hosts -/

theorem withPort_inj {addr : Text} {port port' : Option Text} :
    withPort addr port = withPort addr port' ↔ port = port' := by
  constructor
  · intro heq
    cases port with
    | none =>
        cases port' with
        | none => rfl
        | some digits' =>
            have hlength := congrArg List.length heq
            simp [withPort] at hlength
    | some digits =>
        cases port' with
        | none =>
            have hlength := congrArg List.length heq
            simp [withPort] at hlength
        | some digits' =>
            have hdigits := List.append_cancel_left heq
            rw [(List.cons.inj hdigits).2]
  · rintro rfl
    rfl

theorem keptAddr_inj {dotted dotted' : Bool} {port port' : Option Text} :
    withPort (keptAddr dotted) port = withPort (keptAddr dotted') port' ↔
      (dotted, port) = (dotted', port') := by
  rw [Prod.mk.injEq]
  have hthird : ∀ (dotted : Bool) (port : Option Text),
      (withPort (keptAddr dotted) port)[3]? = some (if dotted then '.' else 'x') := by
    intro dotted port
    cases dotted <;> cases port <;> rfl
  constructor
  · intro heq
    have hsame : dotted = dotted' := by
      have hchar := congrArg (·[3]?) heq
      rw [hthird, hthird] at hchar
      cases dotted <;> cases dotted' <;> first | rfl | cases hchar
    rw [hsame] at heq
    exact ⟨hsame, withPort_inj.mp heq⟩
  · rintro ⟨rfl, rfl⟩
    rfl

theorem exposed_withPort {addr : Text} (hport : IsPort port) (haddr : ':' ∉ addr) :
    exposed (withPort addr port) = none := by
  refine if_neg ?_
  have hnone := List.count_eq_zero.mpr haddr
  cases port with
  | none =>
      change ¬2 ≤ addr.count ':'
      omega
  | some digits =>
      unfold withPort
      dsimp only
      rw [List.count_append, List.count_cons_self, hnone, count_port hport (by decide)]
      decide

theorem SameHost.redact_iff (hsame : SameHost h h') :
    redactHost h true = redactHost h' true ↔ exposed h = exposed h' := by
  cases hsame with
  | refl h => exact iff_of_true rfl rfl
  | ipv4 hport hhost hhost' =>
      refine iff_of_true ?_ ?_
      · rw [redactHost_ipv4 hport hhost, redactHost_ipv4 hport hhost']
      · obtain ⟨c, d, -, -, -, -⟩ := hhost
        obtain ⟨c', d', -, -, -, -⟩ := hhost'
        rw [exposed_withPort hport (not_mem_dottedQuad (by decide) (by decide)),
          exposed_withPort hport (not_mem_dottedQuad (by decide) (by decide))]
  | ipv6 hport hhost hhost' =>
      obtain ⟨hcolons, hredacted⟩ := redactHost_ipv6 hport hhost
      obtain ⟨hcolons', hredacted'⟩ := redactHost_ipv6 hport hhost'
      unfold exposed
      rw [hredacted, hredacted', if_pos hcolons, if_pos hcolons', Option.some.injEq]
      exact keptAddr_inj
  | hostname hport hname hname' =>
      refine iff_of_true ?_ ?_
      · rw [redactHost_hostname hport hname, redactHost_hostname hport hname']
      · rw [exposed_withPort hport hname.plain.1, exposed_withPort hport hname'.plain.1]

theorem redacted_hosts_iff {hosts hosts' : List Text} (hsame : List.Forall₂ SameHost hosts hosts') :
    hosts.map (redactHost · true) = hosts'.map (redactHost · true) ↔
      hosts.map exposed = hosts'.map exposed := by
  induction hsame with
  | nil => exact iff_of_true rfl rfl
  | cons hhost hrest ih =>
      simp only [List.map_cons, List.cons.injEq]
      exact and_congr hhost.redact_iff ih

/-! ## Reports -/

structure SameDevice (d d' : TrustedDevice) : Prop where
  deviceId : d.deviceId.toList.take 6 = d'.deviceId.toList.take 6
  deviceName : d.deviceName.toList.head? = d'.deviceName.toList.head?
  certificateFingerprint :
    d.certificateFingerprint.toList.take 8 = d'.certificateFingerprint.toList.take 8
  pairedAtMs : d.pairedAtMs = d'.pairedAtMs
  lastConnectedAtMs : d.lastConnectedAtMs = d'.lastConnectedAtMs

def sessionHosts (input : DiagnosticInput Preview) : List Text :=
  (input.session.map (·.hosts)).getD []

/-- The inputs are equal except for redacted content. -/
structure SameInput (x y : DiagnosticInput Preview) : Prop where
  platform : x.platform = y.platform
  appVersion : x.appVersion = y.appVersion
  buildNumber : x.buildNumber = y.buildNumber
  preview : x.preview = y.preview
  exportedAtMs : x.exportedAtMs = y.exportedAtMs
  redaction : x.redaction = y.redaction
  session : x.session.map (fun s => { s with hosts := [] }) =
    y.session.map fun s => { s with hosts := [] }
  sessionHosts : List.Forall₂ SameHost (Diagnostics.sessionHosts x) (Diagnostics.sessionHosts y)
  trustedDevices : List.Forall₂ SameDevice x.trustedDevices y.trustedDevices
  hosts : List.Forall₂ SameHost x.hosts y.hosts

theorem redactDeviceName_eq (name : Text) :
    redactDeviceName name = name.head?.toList ++ "***".toList := by
  cases name <;> rfl

theorem SameDevice.mapTrustedDevice_eq {d d' : TrustedDevice} (h : SameDevice d d') :
    mapTrustedDevice .default d = mapTrustedDevice .default d' := by
  have hid : redactDeviceId d.deviceId.toList = redactDeviceId d'.deviceId.toList := by
    unfold redactDeviceId
    rw [h.deviceId]
  have hname : redactDeviceName d.deviceName.toList = redactDeviceName d'.deviceName.toList := by
    rw [redactDeviceName_eq, redactDeviceName_eq, h.deviceName]
  have hfingerprint : redactFingerprint d.certificateFingerprint.toList =
      redactFingerprint d'.certificateFingerprint.toList := by
    unfold redactFingerprint
    rw [h.certificateFingerprint]
  change DiagnosticTrustedDevice.mk _ _ _ _ _ = DiagnosticTrustedDevice.mk _ _ _ _ _
  rw [DiagnosticTrustedDevice.mk.injEq]
  exact ⟨hid, hname, hfingerprint, h.pairedAtMs, h.lastConnectedAtMs⟩

theorem map_mapTrustedDevice_eq {devices devices' : List TrustedDevice}
    (h : List.Forall₂ SameDevice devices devices') :
    devices.map (mapTrustedDevice .default) = devices'.map (mapTrustedDevice .default) := by
  induction h with
  | nil => rfl
  | cons hdevice _ ih => rw [List.map_cons, List.map_cons, hdevice.mapTrustedDevice_eq, ih]

theorem exportedSession_iff (hsame : SameInput x y) (hpolicy : x.redaction = .default) :
    exportedSession x = exportedSession y ↔
      (sessionHosts x ++ x.hosts).map exposed = (sessionHosts y ++ y.hosts).map exposed := by
  have hall : List.Forall₂ SameHost (sessionHosts x ++ x.hosts) (sessionHosts y ++ y.hosts) :=
    List.rel_append hsame.sessionHosts hsame.hosts
  rw [← redacted_hosts_iff hall]
  have hsession := hsame.session
  have hpolicy' : y.redaction = .default := hsame.redaction.symm.trans hpolicy
  have hempty : x.hosts = [] ↔ y.hosts = [] := by
    rw [← List.length_eq_zero_iff, ← List.length_eq_zero_iff, hsame.hosts.length_eq]
  unfold exportedSession sessionHosts
  rw [hpolicy, hpolicy']
  cases hx : x.session with
  | none =>
      cases hy : y.session with
      | some s' =>
          rw [hx, hy] at hsession
          cases hsession
      | none =>
          dsimp only [Option.map_none, Option.getD_none, List.nil_append]
          by_cases hnone : x.hosts = []
          · rw [if_neg (not_not.mpr hnone), if_neg (not_not.mpr (hempty.mp hnone)), hnone,
              hempty.mp hnone]
            exact iff_of_true rfl rfl
          · rw [if_pos hnone, if_pos fun hnil => hnone (hempty.mpr hnil), Option.some.injEq]
            constructor
            · exact congrArg DiagnosticSessionSnapshot.hosts
            · exact congrArg unknownSession
  | some s =>
      cases hy : y.session with
      | none =>
          rw [hx, hy] at hsession
          cases hsession
      | some s' =>
          rw [hx, hy] at hsession
          replace hsession := Option.some.inj hsession
          dsimp only [Option.map_some, Option.getD_some]
          constructor
          · exact fun heq => congrArg DiagnosticSessionSnapshot.hosts (Option.some.inj heq)
          · intro heq
            have hkept := congrArg (fun kept : DiagnosticSessionSnapshot =>
              { kept with hosts := (s.hosts ++ x.hosts).map (redactHost · true) }) hsession
            have hhosts := congrArg (fun hosts => { s' with hosts := hosts }) heq
            exact congrArg some (hkept.trans hhosts)

/-- Two inputs that are equal except for redacted content give equal reports if and only if their
IPv6 hosts expose the same. -/
theorem non_interference_iff (hsame : SameInput x y) (hpolicy : x.redaction = .default) :
    buildReport x = buildReport y ↔
      (sessionHosts x ++ x.hosts).map exposed = (sessionHosts y ++ y.hosts).map exposed := by
  have hpolicy' : y.redaction = .default := hsame.redaction.symm.trans hpolicy
  have hdevices : x.trustedDevices.map (mapTrustedDevice x.redaction) =
      y.trustedDevices.map (mapTrustedDevice y.redaction) := by
    rw [hpolicy, hpolicy']
    exact map_mapTrustedDevice_eq hsame.trustedDevices
  rw [← exportedSession_iff hsame hpolicy]
  constructor
  · exact congrArg DiagnosticReport.session
  · intro hsession
    unfold buildReport
    rw [hsession, hdevices, hsame.platform, hsame.appVersion, hsame.buildNumber, hsame.preview,
      hsame.exportedAtMs, hsame.redaction]

def hostsInput (trustedDevices : List TrustedDevice) (hosts : List Text) : DiagnosticInput Unit where
  platform := "macos".toList
  appVersion := "1.0".toList
  buildNumber := none
  preview := none
  exportedAtMs := 1
  redaction := .default
  session := none
  trustedDevices := trustedDevices
  hosts := hosts

def studioPhone (deviceId deviceName certificateFingerprint : String) : TrustedDevice where
  deviceId := deviceId
  deviceName := deviceName
  publicKey := List.replicate 32 7
  certificateFingerprint := certificateFingerprint
  pairedAtMs := 1
  lastConnectedAtMs := none

theorem sameInput_hostsInput {devices devices' : List TrustedDevice} {hosts hosts' : List Text}
    (hdevices : List.Forall₂ SameDevice devices devices')
    (hhosts : List.Forall₂ SameHost hosts hosts') :
    SameInput (hostsInput devices hosts) (hostsInput devices' hosts') :=
  ⟨rfl, rfl, rfl, rfl, rfl, rfl, rfl, .nil, hdevices, hhosts⟩

theorem non_interference_iff_studio :
    buildReport (hostsInput [studioPhone "phone-1234" "Ada" "aabbccdd11"]
        ["192.168.1.5:4433".toList, "[fe80::1]:4433".toList]) =
      buildReport (hostsInput [studioPhone "phone-5678" "Alan" "aabbccdd22"]
        ["192.168.7.9:4433".toList, "[fe80::2]:4433".toList]) := by
  have hport : IsPort (some "4433".toList) := by
    intro digits hdigits
    cases Option.mem_some.mp hdigits
    exact ⟨by simp, by simp [Char.isDigit]⟩
  have hsame := sameInput_hostsInput
    (.cons (a := studioPhone "phone-1234" "Ada" "aabbccdd11")
      (b := studioPhone "phone-5678" "Alan" "aabbccdd22")
      ⟨by decide, by decide, by decide, rfl, rfl⟩ .nil)
    (.cons (.ipv4 hport (.mk (a := 192) (b := 168) 1 5 (by decide) (by decide) (by decide) (by decide))
        (.mk 7 9 (by decide) (by decide) (by decide) (by decide)))
      (.cons (.ipv6 hport (.bracketed "fe80::1".toList _ (by decide))
        (.bracketed "fe80::2".toList _ (by decide))) .nil))
  exact (non_interference_iff hsame rfl).mpr (by decide)

theorem non_interference_fails :
    ∃ x y : DiagnosticInput Unit, SameInput x y ∧ x.redaction = .default ∧
      buildReport x ≠ buildReport y := by
  refine ⟨hostsInput [] ["fe80::1".toList], hostsInput [] ["fe80::2".toList], ?_, rfl, by decide⟩
  have hport : IsPort none := fun digits hdigits => nomatch hdigits
  exact sameInput_hostsInput .nil (.cons (.ipv6 hport (.bare _ (by decide)) (.bare _ (by decide))) .nil)

end PicooCamera.Diagnostics
