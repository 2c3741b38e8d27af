import PicooCamera.Discovery.Advertisement
import PicooCamera.Library.History
import PicooCamera.Library.OrderedMap

/-!
# The browser of a Sender

The rows of the browser are the announcements that still stand: neither withdrawn
nor followed by another one of the same service instance or the same Receiver.
-/

namespace PicooCamera.Discovery

open PicooCamera.Library

structure DiscoveredReceiver where
  fullname : String
  advertisement : ReceiverAdvertisement
  host : String
  deriving DecidableEq, Repr

inductive BrowseError where
  | mdns (message : String)
  | invalidAd (message : String)
  deriving DecidableEq, Repr

namespace AdvertisementError

def toString : AdvertisementError → String
  | duplicateField field => "duplicate field: " ++ field
  | missingField field => "missing field: " ++ field
  | unknownField field => "unknown field: " ++ field
  | invalidPort => "invalid quic_port"
  | invalidPlatform => "invalid platform"
  | invalidPairingState => "invalid pairing_state"

end AdvertisementError

/-- A resolved service, with its first address where it has one. -/
structure ServiceInfo where
  fullname : String
  hostname : String
  address : Option String
  properties : TxtProperties
  deriving DecidableEq, Repr

inductive ServiceEvent where
  | serviceResolved (info : ServiceInfo)
  | serviceRemoved (serviceType fullname : String)
  /-- The progress of the search. -/
  | other
  deriving DecidableEq, Repr

def ServiceInfo.host (info : ServiceInfo) : String :=
  info.address.getD (String.ofList (info.hostname.toList.rdropWhile fun c => c = '.'))

structure MdnsBrowser where
  receivers : Std.ExtTreeMap String DiscoveredReceiver

namespace MdnsBrowser

open ReceiverAdvertisement

def new : MdnsBrowser := ⟨∅⟩

/-- Another instance of the same Receiver gives way to the new one. -/
def insert (b : MdnsBrowser) (entry : DiscoveredReceiver) : MdnsBrowser where
  receivers :=
    (b.receivers.filter fun key other => key = entry.fullname ∨
      other.advertisement.receiverId ≠ entry.advertisement.receiverId).insert entry.fullname entry

def applyResolvedTxt (b : MdnsBrowser) (fullname host : String) (properties : TxtProperties) :
    Except BrowseError Unit × MdnsBrowser :=
  match fromTxtProperties properties with
  | .error error => (.error (.invalidAd error.toString), b)
  | .ok advertisement => (.ok (), b.insert ⟨fullname, advertisement, host⟩)

def handleEvent (b : MdnsBrowser) : ServiceEvent → Except BrowseError Unit × MdnsBrowser
  | .serviceResolved info => b.applyResolvedTxt info.fullname info.host info.properties
  | .serviceRemoved _ fullname => (.ok (), ⟨b.receivers.erase fullname⟩)
  | .other => (.ok (), b)

/-- `poll` with what the daemon answers in time. -/
def poll (b : MdnsBrowser) : Option ServiceEvent → Except BrowseError Unit × MdnsBrowser
  | none => (.ok (), b)
  | some event => b.handleEvent event

def list (b : MdnsBrowser) : List DiscoveredReceiver := b.receivers.values

def find (b : MdnsBrowser) (receiverId : String) : Option DiscoveredReceiver :=
  b.list.find? fun entry => entry.advertisement.receiverId = receiverId

end MdnsBrowser

/-! ## What a run announces -/

/-- The row that an answered poll announces. -/
def announced : Option ServiceEvent → Option DiscoveredReceiver
  | some (.serviceResolved info) =>
      (ReceiverAdvertisement.fromTxtProperties info.properties).toOption.map fun advertisement =>
        ⟨info.fullname, advertisement, info.host⟩
  | _ => none

/-- Another row takes the place of `entry`, or its instance is withdrawn. -/
def Supersedes (event : Option ServiceEvent) (entry : DiscoveredReceiver) : Prop :=
  (∃ serviceType, event = some (.serviceRemoved serviceType entry.fullname)) ∨
    ∃ other, announced event = some other ∧ (other.fullname = entry.fullname ∨
      other.advertisement.receiverId = entry.advertisement.receiverId)

/-- The announcement of `entry` still stands. -/
abbrev Standing (events : List (Option ServiceEvent)) (entry : DiscoveredReceiver) : Prop :=
  Stands announced Supersedes events entry

namespace MdnsBrowser

variable {b : MdnsBrowser} {events : List (Option ServiceEvent)} {event : Option ServiceEvent}
  {entry other : DiscoveredReceiver} {fullname : String}

def run (events : List (Option ServiceEvent)) : MdnsBrowser :=
  events.foldl (fun b event => (b.poll event).2) new

theorem run_snoc (events : List (Option ServiceEvent)) (event : Option ServiceEvent) :
    run (events ++ [event]) = ((run events).poll event).2 := by
  unfold run
  rw [List.foldl_append]
  rfl

theorem poll_announced (h : announced event = some entry) : (b.poll event).2 = b.insert entry := by
  cases event with
  | none => cases h
  | some event =>
      cases event with
      | serviceResolved info =>
          unfold poll handleEvent applyResolvedTxt
          unfold announced at h
          dsimp only at h ⊢
          cases hread : ReceiverAdvertisement.fromTxtProperties info.properties with
          | error error =>
              rw [hread] at h
              cases h
          | ok advertisement =>
              rw [hread] at h
              cases h
              rfl
      | serviceRemoved serviceType fullname => cases h
      | other => cases h

theorem poll_silent (h : announced event = none) :
    (∃ serviceType fullname, event = some (.serviceRemoved serviceType fullname)) ∨
      ((∀ serviceType fullname, event ≠ some (.serviceRemoved serviceType fullname)) ∧
        (b.poll event).2 = b) := by
  cases event with
  | none => exact Or.inr ⟨nofun, rfl⟩
  | some event =>
      cases event with
      | serviceResolved info =>
          right
          refine ⟨nofun, ?_⟩
          unfold poll handleEvent applyResolvedTxt
          unfold announced at h
          dsimp only at h ⊢
          cases hread : ReceiverAdvertisement.fromTxtProperties info.properties with
          | error error => rfl
          | ok advertisement =>
              rw [hread] at h
              cases h
      | serviceRemoved serviceType fullname => exact Or.inl ⟨serviceType, fullname, rfl⟩
      | other => exact Or.inr ⟨nofun, rfl⟩

theorem getElem?_insert : (b.insert entry).receivers[fullname]? =
    if entry.fullname = fullname then some entry
    else b.receivers[fullname]?.filter fun other =>
      other.advertisement.receiverId ≠ entry.advertisement.receiverId := by
  unfold insert
  rw [Std.ExtTreeMap.getElem?_insert]
  by_cases hsame : entry.fullname = fullname
  · rw [if_pos hsame, if_pos (Std.LawfulEqCmp.compare_eq_iff_eq.mpr hsame)]
  · rw [if_neg hsame, if_neg fun h => hsame (Std.LawfulEqCmp.compare_eq_iff_eq.mp h),
      Std.ExtTreeMap.getElem?_filter']
    congr 1
    funext other
    simp [Ne.symm hsame]

theorem getElem?_erase {withdrawn : String} : (b.receivers.erase withdrawn)[fullname]? =
    if withdrawn = fullname then none else b.receivers[fullname]? := by
  rw [Std.ExtTreeMap.getElem?_erase]
  by_cases hsame : withdrawn = fullname
  · rw [if_pos hsame, if_pos (Std.LawfulEqCmp.compare_eq_iff_eq.mpr hsame)]
  · rw [if_neg hsame, if_neg fun h => hsame (Std.LawfulEqCmp.compare_eq_iff_eq.mp h)]

theorem standing_snoc : Standing (events ++ [event]) entry ↔
    announced event = some entry ∨ Standing events entry ∧ ¬Supersedes event entry :=
  stands_snoc

/-- Run lemma: the row of an instance is its announcement that stands. -/
theorem getElem?_run : (run events).receivers[fullname]? = some entry ↔
    entry.fullname = fullname ∧ Standing events entry := by
  induction events using List.reverseRecOn generalizing fullname entry with
  | nil =>
      refine iff_of_false ?_ fun h => stands_nil h.2
      rw [show (run []).receivers[fullname]? = none from Std.ExtTreeMap.getElem?_empty]
      nofun
  | append_singleton events event ih =>
      rw [run_snoc, standing_snoc]
      cases hannounced : announced event with
      | some new =>
          have hsupersedes : Supersedes event entry ↔ new.fullname = entry.fullname ∨
              new.advertisement.receiverId = entry.advertisement.receiverId := by
            unfold Supersedes
            rw [hannounced]
            constructor
            · rintro (⟨serviceType, rfl⟩ | ⟨own, hown, hsame⟩)
              · cases hannounced
              · rwa [Option.some.inj hown]
            · exact fun hsame => Or.inr ⟨new, rfl, hsame⟩
          rw [poll_announced hannounced, getElem?_insert, hsupersedes, Option.some_inj]
          by_cases hsame : new.fullname = fullname
          · rw [if_pos hsame, Option.some_inj]
            constructor
            · rintro rfl
              exact ⟨hsame, Or.inl rfl⟩
            · rintro ⟨hname, rfl | ⟨_, hstill⟩⟩
              · rfl
              · exact absurd (Or.inl (hsame.trans hname.symm)) hstill
          · rw [if_neg hsame, Option.filter_eq_some_iff, ih, decide_eq_true_eq]
            constructor
            · rintro ⟨⟨rfl, hstands⟩, hother⟩
              exact ⟨rfl, Or.inr ⟨hstands, not_or.mpr ⟨hsame, Ne.symm hother⟩⟩⟩
            · rintro ⟨rfl, rfl | ⟨hstands, hstill⟩⟩
              · exact absurd rfl hsame
              · exact ⟨⟨rfl, hstands⟩, Ne.symm (not_or.mp hstill).2⟩
      | none =>
          rcases @poll_silent (run events) event hannounced with
            ⟨serviceType, withdrawn, rfl⟩ | ⟨hother, hsame⟩
          · have hsupersedes : Supersedes (some (.serviceRemoved serviceType withdrawn)) entry ↔
                withdrawn = entry.fullname := by
              constructor
              · rintro (⟨_, heq⟩ | ⟨_, hnew, _⟩)
                · cases heq
                  rfl
                · cases hnew
              · rintro rfl
                exact Or.inl ⟨serviceType, rfl⟩
            rw [hsupersedes]
            change ((run events).receivers.erase withdrawn)[fullname]? = some entry ↔ _
            rw [getElem?_erase]
            by_cases hname : withdrawn = fullname
            · rw [if_pos hname]
              refine iff_of_false nofun ?_
              rintro ⟨hown, hnone | ⟨_, hstill⟩⟩
              · cases hnone
              · exact hstill (hname.trans hown.symm)
            · rw [if_neg hname, ih]
              constructor
              · rintro ⟨rfl, hstands⟩
                exact ⟨rfl, Or.inr ⟨hstands, hname⟩⟩
              · rintro ⟨rfl, hnone | ⟨hstands, _⟩⟩
                · cases hnone
                · exact ⟨rfl, hstands⟩
          · have hstill : ¬Supersedes event entry := by
              rintro (⟨serviceType, heq⟩ | ⟨new, hnew, _⟩)
              · exact hother serviceType entry.fullname heq
              · rw [hannounced] at hnew
                cases hnew
            rw [hsame, ih]
            constructor
            · exact fun h => ⟨h.1, Or.inr ⟨h.2, hstill⟩⟩
            · rintro ⟨hname, hnone | ⟨hstands, _⟩⟩
              · cases hnone
              · exact ⟨hname, hstands⟩

theorem standing_unique (h : Standing events entry) (hother : Standing events other)
    (hsame : entry.advertisement.receiverId = other.advertisement.receiverId) : entry = other := by
  induction events using List.reverseRecOn with
  | nil => exact absurd h stands_nil
  | append_singleton events event ih =>
      rcases standing_snoc.mp h with hnew | ⟨hstands, hstill⟩ <;>
      rcases standing_snoc.mp hother with hnew' | ⟨hstands', hstill'⟩
      · exact Option.some.inj (hnew.symm.trans hnew')
      · exact absurd (Or.inr ⟨entry, hnew, Or.inr hsame⟩) hstill'
      · exact absurd (Or.inr ⟨other, hnew', Or.inr hsame.symm⟩) hstill
      · exact ih hstands hstands'

theorem mem_list_run : entry ∈ (run events).list ↔ Standing events entry := by
  unfold list
  rw [mem_values_iff]
  constructor
  · rintro ⟨fullname, hrow⟩
    exact (getElem?_run.mp hrow).2
  · exact fun h => ⟨entry.fullname, getElem?_run.mpr ⟨rfl, h⟩⟩

/-- After every run the rows are the announcements that stand, no two of one Receiver, and a
Receiver is found exactly where one of its announcements stands. -/
theorem browser_lists_standing (events : List (Option ServiceEvent)) :
    (∀ entry, entry ∈ (run events).list ↔ Standing events entry) ∧
      (∀ entry ∈ (run events).list, ∀ other ∈ (run events).list,
        entry.advertisement.receiverId = other.advertisement.receiverId → entry = other) ∧
      ∀ receiverId entry, (run events).find receiverId = some entry ↔
        entry.advertisement.receiverId = receiverId ∧ Standing events entry := by
  have hunique : ∀ entry ∈ (run events).list, ∀ other ∈ (run events).list,
      entry.advertisement.receiverId = other.advertisement.receiverId → entry = other :=
    fun entry hentry other hother =>
      standing_unique (mem_list_run.mp hentry) (mem_list_run.mp hother)
  refine ⟨fun entry => mem_list_run, hunique, fun receiverId entry => ?_⟩
  constructor
  · intro hfound
    have hid := List.find?_some hfound
    exact ⟨of_decide_eq_true hid, mem_list_run.mp (List.mem_of_find?_eq_some hfound)⟩
  · rintro ⟨rfl, hstands⟩
    have hmem := mem_list_run.mpr hstands
    cases hfound : (run events).find entry.advertisement.receiverId with
    | none =>
        have hother := List.find?_eq_none.mp hfound entry hmem
        exact absurd (decide_eq_true rfl) hother
    | some found =>
        have hid := List.find?_some hfound
        rw [decide_eq_true_eq] at hid
        rw [hunique found (List.mem_of_find?_eq_some hfound) entry hmem hid]

end MdnsBrowser

end PicooCamera.Discovery
