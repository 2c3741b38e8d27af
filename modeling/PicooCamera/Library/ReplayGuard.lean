import Mathlib

/-!
# Replay guards

One channel is open at a time. A message carries a number, and it is taken only
where its number is greater than every number that was seen on the channel. All
messages of a channel carry one tag, which the channel is pinned to.

`Sound spent g` is what a guard keeps, as long as no channel is opened again:
`spent` are the channels that will not be.
-/

namespace PicooCamera.Library

/-- What was taken: the channel, the tag and the number of each message. -/
abbrev Taken (κ τ : Type) := List (κ × τ × Nat)

/-- The later message of a channel has the tag of the earlier one and a greater number. -/
def Follows {κ τ : Type} (earlier later : κ × τ × Nat) : Prop :=
  earlier.1 = later.1 → earlier.2.1 = later.2.1 ∧ earlier.2.2 < later.2.2

structure ReplayGuard (κ τ : Type) where
  channel : Option κ
  pin : Option τ
  last : Nat
  taken : Taken κ τ

namespace ReplayGuard

variable {κ τ : Type} {spent spent' : κ → Prop} {g : ReplayGuard κ τ}

structure Sound (spent : κ → Prop) (g : ReplayGuard κ τ) : Prop where
  current : ∀ channel ∈ g.channel, spent channel
  past : ∀ message ∈ g.taken, spent message.1
  bound : ∀ message ∈ g.taken, g.channel = some message.1 →
    g.pin = some message.2.1 ∧ message.2.2 ≤ g.last
  ordered : g.taken.Pairwise Follows

theorem sound_empty (spent : κ → Prop) (pin : Option τ) (last : Nat) :
    Sound spent ⟨none, pin, last, []⟩ where
  current _ hchannel := by cases hchannel
  past _ hmessage := by cases hmessage
  bound _ hmessage := by cases hmessage
  ordered := List.Pairwise.nil

theorem Sound.mono (h : Sound spent g) (hspent : ∀ channel, spent channel → spent' channel) :
    Sound spent' g where
  current channel hchannel := hspent channel (h.current channel hchannel)
  past message hmessage := hspent message.1 (h.past message hmessage)
  bound := h.bound
  ordered := h.ordered

theorem Sound.close (h : Sound spent g) (pin : Option τ) (last : Nat) :
    Sound spent { g with channel := none, pin := pin, last := last } where
  current _ hchannel := by cases hchannel
  past := h.past
  bound _ _ hchannel := by cases hchannel
  ordered := h.ordered

theorem Sound.opened (h : Sound spent g) {channel : κ} (hfresh : ¬spent channel)
    (hspent : spent' channel) (hmono : ∀ channel, spent channel → spent' channel)
    (pin : Option τ) (last : Nat) :
    Sound spent' { g with channel := some channel, pin := pin, last := last } where
  current other hother := by
    rw [← Option.some.inj hother]
    exact hspent
  past message hmessage := hmono message.1 (h.past message hmessage)
  bound message hmessage hchannel := by
    rw [Option.some.inj hchannel] at hfresh
    exact absurd (h.past message hmessage) hfresh
  ordered := h.ordered

theorem Sound.pinned (h : Sound spent g) (hfirst : g.pin = none) (pin : Option τ) :
    Sound spent { g with pin := pin } where
  current := h.current
  past := h.past
  bound message hmessage hchannel := by
    obtain ⟨hpin, -⟩ := h.bound message hmessage hchannel
    rw [hfirst] at hpin
    cases hpin
  ordered := h.ordered

theorem Sound.raise (h : Sound spent g) {last : Nat} (hle : g.last ≤ last) :
    Sound spent { g with last := last } where
  current := h.current
  past := h.past
  bound message hmessage hchannel :=
    ⟨(h.bound message hmessage hchannel).1, (h.bound message hmessage hchannel).2.trans hle⟩
  ordered := h.ordered

theorem Sound.take (h : Sound spent g) {channel : κ} {tag : τ} {number : Nat}
    (hopen : g.channel = some channel) (hpin : g.pin = some tag) (hnewer : g.last < number) :
    Sound spent { g with last := number, taken := g.taken ++ [(channel, tag, number)] } where
  current := h.current
  past message hmessage := by
    cases List.mem_append.mp hmessage with
    | inl hold => exact h.past message hold
    | inr hnew =>
        rw [List.mem_singleton.mp hnew]
        exact h.current channel hopen
  bound message hmessage hchannel := by
    cases List.mem_append.mp hmessage with
    | inl hold =>
        obtain ⟨hsame, hle⟩ := h.bound message hold hchannel
        exact ⟨hsame, hle.trans hnewer.le⟩
    | inr hnew =>
        rw [List.mem_singleton.mp hnew]
        exact ⟨hpin, Nat.le_refl number⟩
  ordered := by
    rw [List.pairwise_append]
    refine ⟨h.ordered, List.pairwise_singleton _ _, ?_⟩
    intro earlier hearlier later hlater hsame
    rw [List.mem_singleton.mp hlater] at hsame ⊢
    obtain ⟨hearlierPin, hle⟩ := h.bound earlier hearlier (hopen.trans (congrArg some hsame.symm))
    exact ⟨Option.some.inj (hearlierPin.symm.trans hpin), hle.trans_lt hnewer⟩

end ReplayGuard

end PicooCamera.Library
