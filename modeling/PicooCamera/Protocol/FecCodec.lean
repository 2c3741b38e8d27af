import PicooCamera.Protocol.VideoFec

/-!
# Protection and recovery of one FEC group

`Codecs.Lawful` is what the functions rely on of the third-party codec: a
systematic code that any `k` shards determine, whose single parity shard is
the first of two. Under it `reconstruct_fec_group` undoes
`encode_fec_parity`, padding and truncation of the last shard included.
-/

namespace PicooCamera.Protocol

open PicooCamera.Library

/-- Each shard is missing or the one of `full` at its place. -/
def Known (shards : List (Option Shard)) (full : List Shard) : Prop :=
  List.Forall₂ (fun known shard => known = none ∨ known = some shard) shards full

theorem known_mem {shards : List (Option Shard)} {full : List Shard}
    (h : Known shards full) {shard : Shard} (hmem : some shard ∈ shards) :
    shard ∈ full := by
  induction h with
  | nil => cases hmem
  | cons hhead _ ih =>
      rcases List.mem_cons.mp hmem with heq | htail
      · rcases hhead with hnone | hsome
        · rw [hnone] at heq
          cases heq
        · rw [hsome] at heq
          cases heq
          exact List.mem_cons_self
      · exact List.mem_cons_of_mem _ (ih htail)

/-- The documented behaviour of the codecs, on groups of the sizes in use. -/
structure Codecs.Lawful (codecs : Codecs) : Prop where
  encode : ∀ {dataShards parityShards len : Nat} {data : List Shard},
    2 ≤ dataShards → dataShards ≤ fecDataShards →
    1 ≤ parityShards → parityShards ≤ fecParityShards →
    data.length = dataShards → 0 < len → (∀ shard ∈ data, shard.length = len) →
    ∃ parity, (codecs dataShards parityShards).encodeSep data = some parity ∧
      parity.length = parityShards ∧ ∀ shard ∈ parity, shard.length = len
  firstRow : ∀ {dataShards len : Nat} {data one two : List Shard},
    2 ≤ dataShards → dataShards ≤ fecDataShards →
    data.length = dataShards → 0 < len → (∀ shard ∈ data, shard.length = len) →
    (codecs dataShards 1).encodeSep data = some one →
    (codecs dataShards fecParityShards).encodeSep data = some two → one = two.take 1
  reconstruct : ∀ {dataShards len : Nat} {data parity : List Shard}
    {shards : List (Option Shard)},
    2 ≤ dataShards → dataShards ≤ fecDataShards →
    data.length = dataShards → 0 < len → (∀ shard ∈ data, shard.length = len) →
    (codecs dataShards fecParityShards).encodeSep data = some parity →
    Known shards (data ++ parity) → dataShards ≤ shards.countP Option.isSome →
    ∃ rebuilt, (codecs dataShards fecParityShards).reconstructData shards = some rebuilt ∧
      rebuilt.take dataShards = data.map some

/-! ## Padding -/

theorem length_padTo {len : Nat} {bytes : Shard} (h : bytes.length ≤ len) :
    (padTo len bytes).length = len := by
  rw [padTo, List.length_append, List.length_replicate]
  omega

theorem padTo_self {len : Nat} {bytes : Shard} (h : bytes.length = len) :
    padTo len bytes = bytes := by
  rw [padTo, h, Nat.sub_self, List.replicate_zero, List.append_nil]

theorem take_padTo (len : Nat) (bytes : Shard) :
    (padTo len bytes).take bytes.length = bytes := by
  rw [padTo, List.take_left]

private theorem foldl_max_le {lengths : List Nat} {acc bound : Nat} :
    lengths.foldl max acc ≤ bound ↔ acc ≤ bound ∧ ∀ n ∈ lengths, n ≤ bound := by
  induction lengths generalizing acc with
  | nil => simp
  | cons n lengths ih =>
      rw [List.foldl_cons, ih, Nat.max_le, List.forall_mem_cons, and_assoc]

theorem maxLength_le {shards : List Shard} {bound : Nat} :
    maxLength shards ≤ bound ↔ ∀ shard ∈ shards, shard.length ≤ bound := by
  rw [maxLength, foldl_max_le]
  simp

theorem maxLength_eq {shards : List Shard} {len : Nat} {shard : Shard}
    (hmem : shard ∈ shards) (hlen : shard.length = len)
    (hle : ∀ other ∈ shards, other.length ≤ len) : maxLength shards = len := by
  have hge : shard.length ≤ maxLength shards := maxLength_le.mp (Nat.le_refl _) shard hmem
  have hbound := maxLength_le.mpr hle
  omega

/-! ## The data of one group -/

/-- The fragments of one group: `len` bytes each, but for a last one that may be shorter. -/
structure GroupData (len : Nat) (data : List Shard) : Prop where
  two_le : 2 ≤ data.length
  le_fecDataShards : data.length ≤ fecDataShards
  len_lt : len < 256 ^ 2
  nonempty : ∀ shard ∈ data, 0 < shard.length
  le_len : ∀ shard ∈ data, shard.length ≤ len
  full : ∀ index shard, data[index]? = some shard → index + 1 < data.length →
    shard.length = len

/-- The length that `encode_fec_parity` returns: that of the last fragment. -/
def lastLength (data : List Shard) : Nat := (data.getLast?.map List.length).getD 0

/-- The two parity shards that protect the group. -/
def parityRows (codecs : Codecs) (len : Nat) (data : List Shard) : List Shard :=
  ((codecs data.length fecParityShards).encodeSep (data.map (padTo len))).getD []

namespace GroupData

variable {len : Nat} {data : List Shard}

theorem first_full (h : GroupData len data) :
    ∃ shard ∈ data, shard.length = len := by
  have hpos : 0 < data.length := Nat.lt_of_lt_of_le Nat.two_pos h.two_le
  have hget : data[0]? = some data[0] := List.getElem?_eq_getElem hpos
  exact ⟨data[0], List.getElem_mem hpos, h.full 0 data[0] hget h.two_le⟩

theorem len_pos (h : GroupData len data) : 0 < len := by
  obtain ⟨shard, hmem, hlen⟩ := h.first_full
  rw [← hlen]
  exact h.nonempty shard hmem

theorem maxLength_data (h : GroupData len data) : maxLength data = len := by
  obtain ⟨shard, hmem, hlen⟩ := h.first_full
  exact maxLength_eq hmem hlen h.le_len

theorem padded (h : GroupData len data) :
    ∀ shard ∈ data.map (padTo len), shard.length = len := by
  intro shard hshard
  obtain ⟨bytes, hbytes, rfl⟩ := List.mem_map.mp hshard
  exact length_padTo (h.le_len bytes hbytes)

theorem getLast? (h : GroupData len data) :
    ∃ last, data.getLast? = some last ∧ data[data.length - 1]? = some last ∧
      0 < last.length ∧ last.length ≤ len := by
  have hpos : data.length - 1 < data.length := by have := h.two_le; omega
  refine ⟨data[data.length - 1], ?_, List.getElem?_eq_getElem hpos,
    h.nonempty _ (List.getElem_mem hpos), h.le_len _ (List.getElem_mem hpos)⟩
  rw [List.getLast?_eq_getElem?, List.getElem?_eq_getElem hpos]

theorem lastLength_pos (h : GroupData len data) : 0 < lastLength data := by
  obtain ⟨last, hlast, _, hpos, _⟩ := h.getLast?
  rw [lastLength, hlast]
  exact hpos

theorem lastLength_le (h : GroupData len data) : lastLength data ≤ len := by
  obtain ⟨last, hlast, _, _, hle⟩ := h.getLast?
  rw [lastLength, hlast]
  exact hle

theorem parityRows_spec {codecs : Codecs} (hlawful : codecs.Lawful)
    (h : GroupData len data) :
    (codecs data.length fecParityShards).encodeSep (data.map (padTo len)) =
        some (parityRows codecs len data) ∧
      (parityRows codecs len data).length = fecParityShards ∧
      ∀ shard ∈ parityRows codecs len data, shard.length = len := by
  have hmap : (data.map (padTo len)).length = data.length := List.length_map _
  obtain ⟨parity, hencode, hcount, hlen⟩ :=
    hlawful.encode h.two_le h.le_fecDataShards (by decide) (Nat.le_refl _) hmap h.len_pos
      h.padded
  have hrows : parityRows codecs len data = parity := by
    rw [parityRows, hencode, Option.getD_some]
  rw [hrows]
  exact ⟨hencode, hcount, hlen⟩

theorem encodeFecParity_eq {codecs : Codecs} (hlawful : codecs.Lawful)
    (h : GroupData len data) {parityCount : Nat} (hpos : 1 ≤ parityCount)
    (hle : parityCount ≤ fecParityShards) :
    encodeFecParity codecs data parityCount =
      some (lastLength data, (parityRows codecs len data).take parityCount) := by
  obtain ⟨hrows, hcount, _⟩ := h.parityRows_spec hlawful
  obtain ⟨last, hlast, _, _, hlastLen⟩ := h.getLast?
  have hmap : (data.map (padTo len)).length = data.length := List.length_map _
  have hparity : (codecs data.length parityCount).encodeSep (data.map (padTo len)) =
      some ((parityRows codecs len data).take parityCount) := by
    by_cases hone : parityCount = 1
    · obtain ⟨parity, hencode, _⟩ :=
        hlawful.encode h.two_le h.le_fecDataShards hpos hle hmap h.len_pos h.padded
      rw [hone] at hencode ⊢
      rw [hencode, hlawful.firstRow h.two_le h.le_fecDataShards hmap h.len_pos h.padded
        hencode hrows]
    · have htwo : parityCount = fecParityShards := by
        unfold fecParityShards at hle ⊢
        omega
      rw [htwo, hrows, ← hcount, List.take_length]
  have hwire : ¬ 256 ^ 2 ≤ last.length := by have := h.len_lt; omega
  have hcodec : fecCodec codecs data.length parityCount =
      some (codecs data.length parityCount) := by
    unfold fecCodec
    rw [if_pos ⟨h.two_le, h.le_fecDataShards, hpos, hle⟩]
  unfold encodeFecParity
  rw [if_neg (not_not.mpr ⟨h.two_le, h.le_fecDataShards⟩), if_neg (not_not.mpr ⟨hpos, hle⟩),
    h.maxLength_data, hlast]
  simp only [Option.bind_eq_bind, Option.bind_some, if_neg hwire, hcodec, hparity]
  rw [lastLength, hlast]
  rfl

/-! ## Recovery -/

private theorem known_countP {shards : List (Option Shard)} {full : List Shard}
    (h : Known shards full) :
    shards.countP Option.isSome + shards.countP Option.isNone = full.length := by
  induction h with
  | nil => rfl
  | cons _ _ ih =>
      rename_i known _ _ _ _ _
      rw [List.countP_cons, List.countP_cons, List.length_cons]
      cases known <;> simp <;> omega

private theorem known_append {data parity : List (Option Shard)} {full rows : List Shard}
    (hdata : Known data full) (hparity : Known parity rows) :
    Known (data ++ parity) (full ++ rows) := by
  induction hdata with
  | nil => exact hparity
  | cons hhead _ ih => exact List.Forall₂.cons hhead ih

private theorem known_map_padTo {shards : List (Option Shard)} {full : List Shard}
    (len : Nat) (h : Known shards full) :
    Known (shards.map (Option.map (padTo len))) (full.map (padTo len)) := by
  induction h with
  | nil => exact List.Forall₂.nil
  | cons hhead _ ih =>
      refine List.Forall₂.cons ?_ ih
      rcases hhead with rfl | rfl
      · exact Or.inl rfl
      · exact Or.inr rfl

theorem truncate_padded (h : GroupData len data) :
    ((data.map (padTo len)).map some).mapIdx (fun index shard =>
      if index + 1 = data.length then shard.map (List.take (lastLength data)) else shard) =
      data.map some := by
  obtain ⟨last, hlast, hget, _, _⟩ := h.getLast?
  have hlen : lastLength data = last.length := by
    rw [lastLength, hlast]
    rfl
  apply List.ext_getElem?
  intro index
  rw [List.getElem?_mapIdx, List.getElem?_map, List.getElem?_map, List.getElem?_map]
  cases hshard : data[index]? with
  | none => rfl
  | some shard =>
      obtain ⟨hindex, _⟩ := List.getElem?_eq_some_iff.mp hshard
      simp only [Option.map_some]
      by_cases hend : index + 1 = data.length
      · have hix : data.length - 1 = index := by omega
        rw [hix, hshard] at hget
        cases hget
        rw [if_pos hend, hlen, take_padTo]
      · rw [if_neg hend, padTo_self (h.full index shard hshard (by omega))]

theorem reconstructFecGroup_eq {codecs : Codecs} (hlawful : codecs.Lawful)
    (h : GroupData len data) {received parity : List (Option Shard)}
    (hreceived : Known received data) (hparity : Known parity (parityRows codecs len data))
    (hmissing : 0 < received.countP Option.isNone)
    (henough : received.countP Option.isNone ≤ parity.countP Option.isSome) :
    reconstructFecGroup codecs received parity (lastLength data) = some (data.map some) := by
  obtain ⟨hrows, hcount, hrowLen⟩ := h.parityRows_spec hlawful
  have hmap : (data.map (padTo len)).length = data.length := List.length_map _
  have hlength : received.length = data.length := hreceived.length_eq
  have hparityLength : parity.length = fecParityShards := by
    rw [hparity.length_eq, hcount]
  have hknown := known_append hreceived hparity
  -- A parity shard is present, and it has the full length.
  obtain ⟨row, hrow⟩ : ∃ row, some row ∈ parity := by
    have hpos : 0 < parity.countP Option.isSome := Nat.lt_of_lt_of_le hmissing henough
    obtain ⟨shard, hmem, hsome⟩ := List.countP_pos_iff.mp hpos
    obtain ⟨row, rfl⟩ := Option.isSome_iff_exists.mp hsome
    exact ⟨row, hmem⟩
  have hmax : maxLength ((received ++ parity).filterMap id) = len := by
    refine @maxLength_eq _ len row ?_ (hrowLen row (known_mem hparity hrow)) ?_
    · rw [List.mem_filterMap]
      exact ⟨some row, List.mem_append_right _ hrow, rfl⟩
    · intro other hother
      obtain ⟨shard, hmem, hshard⟩ := List.mem_filterMap.mp hother
      rw [id_eq] at hshard
      rw [hshard] at hmem
      rcases List.mem_append.mp (known_mem hknown hmem) with hdata | hpar
      · exact h.le_len other hdata
      · exact Nat.le_of_eq (hrowLen other hpar)
  have hpadded : Known ((received ++ parity).map (Option.map (padTo len)))
      (data.map (padTo len) ++ parityRows codecs len data) := by
    have hself : (parityRows codecs len data).map (padTo len) = parityRows codecs len data := by
      rw [List.map_congr_left (fun shard hshard => padTo_self (hrowLen shard hshard)),
        List.map_id']
    have hpad := known_map_padTo len hknown
    rwa [@List.map_append _ _ (padTo len), hself] at hpad
  have hpresent : data.length ≤
      ((received ++ parity).map (Option.map (padTo len))).countP Option.isSome := by
    have hsplit := known_countP hreceived
    rw [List.countP_map, show Option.isSome ∘ Option.map (padTo len) = Option.isSome by
      funext shard; cases shard <;> rfl, List.countP_append]
    omega
  obtain ⟨rebuilt, hrebuilt, htake⟩ := hlawful.reconstruct h.two_le h.le_fecDataShards hmap
    h.len_pos h.padded hrows hpadded hpresent
  have hcodec : fecCodec codecs data.length fecParityShards =
      some (codecs data.length fecParityShards) := by
    unfold fecCodec
    rw [if_pos ⟨h.two_le, h.le_fecDataShards, by decide, Nat.le_refl _⟩]
  have hsizes : ¬ (¬ (2 ≤ received.length ∧ received.length ≤ fecDataShards) ∨
      parity.length ≠ fecParityShards) := by
    rw [hlength, hparityLength]
    exact fun hbad => hbad.elim (fun hnot => hnot ⟨h.two_le, h.le_fecDataShards⟩)
      (fun hne => hne rfl)
  have hrecoverable : ¬ (received.countP Option.isNone = 0 ∨
      parity.countP Option.isSome < received.countP Option.isNone) := by omega
  unfold reconstructFecGroup
  rw [if_neg hsizes]
  simp only [if_neg hrecoverable, hmax, if_neg (Nat.not_lt.mpr h.lastLength_le), hlength,
    hcodec, hrebuilt, htake, Option.bind_eq_bind, Option.bind_some]
  rw [h.truncate_padded]

end GroupData

end PicooCamera.Protocol
