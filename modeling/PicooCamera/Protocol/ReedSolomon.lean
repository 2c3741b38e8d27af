import PicooCamera.Library.ByteField
import PicooCamera.Library.Interpolation
import PicooCamera.Protocol.FecCodec

/-!
# Reed-Solomon codecs on bytes

The systematic code that takes the data shards as values of a polynomial at
the first nodes and continues it to the parity nodes, byte column by byte
column. It meets the conditions that the FEC functions put on a codec.
-/

namespace PicooCamera.Protocol

open PicooCamera.Library

namespace ReedSolomon

def symbol (byte : UInt8) : ByteField := ⟨byte.toBitVec⟩

def byteOf (symbol : ByteField) : UInt8 := ⟨symbol.bits⟩

@[simp] theorem byteOf_symbol (byte : UInt8) : byteOf (symbol byte) = byte := rfl

@[simp] theorem symbol_byteOf (s : ByteField) : symbol (byteOf s) = s := rfl

def node (index : Nat) : ByteField := ⟨BitVec.ofNat 8 index⟩

theorem node_injOn {s : Finset Nat} (h : ∀ i ∈ s, i < 256) : Set.InjOn node s := by
  intro i hi j hj heq
  have hbits := congrArg (fun s => s.bits.toNat) heq
  simp only [node, BitVec.toNat_ofNat] at hbits
  have hi' := h i hi
  have hj' := h j hj
  omega

/-- The symbols at one byte position of a list of shards. -/
def column (shards : List Shard) (position index : Nat) : ByteField :=
  symbol (((shards[index]?).getD [])[position]?.getD 0)

/-- The shard at `index` of the code whose shards `known` are given. -/
def evaluate (known : Finset Nat) (shards : List Shard) (len index : Nat) : Shard :=
  (List.range len).map fun position =>
    byteOf (interpolateAt known node (column shards position) (node index))

def shardLength (shards : List Shard) : Nat := (shards.head?.map List.length).getD 0

/-- The parity shards continue the polynomial of the data shards. -/
def encodeShards (dataShards parityShards : Nat) (data : List Shard) : Option (List Shard) :=
  if data.length ≠ dataShards ∨ shardLength data = 0 ∨
      data.any (fun shard => shard.length ≠ shardLength data) then none
  else some ((List.range parityShards).map fun parity =>
    evaluate (Finset.range dataShards) data (shardLength data) (dataShards + parity))

/-- The indices of the shards that are there. -/
def knownIndices (shards : List (Option Shard)) : Finset Nat :=
  (Finset.range shards.length).filter fun index => ((shards[index]?).getD none).isSome

/-- Missing data shards are evaluated from those that are there, if enough are. -/
def reconstructShards (dataShards : Nat) (shards : List (Option Shard)) :
    Option (List (Option Shard)) :=
  if (knownIndices shards).card < dataShards then none
  else some (shards.mapIdx fun index shard =>
    match shard with
    | some bytes => some bytes
    | none =>
        if index < dataShards then
          some (evaluate (knownIndices shards) (shards.map (·.getD []))
            (shardLength (shards.filterMap id)) index)
        else none)

def codec (dataShards parityShards : Nat) : ReedSolomon where
  encodeSep := encodeShards dataShards parityShards
  reconstructData := reconstructShards dataShards

end ReedSolomon

/-- The codecs by number of shards. -/
def reedSolomon : Codecs := ReedSolomon.codec

namespace ReedSolomon

theorem length_evaluate (known : Finset Nat) (shards : List Shard) (len index : Nat) :
    (evaluate known shards len index).length = len := by
  rw [evaluate, List.length_map, List.length_range]

theorem shardLength_eq {shards : List Shard} {len : Nat} (hne : shards ≠ [])
    (h : ∀ shard ∈ shards, shard.length = len) : shardLength shards = len := by
  cases shards with
  | nil => exact absurd rfl hne
  | cons shard shards => exact h shard List.mem_cons_self

theorem encodeShards_eq {dataShards parityShards len : Nat} {data : List Shard}
    (hcount : data.length = dataShards) (hpos : 0 < dataShards) (hlen : 0 < len)
    (hdata : ∀ shard ∈ data, shard.length = len) :
    encodeShards dataShards parityShards data =
      some ((List.range parityShards).map fun parity =>
        evaluate (Finset.range dataShards) data len (dataShards + parity)) := by
  have hne : data ≠ [] := by
    rintro rfl
    rw [List.length_nil] at hcount
    omega
  have hshard := shardLength_eq hne hdata
  unfold encodeShards
  rw [hshard, if_neg]
  rintro (hbad | hbad | hbad)
  · exact hbad hcount
  · omega
  · obtain ⟨shard, hmem, hother⟩ := List.any_eq_true.mp hbad
    rw [decide_eq_true_iff] at hother
    exact hother (hdata shard hmem)

theorem column_code {dataShards parityShards len position : Nat} {data : List Shard}
    (hcount : data.length = dataShards) (hsmall : dataShards + parityShards ≤ 256)
    (hposition : position < len) {index : Nat} (hindex : index < dataShards + parityShards) :
    column (data ++ (List.range parityShards).map fun parity =>
        evaluate (Finset.range dataShards) data len (dataShards + parity)) position index =
      interpolateAt (Finset.range dataShards) node (column data position) (node index) := by
  have hinj : Set.InjOn node (Finset.range dataShards) :=
    node_injOn fun i hi => by rw [Finset.mem_range] at hi; omega
  by_cases hdata : index < dataShards
  · rw [interpolateAt_node hinj _ (Finset.mem_range.mpr hdata)]
    unfold column
    rw [List.getElem?_append_left (by rw [hcount]; exact hdata)]
  · have hparity : index - dataShards < parityShards := by omega
    have hsum : dataShards + (index - dataShards) = index := by omega
    unfold column
    rw [List.getElem?_append_right (by omega), hcount, List.getElem?_map,
      List.getElem?_range hparity, Option.map_some, Option.getD_some, hsum, evaluate,
      List.getElem?_map, List.getElem?_range hposition, Option.map_some, Option.getD_some,
      symbol_byteOf]
    rfl

theorem known_getElem? {shards : List (Option Shard)} {full : List Shard}
    (h : Known shards full) (index : Nat) :
    shards[index]? = (full[index]?).map (fun _ => none) ∨
      shards[index]? = (full[index]?).map some := by
  induction h generalizing index with
  | nil => exact Or.inl rfl
  | cons hhead _ ih =>
      cases index with
      | zero =>
          rcases hhead with rfl | rfl
          · exact Or.inl rfl
          · exact Or.inr rfl
      | succ index => exact ih index

theorem card_knownIndices (shards : List (Option Shard)) :
    (knownIndices shards).card = shards.countP Option.isSome := by
  induction shards using List.reverseRecOn with
  | nil => rfl
  | append_singleton shards shard ih =>
      have hinit : (Finset.range shards.length).filter
          (fun index => (((shards ++ [shard])[index]?).getD none).isSome) =
          knownIndices shards := by
        unfold knownIndices
        refine Finset.filter_congr fun index hindex => ?_
        rw [List.getElem?_append_left (Finset.mem_range.mp hindex)]
      have hlast : (((shards ++ [shard])[shards.length]?).getD none) = shard := by
        rw [List.getElem?_concat_length, Option.getD_some]
      unfold knownIndices
      rw [List.length_append, List.length_singleton, Finset.range_add_one,
        Finset.filter_insert, hinit, hlast, List.countP_append, ← ih]
      cases shard with
      | none => simp
      | some bytes =>
          have hnotin : shards.length ∉ knownIndices shards := by
            intro hmem
            have hlt := Finset.mem_range.mp (Finset.mem_filter.mp hmem).1
            omega
          simp [Finset.card_insert_of_notMem hnotin]

theorem evaluate_known {dataShards parityShards len : Nat} {data : List Shard}
    (hcount : data.length = dataShards)
    (hsmall : dataShards + parityShards ≤ 256)
    (hdata : ∀ shard ∈ data, shard.length = len) {shards : List (Option Shard)}
    (hknown : Known shards (data ++ (List.range parityShards).map fun parity =>
      evaluate (Finset.range dataShards) data len (dataShards + parity)))
    (henough : dataShards ≤ (knownIndices shards).card) {index : Nat} {shard : Shard}
    (hshard : data[index]? = some shard) :
    evaluate (knownIndices shards) (shards.map (·.getD [])) len index = shard := by
  have hindex : index < dataShards := by
    rw [← hcount]
    exact (List.getElem?_eq_some_iff.mp hshard).1
  have htotal : shards.length = dataShards + parityShards := by
    rw [hknown.length_eq, List.length_append, List.length_map, List.length_range, hcount]
  have hrange : Set.InjOn node (Finset.range dataShards) :=
    node_injOn fun i hi => by rw [Finset.mem_range] at hi; omega
  have hinj : Set.InjOn node (knownIndices shards) := by
    refine node_injOn fun i hi => ?_
    have hlt := Finset.mem_range.mp (Finset.mem_filter.mp hi).1
    omega
  have hshardLen : shard.length = len := hdata shard (List.mem_of_getElem? hshard)
  apply List.ext_getElem?
  intro position
  by_cases hposition : position < len
  · rw [evaluate, List.getElem?_map, List.getElem?_range hposition, Option.map_some]
    have hvalue : ∀ i ∈ knownIndices shards,
        column (shards.map (·.getD [])) position i =
          interpolateAt (Finset.range dataShards) node (column data position) (node i) := by
      intro i hi
      have hmem := Finset.mem_filter.mp hi
      have hlt : i < dataShards + parityShards := by
        rw [← htotal]
        exact Finset.mem_range.mp hmem.1
      rw [← column_code hcount hsmall hposition hlt]
      unfold column
      rw [List.getElem?_map]
      rcases known_getElem? hknown i with hnone | hsome
      · have hisSome := hmem.2
        rw [hnone] at hisSome
        cases hfull : (data ++ (List.range parityShards).map fun parity =>
          evaluate (Finset.range dataShards) data len (dataShards + parity))[i]? with
        | none => rw [hfull] at hisSome; cases hisSome
        | some full => rw [hfull] at hisSome; cases hisSome
      · rw [hsome]
        cases (data ++ (List.range parityShards).map fun parity =>
          evaluate (Finset.range dataShards) data len (dataShards + parity))[i]? <;> rfl
    have hcard : (Finset.range dataShards).card ≤ (knownIndices shards).card := by
      rw [Finset.card_range]
      exact henough
    rw [interpolateAt_eq hrange hinj hcard hvalue,
      interpolateAt_node hrange _ (Finset.mem_range.mpr hindex)]
    unfold column
    rw [hshard, Option.getD_some, byteOf_symbol,
      List.getElem?_eq_getElem (by rw [hshardLen]; exact hposition), Option.getD_some]
  · rw [List.getElem?_eq_none (by rw [length_evaluate]; omega),
      List.getElem?_eq_none (by omega)]

end ReedSolomon

open ReedSolomon in
theorem reedSolomon_lawful : reedSolomon.Lawful where
  encode := by
    intro dataShards parityShards len data htwo _ _ _ hcount hlen hdata
    refine ⟨_, encodeShards_eq hcount (by omega) hlen hdata, ?_, ?_⟩
    · rw [List.length_map, List.length_range]
    · intro shard hshard
      obtain ⟨parity, _, rfl⟩ := List.mem_map.mp hshard
      exact length_evaluate _ _ _ _
  firstRow := by
    intro dataShards len data one two htwo _ hcount hlen hdata hone htwoRows
    have h1 := @encodeShards_eq dataShards 1 len data hcount (by omega) hlen hdata
    have h2 := @encodeShards_eq dataShards fecParityShards len data hcount (by omega) hlen
      hdata
    have hone' : encodeShards dataShards 1 data = some one := hone
    have htwo' : encodeShards dataShards fecParityShards data = some two := htwoRows
    rw [h1] at hone'
    rw [h2] at htwo'
    cases hone'
    cases htwo'
    rfl
  reconstruct := by
    intro dataShards len data parity shards htwo hsix hcount hlen hdata hencode hknown henough
    have hrows := @encodeShards_eq dataShards fecParityShards len data hcount (by omega) hlen
      hdata
    have hencode' : encodeShards dataShards fecParityShards data = some parity := hencode
    rw [hrows] at hencode'
    cases hencode'
    have hsmall : dataShards + fecParityShards ≤ 256 := by
      unfold fecDataShards at hsix
      unfold fecParityShards
      omega
    rw [← card_knownIndices] at henough
    have hrowLen : ∀ shard ∈ data ++ (List.range fecParityShards).map (fun parity =>
        evaluate (Finset.range dataShards) data len (dataShards + parity)),
        shard.length = len := by
      intro shard hshard
      rcases List.mem_append.mp hshard with hmem | hmem
      · exact hdata shard hmem
      · obtain ⟨parity, _, rfl⟩ := List.mem_map.mp hmem
        exact length_evaluate _ _ _ _
    have hshardLength : shardLength (shards.filterMap id) = len := by
      refine shardLength_eq ?_ ?_
      · intro hnil
        have hcountP : shards.countP Option.isSome = 0 := by
          rw [List.countP_eq_zero]
          intro shard hmem hsome
          obtain ⟨bytes, rfl⟩ := Option.isSome_iff_exists.mp hsome
          have hin : bytes ∈ shards.filterMap id :=
            List.mem_filterMap.mpr ⟨some bytes, hmem, rfl⟩
          rw [hnil] at hin
          cases hin
        rw [card_knownIndices] at henough
        omega
      · intro shard hshard
        obtain ⟨slot, hslot, heq⟩ := List.mem_filterMap.mp hshard
        rw [id_eq] at heq
        rw [heq] at hslot
        exact hrowLen shard (known_mem hknown hslot)
    refine ⟨_, if_neg (Nat.not_lt.mpr henough), ?_⟩
    apply List.ext_getElem?
    intro index
    rw [List.getElem?_take, List.getElem?_mapIdx, List.getElem?_map, hshardLength]
    by_cases hindex : index < dataShards
    · have hlt : index < data.length := by omega
      have hshard := List.getElem?_eq_getElem hlt
      have heval := evaluate_known hcount hsmall hdata hknown henough hshard
      have hslot := known_getElem? hknown index
      rw [List.getElem?_append_left hlt, hshard] at hslot
      rw [if_pos hindex, hshard]
      rcases hslot with hnone | hsome
      · rw [hnone, Option.map_some, Option.map_some, Option.map_some, if_pos hindex, heval]
      · rw [hsome]
        rfl
    · rw [if_neg hindex, List.getElem?_eq_none (by omega), Option.map_none]

end PicooCamera.Protocol
