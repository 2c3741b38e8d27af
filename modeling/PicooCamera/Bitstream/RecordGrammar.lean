import PicooCamera.Bitstream.Configuration
import PicooCamera.Library.Program

/-!
# The grammar of configuration records

`avcC` and `hvcC` records as the bounds scan accepts them: fixed headers,
counted lists of parameter sets behind their lengths, and nothing after them.
`RecordScan` is the scan over offsets into the record, as the source has it:
it answers what `preflight` answers and reads no position beyond the record.
-/

namespace PicooCamera.Bitstream

open PicooCamera.Library

/-- A parameter set behind its two byte length. -/
def lengthThenSet (set : Bytes) : Bytes := putBE 2 set.length ++ set

def setsBytes (sets : List Bytes) : Bytes := sets.flatMap lengthThenSet

/-- Parameter sets whose lengths the two bytes can say, none of them empty. -/
def SetsFit (sets : List Bytes) : Prop := ∀ set ∈ sets, set ≠ [] ∧ set.length < 2 ^ 16

/-- `avcC`: five bytes, the counted SPS and PPS lists, and either nothing or the four bytes
of the high profiles without SPS extensions. -/
structure AvcRecordBytes where
  header : Bytes
  spsCount : UInt8
  sps : List Bytes
  ppsCount : UInt8
  pps : List Bytes
  highProfile : Option Bytes
  header_length : header.length = 5
  sps_length : sps.length = (spsCount &&& 31).toNat
  pps_length : pps.length = ppsCount.toNat
  sets_fit : SetsFit (sps ++ pps)
  sets_limit : sps.length + pps.length ≤ maxParameterSets
  highProfile_length : ∀ fields ∈ highProfile, fields.length = 3

/-- The fields of the high profiles, and the number of SPS extensions. -/
def highProfileBytes : Option Bytes → Bytes
  | none => []
  | some fields => fields ++ [0]

def AvcRecordBytes.bytes (record : AvcRecordBytes) : Bytes :=
  record.header ++ record.spsCount :: setsBytes record.sps ++
    record.ppsCount :: setsBytes record.pps ++ highProfileBytes record.highProfile

/-- One array of `hvcC`: the NAL unit type in the low six bits, and a counted list. -/
structure HevcArrayBytes where
  kind : UInt8
  sets : List Bytes
  kind_parameterSet : kind &&& 63 ∈ [32, 33, 34]
  sets_length : sets.length < 2 ^ 16
  sets_fit : SetsFit sets

def HevcArrayBytes.bytes (array : HevcArrayBytes) : Bytes :=
  array.kind :: putBE 2 array.sets.length ++ setsBytes array.sets

/-- `hvcC`: twenty-two bytes and at most three counted arrays. -/
structure HevcRecordBytes where
  header : Bytes
  arrays : List HevcArrayBytes
  header_length : header.length = 22
  arrays_limit : arrays.length ≤ 3
  sets_limit : (arrays.map fun array => array.sets.length).sum ≤ maxParameterSets

def HevcRecordBytes.bytes (record : HevcRecordBytes) : Bytes :=
  record.header ++ UInt8.ofNat record.arrays.length ::
    record.arrays.flatMap HevcArrayBytes.bytes

/-- The byte strings that are records of a codec. -/
def IsRecord : Codec → Bytes → Prop
  | .avc, data => ∃ record : AvcRecordBytes, record.bytes = data
  | .hevc, data => ∃ record : HevcRecordBytes, record.bytes = data

/-! ## Elementary reads -/

namespace RecordBounds

variable {reader next : RecordBounds} {count : Nat}

theorem skip_ok : reader.skip count = .ok next ↔
    ∃ skipped, skipped.length = count ∧ reader.remaining = skipped ++ next.remaining ∧
      next.count = reader.count := by
  unfold skip
  constructor
  · intro h
    split at h
    · exact absurd h nofun
    · rename_i hlong
      obtain rfl := Except.ok.inj h
      exact ⟨reader.remaining.take count, List.length_take_of_le (Nat.not_lt.mp hlong),
        (List.take_append_drop count reader.remaining).symm, rfl⟩
  · rintro ⟨skipped, rfl, hremaining, hcount⟩
    rw [if_neg (by rw [hremaining, List.length_append]; omega), hremaining, List.drop_left,
      ← hcount]

theorem byte_ok {value : UInt8} : reader.byte = .ok (value, next) ↔
    reader.remaining = value :: next.remaining ∧ next.count = reader.count := by
  unfold byte
  cases hremaining : reader.remaining with
  | nil => exact iff_of_false nofun fun ⟨h, _⟩ => absurd h nofun
  | cons head rest =>
      constructor
      · intro h
        obtain ⟨rfl, rfl⟩ := Prod.mk.inj (Except.ok.inj h)
        exact ⟨rfl, rfl⟩
      · rintro ⟨h, hcount⟩
        obtain ⟨rfl, rfl⟩ := List.cons.inj h
        rw [← hcount]

theorem u16_ok {value : Nat} : reader.u16 = .ok (value, next) ↔
    value < 2 ^ 16 ∧ reader.remaining = putBE 2 value ++ next.remaining ∧
      next.count = reader.count := by
  unfold u16
  constructor
  · intro h
    obtain ⟨⟨high, afterHigh⟩, hhigh, h⟩ := bind_ok.mp h
    obtain ⟨⟨low, afterLow⟩, hlow, h⟩ := bind_ok.mp h
    obtain ⟨hvalue, rfl⟩ := Prod.mk.inj (Except.ok.inj h)
    obtain ⟨hhigh, hcountHigh⟩ := byte_ok.mp hhigh
    obtain ⟨hlow, hcountLow⟩ := byte_ok.mp hlow
    have hback := putBE_getBE [high, low]
    rw [hvalue] at hback
    have hlt := getBE_lt [high, low]
    rw [hvalue, List.length_cons, List.length_singleton] at hlt
    refine ⟨by omega, ?_, hcountLow.trans hcountHigh⟩
    rw [hhigh, hlow]
    change _ = putBE [high, low].length value ++ _
    rw [hback]
    rfl
  · rintro ⟨hlt, hremaining, hcount⟩
    have hbytes : putBE 2 value = [UInt8.ofNat (value / 256 ^ 1), UInt8.ofNat (value / 256 ^ 0)] :=
      rfl
    have hback : getBE (putBE 2 value) = value := getBE_putBE (by omega)
    rw [hbytes] at hremaining hback
    refine bind_ok.mpr ⟨(_, ⟨_ :: next.remaining, reader.count⟩),
      byte_ok.mpr ⟨hremaining, rfl⟩, bind_ok.mpr ⟨(_, next), byte_ok.mpr ⟨rfl, hcount⟩, ?_⟩⟩
    exact congrArg (fun value => Except.ok (value, next)) hback

/-! ## Parameter sets -/

theorem setsBytes_cons (set : Bytes) (sets : List Bytes) :
    setsBytes (set :: sets) = putBE 2 set.length ++ (set ++ setsBytes sets) := by
  rw [setsBytes, List.flatMap_cons, lengthThenSet, List.append_assoc]
  rfl

theorem setsFit_cons {set : Bytes} {sets : List Bytes} :
    SetsFit (set :: sets) ↔ (set ≠ [] ∧ set.length < 2 ^ 16) ∧ SetsFit sets :=
  List.forall_mem_cons

theorem skipSets_ok : reader.skipSets count = .ok next ↔
    ∃ sets, sets.length = count ∧ SetsFit sets ∧
      reader.remaining = setsBytes sets ++ next.remaining ∧ next.count = reader.count := by
  induction count generalizing reader with
  | zero =>
      constructor
      · intro h
        obtain rfl := Except.ok.inj h
        exact ⟨[], rfl, nofun, rfl, rfl⟩
      · rintro ⟨sets, hlength, -, hremaining, hcount⟩
        obtain rfl := List.eq_nil_of_length_eq_zero hlength
        obtain ⟨remaining, count⟩ := reader
        obtain ⟨remaining', count'⟩ := next
        obtain rfl : remaining = remaining' := hremaining
        obtain rfl : count' = count := hcount
        rfl
  | succ count ih =>
      unfold skipSets
      constructor
      · intro h
        obtain ⟨⟨length, afterLength⟩, hlength, h⟩ := bind_ok.mp h
        obtain ⟨hlt, hremaining, hcount⟩ := u16_ok.mp hlength
        dsimp only at h
        by_cases hzero : length = 0
        · rw [if_pos hzero] at h
          exact absurd h nofun
        · rw [if_neg hzero] at h
          obtain ⟨afterSet, hset, hsets⟩ := bind_ok.mp h
          obtain ⟨set, rfl, hremaining', hcount'⟩ := skip_ok.mp hset
          obtain ⟨sets, rfl, hfit, hremaining'', hcount''⟩ := ih.mp hsets
          refine ⟨set :: sets, rfl, ?_, ?_, ?_⟩
          · exact setsFit_cons.mpr ⟨⟨fun hnil => hzero (hnil ▸ rfl), hlt⟩, hfit⟩
          · rw [hremaining, hremaining', hremaining'', setsBytes_cons]
            simp only [List.append_assoc]
          · rw [hcount'', hcount', hcount]
      · rintro ⟨sets, hlength, hfit, hremaining, hcount⟩
        cases sets with
        | nil => exact absurd hlength nofun
        | cons set sets =>
            obtain ⟨⟨hne, hlt⟩, hfit⟩ := setsFit_cons.mp hfit
            rw [setsBytes_cons, List.append_assoc, List.append_assoc] at hremaining
            refine bind_ok.mpr ⟨(set.length, ⟨_, reader.count⟩),
              u16_ok.mpr ⟨hlt, hremaining, rfl⟩, ?_⟩
            have hpos : set.length ≠ 0 := fun hzero => hne (List.eq_nil_of_length_eq_zero hzero)
            dsimp only
            rw [if_neg hpos]
            exact bind_ok.mpr ⟨⟨_, reader.count⟩, skip_ok.mpr ⟨set, rfl, rfl, rfl⟩,
              ih.mpr ⟨sets, Nat.succ.inj hlength, hfit, rfl, hcount⟩⟩

theorem sets_ok : reader.sets count = .ok next ↔
    ∃ sets, sets.length = count ∧ SetsFit sets ∧
      reader.remaining = setsBytes sets ++ next.remaining ∧
      next.count = reader.count + count ∧ next.count ≤ maxParameterSets := by
  unfold sets
  dsimp only
  by_cases hlimit : maxParameterSets < reader.count + count
  · rw [if_pos hlimit]
    refine iff_of_false nofun ?_
    rintro ⟨-, -, -, -, hcount, hle⟩
    omega
  · rw [if_neg hlimit, skipSets_ok]
    constructor
    · rintro ⟨sets, hlength, hfit, hremaining, hcount⟩
      exact ⟨sets, hlength, hfit, hremaining, hcount, hcount ▸ Nat.not_lt.mp hlimit⟩
    · rintro ⟨sets, hlength, hfit, hremaining, hcount, -⟩
      exact ⟨sets, hlength, hfit, hremaining, hcount⟩

/-! ## Arrays -/

theorem setsFit_append {sets more : List Bytes} :
    SetsFit (sets ++ more) ↔ SetsFit sets ∧ SetsFit more :=
  List.forall_mem_append

theorem hevcArrays_ok : reader.hevcArrays count = .ok next ↔
    ∃ arrays : List HevcArrayBytes, arrays.length = count ∧
      reader.remaining = arrays.flatMap HevcArrayBytes.bytes ++ next.remaining ∧
      next.count = reader.count + (arrays.map fun array => array.sets.length).sum ∧
      (arrays = [] ∨ next.count ≤ maxParameterSets) := by
  induction count generalizing reader with
  | zero =>
      constructor
      · intro h
        obtain rfl := Except.ok.inj h
        exact ⟨[], rfl, rfl, rfl, Or.inl rfl⟩
      · rintro ⟨arrays, hlength, hremaining, hcount, -⟩
        obtain rfl := List.eq_nil_of_length_eq_zero hlength
        obtain ⟨remaining, count⟩ := reader
        obtain ⟨remaining', count'⟩ := next
        obtain rfl : remaining = remaining' := hremaining
        obtain rfl : count' = count := hcount
        rfl
  | succ count ih =>
      unfold hevcArrays
      constructor
      · intro h
        obtain ⟨⟨kind, afterKind⟩, hkind, h⟩ := bind_ok.mp h
        obtain ⟨hremaining, hcount⟩ := byte_ok.mp hkind
        dsimp only at h
        by_cases hset : kind &&& 63 ∉ [32, 33, 34]
        · rw [if_pos hset] at h
          exact absurd h nofun
        · rw [if_neg hset] at h
          obtain ⟨⟨length, afterLength⟩, hlength, h⟩ := bind_ok.mp h
          obtain ⟨hlt, hremaining', hcount'⟩ := u16_ok.mp hlength
          obtain ⟨afterSets, hsets, hmore⟩ := bind_ok.mp h
          obtain ⟨sets, rfl, hfit, hremaining'', hcount'', hlimit⟩ := sets_ok.mp hsets
          obtain ⟨arrays, rfl, hmoreRest, hmoreCount, hmoreLimit⟩ := ih.mp hmore
          refine ⟨⟨kind, sets, not_not.mp hset, hlt, hfit⟩ :: arrays, rfl, ?_, ?_, Or.inr ?_⟩
          · rw [hremaining, hremaining', hremaining'', hmoreRest, List.flatMap_cons,
              HevcArrayBytes.bytes]
            simp only [List.append_assoc, List.cons_append]
          · rw [hmoreCount, hcount'', hcount', hcount, List.map_cons, List.sum_cons,
              Nat.add_assoc]
          · rcases hmoreLimit with rfl | hle
            · rw [hmoreCount]
              exact hlimit
            · exact hle
      · rintro ⟨arrays, hlength, hremaining, hcount, hlimit⟩
        cases arrays with
        | nil => exact absurd hlength nofun
        | cons array arrays =>
            have hle : next.count ≤ maxParameterSets := hlimit.resolve_left (List.cons_ne_nil _ _)
            rw [List.map_cons, List.sum_cons] at hcount
            rw [List.flatMap_cons, HevcArrayBytes.bytes] at hremaining
            simp only [List.append_assoc, List.cons_append] at hremaining
            refine bind_ok.mpr ⟨(array.kind, ⟨_, reader.count⟩), byte_ok.mpr ⟨hremaining, rfl⟩, ?_⟩
            dsimp only
            rw [if_neg (not_not.mpr array.kind_parameterSet)]
            refine bind_ok.mpr ⟨(array.sets.length, ⟨_, reader.count⟩),
              u16_ok.mpr ⟨array.sets_length, rfl, rfl⟩, ?_⟩
            refine bind_ok.mpr ⟨⟨_, reader.count + array.sets.length⟩,
              sets_ok.mpr ⟨array.sets, rfl, array.sets_fit, rfl, rfl, ?_⟩, ?_⟩
            · dsimp only
              omega
            · exact ih.mpr ⟨arrays, Nat.succ.inj hlength, rfl, by dsimp only; omega, Or.inr hle⟩

end RecordBounds

/-! ## Records -/

open RecordBounds

theorem preflightHevc_ok {data : Bytes} {next : RecordBounds} :
    preflightHevc ⟨data, 0⟩ = .ok next ↔
      ∃ record : HevcRecordBytes, data = record.bytes ++ next.remaining ∧
        next.count = (record.arrays.map fun array => array.sets.length).sum := by
  unfold preflightHevc
  constructor
  · intro h
    obtain ⟨afterHeader, hheader, h⟩ := bind_ok.mp h
    obtain ⟨header, hlength, hremaining, hcount⟩ := skip_ok.mp hheader
    obtain ⟨⟨arrayCount, afterCount⟩, hbyte, h⟩ := bind_ok.mp h
    obtain ⟨hremaining', hcount'⟩ := byte_ok.mp hbyte
    dsimp only at h hremaining hcount
    by_cases hmany : 3 < arrayCount
    · rw [if_pos hmany] at h
      exact absurd h nofun
    · rw [if_neg hmany] at h
      obtain ⟨arrays, harrays, hremaining'', hcount'', hlimit⟩ := hevcArrays_ok.mp h
      have hthree : arrayCount.toNat ≤ 3 := Nat.not_lt.mp hmany
      have hzero : next.count = (arrays.map fun array => array.sets.length).sum := by
        rw [hcount'', hcount', hcount, Nat.zero_add]
      have hback : UInt8.ofNat arrays.length = arrayCount := by
        rw [harrays, UInt8.ofNat_toNat]
      have hdata : data = header ++ UInt8.ofNat arrays.length ::
          arrays.flatMap HevcArrayBytes.bytes ++ next.remaining := by
        rw [hremaining, hremaining', hremaining'', hback]
        simp only [List.append_assoc, List.cons_append]
      refine ⟨⟨header, arrays, hlength, by omega, ?_⟩, hdata, hzero⟩
      rcases hlimit with hnil | hle
      · rw [hnil]
        exact Nat.zero_le _
      · exact hzero ▸ hle
  · rintro ⟨record, hdata, hcount⟩
    have hthree := record.arrays_limit
    have hback : (UInt8.ofNat record.arrays.length).toNat = record.arrays.length := by
      rw [UInt8.toNat_ofNat']
      omega
    rw [HevcRecordBytes.bytes, List.append_assoc, List.cons_append] at hdata
    refine bind_ok.mpr ⟨⟨_, 0⟩, skip_ok.mpr ⟨record.header, record.header_length, hdata, rfl⟩, ?_⟩
    refine bind_ok.mpr ⟨(UInt8.ofNat record.arrays.length, ⟨_, 0⟩), byte_ok.mpr ⟨rfl, rfl⟩, ?_⟩
    have hfew : ¬ 3 < UInt8.ofNat record.arrays.length := by
      rw [UInt8.lt_iff_toNat_lt, hback]
      exact Nat.not_lt.mpr hthree
    dsimp only
    rw [if_neg hfew, hback]
    exact hevcArrays_ok.mpr ⟨record.arrays, rfl, rfl, by rw [hcount, Nat.zero_add],
      Or.inr (hcount ▸ record.sets_limit)⟩

/-- The tail of `avcC`, as `preflight` reads it. -/
private def avcTail (reader : RecordBounds) : Except BitstreamError RecordBounds := do
  if reader.remaining = [] then return reader
  let reader ← reader.skip 3
  let (extensions, reader) ← reader.byte
  if extensions ≠ 0 then throw (.unsupported "AVC SPS extensions")
  return reader

private theorem avcTail_ok {reader next : RecordBounds} (hend : next.remaining = []) :
    avcTail reader = .ok next ↔ ∃ highProfile : Option Bytes,
      (∀ fields ∈ highProfile, fields.length = 3) ∧
      reader.remaining = highProfileBytes highProfile ∧ next.count = reader.count := by
  obtain ⟨remaining, count⟩ := reader
  obtain ⟨remaining', count'⟩ := next
  obtain rfl : remaining' = [] := hend
  unfold avcTail
  constructor
  · intro h
    by_cases hnil : remaining = []
    · rw [if_pos hnil] at h
      obtain ⟨-, rfl⟩ := RecordBounds.mk.inj (Except.ok.inj h)
      exact ⟨none, nofun, hnil, rfl⟩
    · rw [if_neg hnil] at h
      obtain ⟨afterFields, hfields, h⟩ := bind_ok.mp h
      obtain ⟨fields, hlength, hremaining, hcount⟩ := skip_ok.mp hfields
      obtain ⟨⟨extensions, afterByte⟩, hbyte, h⟩ := bind_ok.mp h
      obtain ⟨hremaining', hcount'⟩ := byte_ok.mp hbyte
      dsimp only at h hremaining hcount
      by_cases hextensions : extensions ≠ 0
      · rw [if_pos hextensions] at h
        exact absurd h nofun
      · rw [if_neg hextensions] at h
        obtain rfl := Except.ok.inj h
        refine ⟨some fields, ?_, ?_, hcount'.trans hcount⟩
        · intro other hother
          rwa [← Option.some.inj hother]
        · dsimp only
          rw [hremaining, hremaining', not_not.mp hextensions]
          rfl
  · rintro ⟨highProfile, hlength, hremaining, hcount⟩
    obtain rfl : count' = count := hcount
    cases highProfile with
    | none =>
        obtain rfl : remaining = [] := hremaining
        rfl
    | some fields =>
        have hne : remaining ≠ [] := fun hnil => by
          rw [hnil] at hremaining
          exact List.append_ne_nil_of_right_ne_nil fields (List.cons_ne_nil 0 []) hremaining.symm
        rw [if_neg hne]
        exact bind_ok.mpr ⟨⟨[0], count'⟩, skip_ok.mpr ⟨fields, hlength fields rfl, hremaining, rfl⟩,
          bind_ok.mpr ⟨(0, ⟨[], count'⟩), byte_ok.mpr ⟨rfl, rfl⟩, rfl⟩⟩

theorem preflightAvc_ok {data : Bytes} {next : RecordBounds} (hend : next.remaining = []) :
    preflightAvc ⟨data, 0⟩ = .ok next ↔
      ∃ record : AvcRecordBytes, data = record.bytes ∧
        next.count = record.sps.length + record.pps.length := by
  unfold preflightAvc
  constructor
  · intro h
    obtain ⟨afterHeader, hheader, h⟩ := bind_ok.mp h
    obtain ⟨header, hheaderLength, hremaining, hcount⟩ := skip_ok.mp hheader
    obtain ⟨⟨spsCount, afterSpsCount⟩, hspsCount, h⟩ := bind_ok.mp h
    obtain ⟨hremaining₁, hcount₁⟩ := byte_ok.mp hspsCount
    obtain ⟨afterSps, hsps, h⟩ := bind_ok.mp h
    obtain ⟨sps, hspsLength, hspsFit, hremaining₂, hcount₂, -⟩ := sets_ok.mp hsps
    obtain ⟨⟨ppsCount, afterPpsCount⟩, hppsCount, h⟩ := bind_ok.mp h
    obtain ⟨hremaining₃, hcount₃⟩ := byte_ok.mp hppsCount
    obtain ⟨afterPps, hpps, htail⟩ := bind_ok.mp h
    obtain ⟨pps, hppsLength, hppsFit, hremaining₄, hcount₄, hlimit⟩ := sets_ok.mp hpps
    obtain ⟨highProfile, hfields, hremaining₅, hcount₅⟩ := (avcTail_ok hend).mp htail
    dsimp only at hremaining hcount
    have hsum : afterPps.count = sps.length + pps.length := by
      rw [hcount₄, hcount₃, hcount₂, hcount₁, hcount, hspsLength, hppsLength, Nat.zero_add]
    have hdata : data = header ++ spsCount :: setsBytes sps ++
        ppsCount :: setsBytes pps ++ highProfileBytes highProfile := by
      rw [hremaining, hremaining₁, hremaining₂, hremaining₃, hremaining₄, hremaining₅]
      simp only [List.append_assoc, List.cons_append]
    exact ⟨⟨header, spsCount, sps, ppsCount, pps, highProfile, hheaderLength, hspsLength,
      hppsLength, setsFit_append.mpr ⟨hspsFit, hppsFit⟩, hsum ▸ hlimit, hfields⟩, hdata,
      hcount₅.trans hsum⟩
  · rintro ⟨record, hdata, hcount⟩
    obtain ⟨hspsFit, hppsFit⟩ := setsFit_append.mp record.sets_fit
    have hlimit := record.sets_limit
    have hspsLength := record.sps_length
    have hppsLength := record.pps_length
    rw [AvcRecordBytes.bytes] at hdata
    simp only [List.append_assoc, List.cons_append] at hdata
    refine bind_ok.mpr ⟨⟨_, 0⟩, skip_ok.mpr ⟨record.header, record.header_length, hdata, rfl⟩, ?_⟩
    refine bind_ok.mpr ⟨(record.spsCount, ⟨_, 0⟩), byte_ok.mpr ⟨rfl, rfl⟩, ?_⟩
    refine bind_ok.mpr ⟨⟨_, 0 + (record.spsCount &&& 31).toNat⟩,
      sets_ok.mpr ⟨record.sps, hspsLength, hspsFit, rfl, rfl, by dsimp only; omega⟩, ?_⟩
    refine bind_ok.mpr ⟨(record.ppsCount, ⟨_, 0 + (record.spsCount &&& 31).toNat⟩),
      byte_ok.mpr ⟨rfl, rfl⟩, ?_⟩
    refine bind_ok.mpr
      ⟨⟨highProfileBytes record.highProfile, record.sps.length + record.pps.length⟩,
        sets_ok.mpr ⟨record.pps, hppsLength, hppsFit, rfl, by dsimp only; omega, hlimit⟩, ?_⟩
    exact (avcTail_ok hend).mpr ⟨record.highProfile, record.highProfile_length, rfl, hcount⟩

theorem preflight_ok (codec : Codec) (data : Bytes) :
    preflight codec data = .ok () ↔ IsRecord codec data := by
  have hend : ∀ scan : Except BitstreamError RecordBounds,
      ((do
        let reader ← scan
        if reader.remaining ≠ [] then throw (.malformed "configuration trailing bytes")) =
          Except.ok ()) ↔ ∃ next, scan = .ok next ∧ next.remaining = [] := by
    intro scan
    rw [bind_ok]
    refine exists_congr fun next => and_congr_right fun _ => ?_
    by_cases hnil : next.remaining = []
    · exact iff_of_true (if_neg (not_not.mpr hnil)) hnil
    · rw [if_pos hnil]
      exact iff_of_false nofun hnil
  cases codec with
  | avc =>
      refine (hend (preflightAvc ⟨data, 0⟩)).trans ?_
      constructor
      · rintro ⟨next, hnext, hnil⟩
        obtain ⟨record, hdata, -⟩ := (preflightAvc_ok hnil).mp hnext
        exact ⟨record, hdata.symm⟩
      · rintro ⟨record, rfl⟩
        exact ⟨⟨[], record.sps.length + record.pps.length⟩,
          (preflightAvc_ok rfl).mpr ⟨record, rfl, rfl⟩, rfl⟩
  | hevc =>
      refine (hend (preflightHevc ⟨data, 0⟩)).trans ?_
      constructor
      · rintro ⟨next, hnext, hnil⟩
        obtain ⟨record, hdata, -⟩ := preflightHevc_ok.mp hnext
        rw [hnil, List.append_nil] at hdata
        exact ⟨record, hdata.symm⟩
      · rintro ⟨record, rfl⟩
        exact ⟨⟨[], (record.arrays.map fun array => array.sets.length).sum⟩,
          preflightHevc_ok.mpr ⟨record, (List.append_nil _).symm, rfl⟩, rfl⟩

/-! ## The scan over offsets -/

/-- `RecordBounds` over an offset, with the positions that were read. -/
structure RecordScan where
  offset : Nat
  count : Nat
  reads : List Nat

namespace RecordScan

open Program

variable (data : Bytes)

def advance (count : Nat) (scan : RecordScan) : RecordScan :=
  { scan with offset := scan.offset + count }

def skip (count : Nat) : Program RecordScan BitstreamError Unit := do
  let offset ← read RecordScan.offset
  if data.length < offset + count then fail .truncated else update (advance count)

/-- One position is read, and the offset moves behind it. -/
def take (scan : RecordScan) : RecordScan :=
  { scan with offset := scan.offset + 1, reads := scan.reads ++ [scan.offset] }

/-- `self.data.get(self.offset)` -/
def byteAt (offset : Nat) : Except BitstreamError UInt8 :=
  match data[offset]? with
  | none => .error .truncated
  | some byte => .ok byte

def byte : Program RecordScan BitstreamError UInt8 := do
  let offset ← read RecordScan.offset
  let byte ← Program.ofExcept (byteAt data offset)
  update take
  return byte

def u16 : Program RecordScan BitstreamError Nat := do
  let high ← byte data
  let low ← byte data
  return getBE [high, low]

def skipSets : Nat → Program RecordScan BitstreamError Unit
  | 0 => pure ()
  | count + 1 => do
      let length ← u16 data
      when (length = 0) (fail (.malformed "empty parameter set"))
      skip data length
      skipSets count

def addCount (count : Nat) (scan : RecordScan) : RecordScan :=
  { scan with count := scan.count + count }

def sets (count : Nat) : Program RecordScan BitstreamError Unit := do
  update (addCount count)
  let total ← read RecordScan.count
  when (maxParameterSets < total) (fail .limit)
  skipSets data count

def hevcArrays : Nat → Program RecordScan BitstreamError Unit
  | 0 => pure ()
  | arrays + 1 => do
      let kind ← byte data
      when (kind &&& 63 ∉ [32, 33, 34]) (fail (.unsupported "HEVC configuration NAL type"))
      let count ← u16 data
      sets data count
      hevcArrays arrays

def highProfile : Program RecordScan BitstreamError Unit := do
  skip data 3
  let extensions ← byte data
  when (extensions ≠ 0) (fail (.unsupported "AVC SPS extensions"))

def avcTail : Program RecordScan BitstreamError Unit := do
  let offset ← read RecordScan.offset
  when (offset < data.length) (highProfile data)

def avc : Program RecordScan BitstreamError Unit := do
  skip data 5
  let count ← byte data
  sets data (count &&& 31).toNat
  let count ← byte data
  sets data count.toNat
  avcTail data

def hevc : Program RecordScan BitstreamError Unit := do
  skip data 22
  let arrays ← byte data
  when (3 < arrays) (fail (.unsupported "HEVC configuration arrays"))
  hevcArrays data arrays.toNat

/-- The end of `preflight`. -/
def finish : Program RecordScan BitstreamError Unit := do
  let offset ← read RecordScan.offset
  when (offset ≠ data.length) (fail (.malformed "configuration trailing bytes"))

/-- `preflight` -/
def scan (codec : Codec) : Program RecordScan BitstreamError Unit := do
  if codec = .avc then avc data else hevc data
  finish data

def start : RecordScan := ⟨0, 0, []⟩

/-! ## What the scan keeps -/

/-- Every position that was read, and the offset itself, is within the record. -/
structure Inside (scan : RecordScan) : Prop where
  offset : scan.offset ≤ data.length
  reads : ∀ position ∈ scan.reads, position < data.length

/-- What is left of the record. -/
def rest (scan : RecordScan) : RecordBounds := ⟨data.drop scan.offset, scan.count⟩

/-- The program answers what `f` answers for the rest of the record, and stays inside. -/
def Answers {α : Type} (p : Program RecordScan BitstreamError α)
    (f : RecordBounds → Except BitstreamError (α × RecordBounds)) : Prop :=
  ∀ scan, Inside data scan → Inside data (exec p scan).2 ∧
    (exec p scan).1.map (fun a => (a, rest data (exec p scan).2)) = f (rest data scan)

/-- A function that returns a reader only. -/
def unit (f : RecordBounds → Except BitstreamError RecordBounds) (reader : RecordBounds) :
    Except BitstreamError (Unit × RecordBounds) :=
  (f reader).map fun next => ((), next)

variable {data} {α β : Type}

theorem Answers.bind {p : Program RecordScan BitstreamError α}
    {g : α → Program RecordScan BitstreamError β}
    {f : RecordBounds → Except BitstreamError (α × RecordBounds)}
    {h : α → RecordBounds → Except BitstreamError (β × RecordBounds)}
    (hp : Answers data p f) (hg : ∀ a, Answers data (g a) (h a)) :
    Answers data (p >>= g) fun reader => f reader >>= fun x => h x.1 x.2 := by
  intro scan hscan
  obtain ⟨hinside, hanswer⟩ := hp scan hscan
  dsimp only
  rw [← hanswer, exec_bind]
  cases hrun : exec p scan with
  | mk result next =>
      rw [hrun] at hinside
      cases result with
      | ok a => exact hg a next hinside
      | error error => exact ⟨hinside, rfl⟩

theorem unit_bind {γ : Type} (x : Except BitstreamError γ)
    (k : γ → Except BitstreamError RecordBounds) :
    (x >>= k).map (fun next => ((), next)) = x >>= fun a => (k a).map fun next => ((), next) := by
  cases x <;> rfl

theorem Answers.bind_unit {p : Program RecordScan BitstreamError α}
    {g : α → Program RecordScan BitstreamError Unit}
    {f : RecordBounds → Except BitstreamError (α × RecordBounds)}
    {h : α → RecordBounds → Except BitstreamError RecordBounds}
    (hp : Answers data p f) (hg : ∀ a, Answers data (g a) (unit (h a))) :
    Answers data (p >>= g) (unit fun reader => f reader >>= fun x => h x.1 x.2) := by
  intro scan hscan
  rw [unit, unit_bind]
  exact hp.bind hg scan hscan

theorem Answers.andThen {p g : Program RecordScan BitstreamError Unit}
    {f h : RecordBounds → Except BitstreamError RecordBounds}
    (hp : Answers data p (unit f)) (hg : Answers data g (unit h)) :
    Answers data (p >>= fun _ => g) (unit fun reader => f reader >>= h) := by
  intro scan hscan
  have hbind := hp.bind (fun _ => hg) scan hscan
  rw [unit, unit_bind]
  refine ⟨hbind.1, hbind.2.trans ?_⟩
  unfold unit
  dsimp only
  cases f (rest data scan) <;> rfl

theorem answers_when_fail {c : Prop} [Decidable c] {error : BitstreamError}
    {g : Program RecordScan BitstreamError Unit}
    {h : RecordBounds → Except BitstreamError RecordBounds} (hg : Answers data g (unit h)) :
    Answers data (when c (fail error) >>= fun _ => g)
      (unit fun reader => if c then throw error >>= fun _ : PUnit => h reader else h reader) := by
  intro scan hscan
  unfold unit
  dsimp only
  by_cases hc : c
  · rw [exec_bind_error ((exec_when_true hc _ scan).trans (exec_fail error scan)), if_pos hc]
    exact ⟨hscan, rfl⟩
  · rw [exec_bind_ok (exec_when_false hc _ scan), if_neg hc]
    exact hg scan hscan

theorem answers_when_last {c : Prop} [Decidable c] {error : BitstreamError} :
    Answers data (when c (fail error))
      (unit fun reader => if c then throw error >>= fun _ : PUnit => .ok reader else .ok reader) := by
  intro scan hscan
  unfold unit
  dsimp only
  by_cases hc : c
  · rw [exec_when_true hc, if_pos hc]
    exact ⟨hscan, rfl⟩
  · rw [exec_when_false hc, if_neg hc]
    exact ⟨hscan, rfl⟩

theorem answers_pure (a : α) : Answers data (pure a) fun reader => .ok (a, reader) :=
  fun _ hscan => ⟨hscan, rfl⟩

/-! ## The parts of the scan -/

theorem rest_eq_nil {scan : RecordScan} :
    (rest data scan).remaining = [] ↔ data.length ≤ scan.offset :=
  List.drop_eq_nil_iff

theorem answers_skip (count : Nat) : Answers data (skip data count) (unit (·.skip count)) := by
  intro scan hscan
  have hoffset := hscan.offset
  unfold skip unit RecordBounds.skip rest
  rw [exec_read_bind, exec_ite]
  dsimp only
  by_cases hlong : data.length < scan.offset + count
  · rw [if_pos hlong, if_pos (by rw [List.length_drop]; omega)]
    exact ⟨hscan, rfl⟩
  · rw [if_neg hlong, if_neg (by rw [List.length_drop]; omega)]
    refine ⟨⟨Nat.not_lt.mp hlong, hscan.reads⟩, ?_⟩
    dsimp only [exec_update, Except.map, advance]
    rw [List.drop_drop]

theorem answers_byte : Answers data (byte data) (·.byte) := by
  intro scan hscan
  unfold byte byteAt rest
  rw [exec_read_bind]
  dsimp only
  by_cases hend : scan.offset < data.length
  · rw [List.getElem?_eq_getElem hend, List.drop_eq_getElem_cons hend]
    refine ⟨⟨hend, ?_⟩, rfl⟩
    intro position hposition
    rcases List.mem_append.mp hposition with hread | hlast
    · exact hscan.reads position hread
    · rwa [List.mem_singleton.mp hlast]
  · rw [List.getElem?_eq_none (Nat.not_lt.mp hend), List.drop_eq_nil_of_le (Nat.not_lt.mp hend)]
    exact ⟨hscan, rfl⟩

theorem answers_u16 : Answers data (u16 data) (·.u16) :=
  answers_byte.bind fun high => answers_byte.bind fun low => answers_pure (getBE [high, low])

theorem answers_skipSets (count : Nat) :
    Answers data (skipSets data count) (unit (·.skipSets count)) := by
  induction count with
  | zero => exact answers_pure ()
  | succ count ih =>
      exact answers_u16.bind_unit fun length =>
        answers_when_fail ((answers_skip length).andThen ih)

theorem answers_sets (count : Nat) : Answers data (sets data count) (unit (·.sets count)) := by
  intro scan hscan
  have hcounted : Inside data (addCount count scan) := ⟨hscan.offset, hscan.reads⟩
  unfold sets unit RecordBounds.sets
  rw [exec_update_bind, exec_read_bind]
  dsimp only
  by_cases hlimit : maxParameterSets < (addCount count scan).count
  · have hlimit' : maxParameterSets < (rest data scan).count + count := hlimit
    rw [if_pos hlimit', exec_bind_error ((exec_when_true hlimit _ _).trans (exec_fail _ _))]
    exact ⟨hcounted, rfl⟩
  · have hlimit' : ¬ maxParameterSets < (rest data scan).count + count := hlimit
    rw [if_neg hlimit', exec_bind_ok (exec_when_false hlimit _ _)]
    exact answers_skipSets count _ hcounted

theorem answers_hevcArrays (arrays : Nat) :
    Answers data (hevcArrays data arrays) (unit (·.hevcArrays arrays)) := by
  induction arrays with
  | zero => exact answers_pure ()
  | succ arrays ih =>
      exact answers_byte.bind_unit fun kind => answers_when_fail
        (answers_u16.bind_unit fun count => (answers_sets count).andThen ih)

theorem answers_hevc : Answers data (hevc data) (unit preflightHevc) :=
  (answers_skip 22).andThen (answers_byte.bind_unit fun arrays =>
    answers_when_fail (answers_hevcArrays arrays.toNat))

theorem answers_highProfile : Answers data (highProfile data) (unit fun reader => do
    let reader ← reader.skip 3
    let (extensions, reader) ← reader.byte
    if extensions ≠ 0 then throw (.unsupported "AVC SPS extensions")
    return reader) :=
  (answers_skip 3).andThen (answers_byte.bind_unit fun _ => answers_when_last)

theorem answers_avcTail : Answers data (avcTail data) (unit Bitstream.avcTail) := by
  intro scan hscan
  unfold avcTail unit Bitstream.avcTail
  rw [exec_read_bind]
  dsimp only
  by_cases hend : scan.offset < data.length
  · rw [if_neg (rest_eq_nil.not.mpr (Nat.not_le.mpr hend)), exec_when_true hend]
    exact answers_highProfile scan hscan
  · rw [if_pos (rest_eq_nil.mpr (Nat.not_lt.mp hend)), exec_when_false hend]
    exact ⟨hscan, rfl⟩

theorem answers_avc : Answers data (avc data) (unit preflightAvc) :=
  (answers_skip 5).andThen (answers_byte.bind_unit fun sps =>
    (answers_sets (sps &&& 31).toNat).andThen (answers_byte.bind_unit fun pps =>
      (answers_sets pps.toNat).andThen answers_avcTail))

theorem answers_finish : Answers data (finish data) (unit fun reader =>
    if reader.remaining ≠ [] then .error (.malformed "configuration trailing bytes")
    else .ok reader) := by
  intro scan hscan
  have hoffset := hscan.offset
  unfold finish unit
  rw [exec_read_bind]
  dsimp only
  by_cases hend : scan.offset ≠ data.length
  · rw [exec_when_true hend, if_pos (rest_eq_nil.not.mpr (by omega))]
    exact ⟨hscan, rfl⟩
  · rw [exec_when_false hend, if_neg (not_not.mpr (rest_eq_nil.mpr (by omega)))]
    exact ⟨hscan, rfl⟩

theorem answers_scan (codec : Codec) : Answers data (scan data codec) (unit fun reader => do
    let reader ← if codec = .avc then preflightAvc reader else preflightHevc reader
    if reader.remaining ≠ [] then .error (.malformed "configuration trailing bytes")
    else .ok reader) := by
  cases codec with
  | avc => exact answers_avc.andThen answers_finish
  | hevc => exact answers_hevc.andThen answers_finish

/-- The scan over offsets is `preflight`, and what it reads lies in the record even when it
fails. -/
theorem scan_preflight (codec : Codec) (data : Bytes) :
    (exec (scan data codec) start).1 = preflight codec data ∧
      Inside data (exec (scan data codec) start).2 := by
  obtain ⟨hinside, hanswer⟩ := @answers_scan data codec start ⟨Nat.zero_le _, nofun⟩
  refine ⟨?_, hinside⟩
  have hresult : (exec (scan data codec) start).1 =
      ((exec (scan data codec) start).1.map fun a =>
        (a, rest data (exec (scan data codec) start).2)).map Prod.fst := by
    cases (exec (scan data codec) start).1 <;> rfl
  rw [hresult, hanswer]
  have hends : ∀ answer : Except BitstreamError RecordBounds,
      (unit (fun reader => answer >>= fun reader =>
        if reader.remaining ≠ [] then .error (.malformed "configuration trailing bytes")
        else .ok reader) (rest data start)).map Prod.fst =
      answer >>= fun reader => if reader.remaining ≠ [] then
        throw (.malformed "configuration trailing bytes") else pure () := by
    intro answer
    cases answer with
    | error error => rfl
    | ok reader =>
        change ((if reader.remaining ≠ [] then _ else _ : Except _ _).map _).map _ =
          if reader.remaining ≠ [] then _ else _
        split <;> rfl
  cases codec with
  | avc => exact hends (preflightAvc ⟨data, 0⟩)
  | hevc => exact hends (preflightHevc ⟨data, 0⟩)

end RecordScan

/-! ## The bounded grammar -/

/-- `preflight` lets exactly the records of the bounded grammar through, as a scan that
never leaves the bytes it was given. -/
structure BoundedPreflight (codec : Codec) (data : Bytes) : Prop where
  grammar : preflight codec data = .ok () ↔ IsRecord codec data
  scans : (Program.exec (RecordScan.scan data codec) RecordScan.start).1 = preflight codec data
  inside : RecordScan.Inside data (Program.exec (RecordScan.scan data codec) RecordScan.start).2

theorem boundedPreflight (codec : Codec) (data : Bytes) : BoundedPreflight codec data where
  grammar := preflight_ok codec data
  scans := (RecordScan.scan_preflight codec data).1
  inside := (RecordScan.scan_preflight codec data).2

end PicooCamera.Bitstream
