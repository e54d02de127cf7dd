import TradeOps.Lib.JsImage
import TradeOps.Telemetry.Schema

/-!
# What `canonicalInput` accepts

The bytes that `canonicalInput` takes are the encodings of canonical texts, and no two of them stand
for one value. The order in which an object lists its properties is not part of its value, so values
are compared up to it.
-/

namespace TradeOps.Telemetry

open JsString JsValue Checks Patterns

/-- A value that a canonical document may stand for. -/
structure Canonical (value : JsValue) : Prop where
  distinct : value.distinct = true
  safe : value.safe = true
  depth : value.depth ≤ 16

theorem canonicalStringify_ok_iff {value : JsValue} {raw : String} :
    canonicalStringify value = .ok raw ↔ value.safe = true ∧ raw = String.ofList value.text := by
  unfold canonicalStringify
  split_ifs with hsafe
  · rw [Except.ok.injEq]
    exact ⟨fun h => ⟨hsafe, h.symm⟩, fun h => h.2.symm⟩
  · exact ⟨nofun, fun h => absurd h.1 hsafe⟩

/-- The bytes are taken when they encode a text of allowed size that is read and printed as it
was. -/
theorem canonicalInput_ok_iff {bytes : ByteArray} {max : Nat} {value : JsValue} :
    canonicalInput bytes max = .ok value ↔ bytes.size ≠ 0 ∧ bytes.size ≤ max ∧
      ∃ raw, String.fromUTF8? bytes = some raw ∧ parse raw.toList = some value ∧
        value.depth ≤ 16 ∧ canonicalStringify value = .ok raw := by
  unfold canonicalInput
  rw [then_ok_iff, then_ok_iff, failIf_ok_iff, failIf_ok_iff, not_lt]
  refine and_congr_right fun _ => and_congr_right fun _ => ?_
  cases hraw : String.fromUTF8? bytes with
  | none => simp
  | some raw =>
    cases hvalue : parse raw.toList with
    | none => simp [hvalue]
    | some read =>
      simp only [hvalue]
      split_ifs with haccepted
      · constructor
        · intro h
          cases h
          exact ⟨raw, rfl, hvalue, haccepted⟩
        · rintro ⟨raw', hraw', hvalue', -⟩
          cases hraw'
          rw [hvalue] at hvalue'
          rw [Option.some.inj hvalue']
      · constructor
        · nofun
        · rintro ⟨raw', hraw', hvalue', haccepted'⟩
          cases hraw'
          rw [hvalue] at hvalue'
          cases hvalue'
          exact absurd haccepted' haccepted

theorem eq_toUTF8_of_fromUTF8? {bytes : ByteArray} {raw : String}
    (h : String.fromUTF8? bytes = some raw) : bytes = raw.toUTF8 := by
  unfold String.fromUTF8? at h
  split_ifs at h with hvalid
  rw [← Option.some.inj h]
  rfl

theorem size_toUTF8_ne_zero (value : JsValue) : (String.ofList value.text).toUTF8.size ≠ 0 := by
  obtain ⟨ch, tail, htext, -⟩ := text_head value
  have := Char.utf8Size_pos ch
  rw [String.toUTF8_eq_toByteArray, String.size_toByteArray, htext, utf8ByteSize_ofList_cons]
  omega

/-- A value that is taken is canonical, and the bytes are its text. -/
theorem canonical_of_canonicalInput {bytes : ByteArray} {max : Nat} {value : JsValue}
    (h : canonicalInput bytes max = .ok value) :
    Canonical value ∧ bytes = (String.ofList value.text).toUTF8 := by
  obtain ⟨-, -, raw, hraw, hvalue, hdepth, hprinted⟩ := canonicalInput_ok_iff.mp h
  obtain ⟨hsafe, rfl⟩ := canonicalStringify_ok_iff.mp hprinted
  exact ⟨⟨distinct_of_parse hvalue, hsafe, hdepth⟩, eq_toUTF8_of_fromUTF8? hraw⟩

/-- The text of a canonical value is taken, and its representative is returned. -/
theorem canonicalInput_of_canonical {max : Nat} {value : JsValue} (h : Canonical value)
    (hsize : (String.ofList value.text).toUTF8.size ≤ max) :
    canonicalInput (String.ofList value.text).toUTF8 max = .ok (inOrder value) := by
  refine canonicalInput_ok_iff.mpr ⟨size_toUTF8_ne_zero value, hsize, String.ofList value.text,
    fromUTF8?_toUTF8 _, ?_, ?_, ?_⟩
  · rw [String.toList_ofList]
    exact parse_text_inOrder h.distinct
  · rw [depth_inOrder]
    exact h.depth
  · rw [canonicalStringify_ok_iff, safe_inOrder, text_inOrder]
    exact ⟨h.safe, rfl⟩

theorem parse_byteOrderMark (rest : List Char) : parse ('\uFEFF' :: rest) = none := by
  have hspace : skipSpace ('\uFEFF' :: rest) = '\uFEFF' :: rest := skipSpace_cons (by decide)
  have hvalue : parseValue (('\uFEFF' :: rest).length + 1) ('\uFEFF' :: rest) = none := by
    rw [parseValue, hspace]
    rfl
  rw [parse, parseDocument, hvalue]
  rfl

/-- Within the size limit exactly the encodings of canonical texts are taken, each for its value; no
other spelling is taken, and no value has two. -/
theorem canonicalInput_image (max : Nat) :
    (∀ bytes : ByteArray, bytes.size ≤ max →
      ((∃ value, canonicalInput bytes max = .ok value) ↔
        ∃ value raw, value.distinct = true ∧ value.depth ≤ 16 ∧
          canonicalStringify value = .ok raw ∧ bytes = raw.toUTF8)) ∧
    (∀ value raw, value.distinct = true → value.depth ≤ 16 → canonicalStringify value = .ok raw →
      raw.toUTF8.size ≤ max →
      ∃ returned, canonicalInput raw.toUTF8 max = .ok returned ∧ Same value returned) ∧
    (∀ (raw : String) value, parse raw.toList = some value → canonicalStringify value ≠ .ok raw →
      ∀ returned, canonicalInput raw.toUTF8 max ≠ .ok returned) ∧
    (∀ (text : List Char) returned,
      canonicalInput (String.ofList ('\uFEFF' :: text)).toUTF8 max ≠ .ok returned) ∧
    ∀ bytes bytes' value value', canonicalInput bytes max = .ok value →
      canonicalInput bytes' max = .ok value' → Same value value' → bytes = bytes' := by
  refine ⟨fun bytes hsize => ⟨?_, ?_⟩, ?_, ?_, ?_, ?_⟩
  · rintro ⟨value, h⟩
    obtain ⟨hcanonical, hbytes⟩ := canonical_of_canonicalInput h
    exact ⟨value, String.ofList value.text, hcanonical.distinct, hcanonical.depth,
      canonicalStringify_ok_iff.mpr ⟨hcanonical.safe, rfl⟩, hbytes⟩
  · rintro ⟨value, raw, hdistinct, hdepth, hprinted, rfl⟩
    obtain ⟨hsafe, rfl⟩ := canonicalStringify_ok_iff.mp hprinted
    exact ⟨inOrder value, canonicalInput_of_canonical ⟨hdistinct, hsafe, hdepth⟩ hsize⟩
  · intro value raw hdistinct hdepth hprinted hsize
    obtain ⟨hsafe, rfl⟩ := canonicalStringify_ok_iff.mp hprinted
    exact ⟨inOrder value, canonicalInput_of_canonical ⟨hdistinct, hsafe, hdepth⟩ hsize,
      same_inOrder value⟩
  · intro raw value hvalue hspelling returned h
    obtain ⟨-, -, raw', hraw', hvalue', -, hprinted⟩ := canonicalInput_ok_iff.mp h
    rw [fromUTF8?_toUTF8, Option.some.injEq] at hraw'
    subst hraw'
    rw [hvalue, Option.some.injEq] at hvalue'
    subst hvalue'
    exact hspelling hprinted
  · intro text returned h
    obtain ⟨-, -, raw, hraw, hvalue, -⟩ := canonicalInput_ok_iff.mp h
    rw [fromUTF8?_toUTF8, Option.some.injEq] at hraw
    rw [← hraw, String.toList_ofList, parse_byteOrderMark] at hvalue
    cases hvalue
  · intro bytes bytes' value value' h h' hsame
    obtain ⟨hcanonical, rfl⟩ := canonical_of_canonicalInput h
    obtain ⟨hcanonical', rfl⟩ := canonical_of_canonicalInput h'
    rw [(text_eq_iff_same hcanonical.distinct hcanonical'.distinct).mpr hsame]

end TradeOps.Telemetry
