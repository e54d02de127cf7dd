import TradeOps.Agent.Values

/-!
# Record frames

Embeds `TradeOpsTelemetryRecord.mqh`: a payload is stored between a header line, which names its
kind, its generation and its length, and a footer line with the digest of what stands before it.
`recordDecode_of_recordEncode`: a frame that was encoded is decoded to what it was made of.
-/

namespace TradeOps.Agent

open Patterns (hexChar)

/-- SHA-256, printed as hexadecimal digits. -/
structure Sha256 where
  hex : Bytes → Text
  length_hex : ∀ bytes, (hex bytes).length = 64
  all_hex : ∀ bytes, (hex bytes).all hexChar = true

def headerMax : Nat := 128

def footerSize : Nat := 73

def frameMax : Nat := 262345

def registrationKind : Text := "REGISTRATION".toList

def eventKind : Text := "EVENT".toList

def pendingKind : Text := "PENDING".toList

def ackKind : Text := "ACK".toList

def checkpointKind : Text := "CHECKPOINT".toList

def recordKinds : List Text := [registrationKind, eventKind, pendingKind, ackKind, checkpointKind]

local instance lawful_text : LawfulBEq Text := inferInstance

def recordKind (kind : Text) : Bool := kind ∈ recordKinds

def recordHash (sha : Sha256) (bytes : Bytes) : Option Text :=
  if 1 ≤ bytes.length ∧ bytes.length ≤ payloadMax + headerMax then some (sha.hex bytes) else none

def recordMagic : Text := "TOV2R1".toList

/-- The header without its line end. -/
def recordHeader (kind : Text) (generation size : Nat) : Text :=
  ['|'].intercalate [recordMagic, kind, localNumber generation, localNumber size]

def footerStart : Text := "\nSHA256|".toList

def recordEncode (sha : Sha256) (kind : Text) (generation : Nat) (payload : Bytes) :
    Option Bytes :=
  if recordKind kind ∧ counter generation 1 ∧ 1 ≤ payload.length ∧ payload.length ≤ payloadMax then
    let header := recordHeader kind generation payload.length ++ ['\n']
    let body := toBytes header ++ payload
    match recordHash sha body with
    | some digest =>
      let footer := footerStart ++ digest ++ ['\n']
      if header.length ≤ headerMax ∧ footer.length = footerSize ∧
          body.length + footerSize ≤ frameMax then
        some (body ++ toBytes footer)
      else none
    | none => none
  else none

/-- The kind, the generation and the length that a header line names. -/
def decodeHeader (header : Text) : Option (Text × Nat × Nat) :=
  match header.splitOn '|' with
  | [magic, kind, generation, size] =>
    match counterFromText generation 1, counterFromText size 1 with
    | some generation, some size =>
      if magic = recordMagic ∧ recordKind kind ∧ size ≤ payloadMax ∧
          recordHeader kind generation size = header then
        some (kind, generation, size)
      else none
    | _, _ => none
  | _ => none

/-- The digest that a footer carries. -/
def decodeFooter (footer : Bytes) : Option Text :=
  let digest := ofBytes ((footer.drop 8).take 64)
  if footer.length = footerSize ∧ footer.take 8 = toBytes footerStart ∧
      footer.getLast? = some 10 ∧ digest.all hexChar then
    some digest
  else none

def recordDecode (sha : Sha256) (frame : Bytes) : Option (Text × Nat × Bytes) :=
  let header := frame.takeWhile (· ≠ 10)
  if footerSize + 2 ≤ frame.length ∧ frame.length ≤ frameMax ∧ 1 ≤ header.length ∧
      header.length < min frame.length headerMax ∧ header.all (fun b => 32 ≤ b ∧ b ≤ 126) then
    match decodeHeader (ofBytes header) with
    | some (kind, generation, size) =>
      let body := frame.take (header.length + 1 + size)
      match decodeFooter (frame.drop (header.length + 1 + size)), recordHash sha body with
      | some digest, some expected =>
        if expected = digest then
          some (kind, generation, (frame.drop (header.length + 1)).take size)
        else none
      | _, _ => none
    | none => none
  else none

/-! ## The parts are read back -/

/-- The characters of a header: printable, and no bar inside a field. -/
def headerChar (ch : Char) : Bool := 32 ≤ ch.toNat ∧ ch.toNat ≤ 126 ∧ ch ≠ '|'

theorem headerChar_of_isDigit {ch : Char} (h : ch.isDigit = true) : headerChar ch = true := by
  simp only [Char.isDigit, Bool.and_eq_true, decide_eq_true_eq, ge_iff_le] at h
  have hlow : 48 ≤ ch.toNat := h.1
  have hhigh : ch.toNat ≤ 57 := h.2
  have hbar : ch ≠ '|' := by
    rintro rfl
    exact absurd hhigh (by decide)
  simp only [headerChar, decide_eq_true_eq]
  exact ⟨by omega, by omega, hbar⟩

theorem headerChar_of_recordKind {kind : Text} (h : recordKind kind = true) {ch : Char}
    (hch : ch ∈ kind) : headerChar ch = true := by
  have hall : recordKinds.all (fun k => k.all headerChar) = true := by decide
  simp only [recordKind, decide_eq_true_eq] at h
  exact List.all_eq_true.mp (List.all_eq_true.mp hall kind h) ch hch

theorem headerFields {kind : Text} (h : recordKind kind = true) (generation size : Nat) :
    ∀ field ∈ [recordMagic, kind, localNumber generation, localNumber size],
      ∀ ch ∈ field, headerChar ch = true := by
  intro field hfield ch hch
  simp only [List.mem_cons, List.not_mem_nil, or_false] at hfield
  rcases hfield with rfl | rfl | rfl | rfl
  · have hall : recordMagic.all headerChar = true := by decide
    exact List.all_eq_true.mp hall ch hch
  · exact headerChar_of_recordKind h hch
  · exact headerChar_of_isDigit (isDigit_of_mem_localNumber hch)
  · exact headerChar_of_isDigit (isDigit_of_mem_localNumber hch)

theorem mem_recordHeader {kind : Text} (h : recordKind kind = true) {generation size : Nat}
    {ch : Char} (hch : ch ∈ recordHeader kind generation size) :
    32 ≤ ch.toNat ∧ ch.toNat ≤ 126 := by
  have hfields := headerFields h generation size
  simp only [recordHeader, List.intercalate, List.intersperse, List.flatten_cons, List.flatten_nil,
    List.append_nil, List.mem_append, List.mem_singleton] at hch
  have hprintable : ∀ field ∈ [recordMagic, kind, localNumber generation, localNumber size],
      ch ∈ field → 32 ≤ ch.toNat ∧ ch.toNat ≤ 126 := by
    intro field hfield hmem
    have := hfields field hfield ch hmem
    simp only [headerChar, decide_eq_true_eq] at this
    exact ⟨this.1, this.2.1⟩
  have hbar : ch = '|' → 32 ≤ ch.toNat ∧ ch.toNat ≤ 126 := by
    rintro rfl
    decide
  rcases hch with hch | hch | hch | hch | hch | hch | hch
  · exact hprintable recordMagic (by simp) hch
  · exact hbar hch
  · exact hprintable kind (by simp) hch
  · exact hbar hch
  · exact hprintable (localNumber generation) (by simp) hch
  · exact hbar hch
  · exact hprintable (localNumber size) (by simp) hch

theorem decodeHeader_recordHeader {kind : Text} {generation size : Nat}
    (hkind : recordKind kind = true) (hgeneration : counter generation 1 = true)
    (hsize : 1 ≤ size ∧ size ≤ payloadMax) :
    decodeHeader (recordHeader kind generation size) = some (kind, generation, size) := by
  have hbar : ∀ field ∈ [recordMagic, kind, localNumber generation, localNumber size],
      '|' ∉ field := by
    intro field hfield hmem
    exact absurd (headerFields hkind generation size field hfield '|' hmem) (by decide)
  have hcounter : counter size 1 = true := by
    have hmax : payloadMax ≤ maxCounter := by decide
    simp only [counter, decide_eq_true_eq]
    omega
  have hsplit : (recordHeader kind generation size).splitOn '|' =
      [recordMagic, kind, localNumber generation, localNumber size] :=
    List.splitOn_intercalate '|' hbar (List.cons_ne_nil _ _)
  rw [decodeHeader, hsplit]
  simp only [counterFromText_localNumber hgeneration, counterFromText_localNumber hcounter]
  rw [if_pos ⟨trivial, hkind, hsize.2, trivial⟩]

theorem hexChar_ascii {ch : Char} (h : hexChar ch = true) : ch.toNat < 128 := by
  simp only [hexChar, decide_eq_true_eq] at h
  rcases h with ⟨-, h⟩ | ⟨-, h⟩
  · exact lt_of_le_of_lt (Char.le_def.1 h) (by decide)
  · exact lt_of_le_of_lt (Char.le_def.1 h) (by decide)

theorem length_footerStart : footerStart.length = 8 := by decide

theorem decodeFooter_toBytes {digest : Text} (hlength : digest.length = 64)
    (hhex : digest.all hexChar = true) :
    decodeFooter (toBytes (footerStart ++ digest ++ ['\n'])) = some digest := by
  have hsize : (toBytes (footerStart ++ digest ++ ['\n'])).length = footerSize := by
    rw [length_toBytes]
    simp only [List.length_append, length_footerStart, hlength, List.length_singleton]
    rfl
  have htake : (toBytes (footerStart ++ digest ++ ['\n'])).take 8 = toBytes footerStart := by
    rw [List.append_assoc, toBytes_append]
    exact List.take_left' (by rw [length_toBytes, length_footerStart])
  have hdrop : ((toBytes (footerStart ++ digest ++ ['\n'])).drop 8).take 64 = toBytes digest := by
    rw [List.append_assoc, toBytes_append, List.drop_left'
      (by rw [length_toBytes, length_footerStart]), toBytes_append]
    exact List.take_left' (by rw [length_toBytes, hlength])
  have hlast : (toBytes (footerStart ++ digest ++ ['\n'])).getLast? = some 10 := by
    rw [toBytes_append]
    exact List.getLast?_concat
  have hback : ofBytes (toBytes digest) = digest :=
    ofBytes_toBytes fun ch hch => hexChar_ascii (List.all_eq_true.mp hhex ch hch)
  simp only [decodeFooter, hsize, htake, hdrop, hlast, hback, hhex, and_self, if_true]

/-! ## Frames are read back -/

theorem takeWhile_header {header : Text} (h : ∀ ch ∈ header, 32 ≤ ch.toNat ∧ ch.toNat ≤ 126)
    (rest : Bytes) :
    (toBytes header ++ 10 :: rest).takeWhile (· ≠ 10) = toBytes header := by
  have hnone : ∀ b ∈ toBytes header, (decide (b ≠ 10)) = true := by
    intro b hb
    obtain ⟨ch, hch, rfl⟩ := List.mem_map.mp hb
    have hrange := h ch hch
    rw [decide_eq_true_eq]
    intro hten
    have hnat := congrArg UInt8.toNat hten
    rw [UInt8.toNat_ofNat', Nat.mod_eq_of_lt (by omega)] at hnat
    have : (10 : UInt8).toNat = 10 := by decide
    omega
  rw [List.takeWhile_append_of_pos hnone]
  simp

theorem all_printable {header : Text} (h : ∀ ch ∈ header, 32 ≤ ch.toNat ∧ ch.toNat ≤ 126) :
    (toBytes header).all (fun b => 32 ≤ b ∧ b ≤ 126) = true := by
  rw [List.all_eq_true]
  intro b hb
  obtain ⟨ch, hch, rfl⟩ := List.mem_map.mp hb
  have hrange := h ch hch
  rw [decide_eq_true_eq, UInt8.le_iff_toNat_le, UInt8.le_iff_toNat_le, UInt8.toNat_ofNat',
    Nat.mod_eq_of_lt (by omega)]
  exact hrange

/-- A frame is what was encoded; nothing else is found in it. -/
theorem recordDecode_of_recordEncode {sha : Sha256} {kind : Text} {generation : Nat}
    {payload frame : Bytes} (h : recordEncode sha kind generation payload = some frame) :
    recordDecode sha frame = some (kind, generation, payload) := by
  simp only [recordEncode] at h
  split at h
  next hok =>
    obtain ⟨hkind, hgeneration, hsize⟩ := hok
    split at h
    next digest hdigest =>
      split at h
      next hfits =>
        rw [Option.some.injEq] at h
        obtain ⟨hheader, hfooter, hframe⟩ := hfits
        have hprintable : ∀ ch ∈ recordHeader kind generation payload.length,
            32 ≤ ch.toNat ∧ ch.toNat ≤ 126 := fun ch hch => mem_recordHeader hkind hch
        generalize hname : recordHeader kind generation payload.length = header at *
        have hread : decodeHeader header = some (kind, generation, payload.length) := by
          rw [← hname]
          exact decodeHeader_recordHeader hkind hgeneration hsize
        have hback : ofBytes (toBytes header) = header :=
          ofBytes_toBytes fun ch hch => by
            have := hprintable ch hch
            omega
        have hhash : digest.length = 64 ∧ digest.all hexChar = true := by
          rw [recordHash] at hdigest
          split at hdigest
          next =>
            rw [Option.some.injEq] at hdigest
            rw [← hdigest]
            exact ⟨sha.length_hex _, sha.all_hex _⟩
          next => contradiction
        -- The frame in the two ways in which it is taken apart.
        have hbody : toBytes (header ++ ['\n']) = toBytes header ++ [10] := toBytes_append _ _
        have hlines : frame = toBytes header ++ 10 :: (payload ++ toBytes (footerStart ++ digest ++
            ['\n'])) := by
          rw [← h, hbody]
          simp
        have hnonempty : 1 ≤ header.length := by
          rw [← hname, recordHeader]
          simp only [List.intercalate, List.intersperse, List.flatten_cons, List.length_append,
            List.length_singleton]
          omega
        have hlength : (toBytes header).length = header.length := length_toBytes header
        have htotal : frame.length = header.length + 1 + payload.length + footerSize := by
          rw [← h, List.length_append, List.length_append, hbody, List.length_append, hlength,
            length_toBytes, hfooter]
          rfl
        have htake : frame.take (header.length + 1 + payload.length) =
            toBytes (header ++ ['\n']) ++ payload := by
          rw [← h]
          refine List.take_left' ?_
          rw [List.length_append, length_toBytes, List.length_append, List.length_singleton]
        have hdrop : frame.drop (header.length + 1 + payload.length) =
            toBytes (footerStart ++ digest ++ ['\n']) := by
          rw [← h]
          refine List.drop_left' ?_
          rw [List.length_append, length_toBytes, List.length_append, List.length_singleton]
        have hpayload : (frame.drop (header.length + 1)).take payload.length = payload := by
          rw [← h, List.append_assoc, List.drop_left']
          · exact List.take_left' rfl
          · rw [length_toBytes, List.length_append, List.length_singleton]
        have hwhile : frame.takeWhile (· ≠ 10) = toBytes header := by
          rw [hlines]
          exact takeWhile_header hprintable _
        have hlimit : header.length < min frame.length headerMax := by
          rw [List.length_append, List.length_singleton] at hheader
          omega
        have hmost : frame.length ≤ frameMax := by
          rw [List.length_append, length_toBytes, List.length_append, List.length_singleton]
            at hframe
          omega
        rw [recordDecode]
        simp only [hwhile, hlength, hback, hread, htake, hdrop, hpayload, hdigest,
          decodeFooter_toBytes hhash.1 hhash.2, if_true]
        rw [if_pos ⟨by omega, hmost, hnonempty, hlimit, all_printable hprintable⟩]
      next => contradiction
    next => contradiction
  next => contradiction

/-- The length of a frame. -/
theorem length_of_recordEncode {sha : Sha256} {kind : Text} {generation : Nat}
    {payload frame : Bytes} (h : recordEncode sha kind generation payload = some frame) :
    1 ≤ frame.length ∧ frame.length ≤ frameMax := by
  simp only [recordEncode] at h
  split at h
  next hok =>
    split at h
    next digest hdigest =>
      split at h
      next hfits =>
        rw [Option.some.injEq] at h
        have hlength : frame.length = (toBytes (recordHeader kind generation payload.length ++
            ['\n']) ++ payload).length + footerSize := by
          rw [← h, List.length_append, length_toBytes, hfits.2.1]
        have hfooter : footerSize = 73 := rfl
        have hmost := hfits.2.2
        omega
      next => contradiction
    next => contradiction
  next => contradiction

end TradeOps.Agent
