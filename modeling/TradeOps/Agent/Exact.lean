import TradeOps.Agent.Codec

/-!
# Exactness of the local codecs

A frame that is decoded is the one that its kind, generation and payload are encoded to, and a valid
state or commit has an encoding: its lines are short enough for the payload of a record, also with
as many events as there may be.
-/

namespace TradeOps.Agent

open Patterns (hexChar identifierChar Choice)

/-! ## Records -/

section Records

variable {sha : Sha256} {kind : Text} {generation : Nat} {payload frame : Bytes}

/-- Every byte is the number of a character. -/
theorem toBytes_ofBytes (bytes : Bytes) : toBytes (ofBytes bytes) = bytes := by
  rw [toBytes, ofBytes, List.map_map]
  conv_rhs => rw [← List.map_id bytes]
  refine List.map_congr_left fun b _ => ?_
  have hsmall := b.toNat_lt
  have hvalid : b.toNat.isValidChar := by
    left
    omega
  have hchar : (Char.ofNat b.toNat).toNat = b.toNat := by
    rw [Char.ofNat, dif_pos hvalid]
    rfl
  show UInt8.ofNat (Char.ofNat b.toNat).toNat = b
  rw [hchar, UInt8.ofNat_toNat]

/-- The parts of a header that was decoded. -/
theorem decodeHeader_some {header : Text} {size : Nat}
    (h : decodeHeader header = some (kind, generation, size)) :
    recordKind kind = true ∧ counter generation 1 = true ∧ 1 ≤ size ∧ size ≤ payloadMax ∧
      recordHeader kind generation size = header := by
  unfold decodeHeader at h
  split at h
  · split at h
    · rename_i hgeneration hsize
      split at h
      · rename_i hok
        obtain ⟨-, hkind, hmax, hheader⟩ := hok
        cases h
        have hcounter := counter_of_counterFromText hsize
        simp only [counter, decide_eq_true_eq] at hcounter
        exact ⟨hkind, counter_of_counterFromText hgeneration, hcounter.1, hmax, hheader⟩
      · cases h
    · cases h
  · cases h

/-- A footer that was decoded is the one of its digest. -/
theorem decodeFooter_some {footer : Bytes} {digest : Text} (h : decodeFooter footer = some digest) :
    digest.length = 64 ∧ footer = toBytes (footerStart ++ digest ++ ['\n']) := by
  unfold decodeFooter at h
  dsimp only at h
  split at h
  · rename_i hok
    obtain ⟨hlength, hstart, hlast, -⟩ := hok
    cases h
    have hsize : footerSize = 73 := rfl
    have hmiddle : ((footer.drop 8).take 64).length = 64 := by
      rw [List.length_take, List.length_drop]
      omega
    have hend : footer.drop 72 = [10] := by
      have hone : (footer.drop 72).length = 1 := by
        rw [List.length_drop]
        omega
      obtain ⟨b, hb⟩ := List.length_eq_one_iff.1 hone
      rw [← List.take_append_drop 72 footer, hb, List.getLast?_concat, Option.some.injEq] at hlast
      rw [hb, hlast]
    refine ⟨by rw [ofBytes, List.length_map, hmiddle], ?_⟩
    rw [toBytes_append, toBytes_append, toBytes_ofBytes, ← hstart, ← List.take_add]
    conv_lhs => rw [← List.take_append_drop 72 footer, hend]
    rfl
  · cases h

theorem recordHash_some {bytes : Bytes} {digest : Text} (h : recordHash sha bytes = some digest) :
    digest = sha.hex bytes := by
  rw [recordHash] at h
  split at h
  · exact (Option.some.inj h).symm
  · cases h

/-- The header line of a frame ends at its first line end. -/
theorem take_header (h : (frame.takeWhile fun b => decide (b ≠ 10)).length < frame.length) :
    frame.take ((frame.takeWhile fun b => decide (b ≠ 10)).length + 1) =
      (frame.takeWhile fun b => decide (b ≠ 10)) ++ [10] := by
  have hsplit := List.takeWhile_append_dropWhile (p := fun b => decide (b ≠ 10)) (l := frame)
  cases hrest : frame.dropWhile fun b => decide (b ≠ 10) with
  | nil =>
    rw [hrest, List.append_nil] at hsplit
    rw [hsplit] at h
    exact absurd h (lt_irrefl _)
  | cons b rest =>
    have hb : b = 10 := by
      have hnot := List.head?_dropWhile_not (fun b => decide (b ≠ 10)) frame
      rw [hrest] at hnot
      simpa using hnot
    rw [hrest, hb] at hsplit
    generalize (frame.takeWhile fun b => decide (b ≠ 10)) = line at hsplit
    have hframe : (line ++ [10]) ++ rest = frame := by simpa using hsplit
    rw [← hframe]
    exact List.take_left' (by simp)

/-- A frame that was decoded is the one that its parts are encoded to. -/
theorem recordEncode_of_recordDecode
    (h : recordDecode sha frame = some (kind, generation, payload)) :
    recordEncode sha kind generation payload = some frame := by
  unfold recordDecode at h
  dsimp only at h
  split at h
  · rename_i hframe
    obtain ⟨-, hmax, hnonempty, hheader, -⟩ := hframe
    split at h
    · rename_i kind' generation' size hparts
      split at h
      · rename_i digest expected hfooter hhash
        split at h
        · rename_i heq
          cases h
          obtain ⟨hkind, hgeneration, hlow, hhigh, hname⟩ := decodeHeader_some hparts
          obtain ⟨hdigest, hend⟩ := decodeFooter_some hfooter
          have hline := take_header (lt_of_lt_of_le hheader (min_le_left _ _))
          obtain ⟨n, hn⟩ : ∃ n, n = (frame.takeWhile fun b => decide (b ≠ 10)).length := ⟨_, rfl⟩
          rw [← hn] at hheader hnonempty hhash hend hline ⊢
          have hsize : footerSize = 73 := rfl
          have hstart : footerStart.length = 8 := length_footerStart
          have htotal : frame.length = n + 1 + size + footerSize := by
            have hlength := congrArg List.length hend
            rw [List.length_drop, length_toBytes, List.length_append, List.length_append, hstart,
              hdigest, List.length_singleton] at hlength
            omega
          have hpayload : ((frame.drop (n + 1)).take size).length = size := by
            rw [List.length_take, List.length_drop]
            omega
          have hbody : toBytes (recordHeader kind generation size ++ ['\n']) ++
              (frame.drop (n + 1)).take size = frame.take (n + 1 + size) := by
            rw [hname, toBytes_append, toBytes_ofBytes, List.take_add, hline]
            rfl
          have hname' : (recordHeader kind generation size).length = n := by
            rw [hname, ofBytes, List.length_map, hn]
          have hfooter' : (footerStart ++ digest ++ ['\n']).length = footerSize := by
            rw [List.length_append, List.length_append, hstart, hdigest, List.length_singleton]
            rfl
          have hbodyLength : (frame.take (n + 1 + size)).length = n + 1 + size := by
            rw [List.length_take]
            omega
          have hheader' : (recordHeader kind generation size ++ ['\n']).length = n + 1 := by
            rw [List.length_append, hname', List.length_singleton]
          rw [recordEncode, hpayload, if_pos ⟨hkind, hgeneration, hlow, hhigh⟩]
          dsimp only
          rw [hbody, hhash, heq]
          dsimp only
          rw [if_pos ⟨by omega, hfooter', by omega⟩, ← hend, List.take_append_drop]
        · cases h
      · cases h
    · cases h
  · cases h

end Records

/-! ## Lines fit into a payload -/

/-- A printable character. -/
def printable (ch : Char) : Bool := 32 ≤ ch.toNat ∧ ch.toNat ≤ 126

/-- A field of a line: not empty, not too long, and printable. -/
structure Fits (max : Nat) (field : Text) : Prop where
  nonempty : 1 ≤ field.length
  short : field.length ≤ max
  printable : field.all printable = true

section Lines

variable {max : Nat} {field : Text} {fields : List Text}

theorem Fits.mono {max' : Nat} (h : Fits max field) (hmax : max ≤ max') : Fits max' field :=
  ⟨h.nonempty, h.short.trans hmax, h.printable⟩

theorem Fits.line (h : Fits max field) : '\n' ∉ field := fun hmem =>
  absurd (List.all_eq_true.1 h.printable _ hmem) (by decide)

theorem printable_of_le {low high ch : Char} (h : low ≤ ch ∧ ch ≤ high) (hlow : 32 ≤ low.toNat)
    (hhigh : high.toNat ≤ 126) : printable ch = true := by
  have hfrom : low.toNat ≤ ch.toNat := h.1
  have hto : ch.toNat ≤ high.toNat := h.2
  exact decide_eq_true ⟨hlow.trans hfrom, hto.trans hhigh⟩

theorem printable_hexChar {ch : Char} (h : hexChar ch = true) : printable ch = true := by
  simp only [hexChar, decide_eq_true_eq] at h
  rcases h with h | h
  · exact printable_of_le h (by decide) (by decide)
  · exact printable_of_le h (by decide) (by decide)

theorem printable_identifierChar {ch : Char} (h : identifierChar ch = true) :
    printable ch = true := by
  simp only [identifierChar, decide_eq_true_eq] at h
  rcases h with h | h | h | rfl | rfl | rfl | rfl
  · exact printable_of_le h (by decide) (by decide)
  · exact printable_of_le h (by decide) (by decide)
  · exact printable_of_le h (by decide) (by decide)
  all_goals decide

theorem printable_isDigit {ch : Char} (h : ch.isDigit = true) : printable ch = true := by
  have hdigit := headerChar_of_isDigit h
  simp only [headerChar, decide_eq_true_eq] at hdigit
  exact decide_eq_true ⟨hdigit.1, hdigit.2.1⟩

theorem fits_localNumber {value : Nat} (h : counter value = true) :
    Fits 16 (localNumber value) := by
  simp only [counter, decide_eq_true_eq] at h
  refine ⟨Nat.length_toDigits_pos, ?_, ?_⟩
  · rw [localNumber, Nat.length_toDigits_le_iff (by decide) (by decide)]
    exact lt_of_le_of_lt h.2 (by decide)
  · rw [List.all_eq_true]
    exact fun ch hch => printable_isDigit (isDigit_of_mem_localNumber hch)

theorem fits_counterText {text : Text} {minimum : Nat}
    (h : (counterFromText text minimum).isSome = true) : Fits 16 text := by
  unfold counterFromText at h
  split at h
  · rename_i hok
    obtain ⟨hlow, hhigh, hdigits, -, -⟩ := hok
    refine ⟨hlow, hhigh, ?_⟩
    rw [List.all_eq_true] at hdigits ⊢
    exact fun ch hch => printable_isDigit (hdigits ch hch)
  · cases h

theorem fits_digest {text : Text} (h : digest text = true) : Fits 64 text := by
  simp only [digest, decide_eq_true_eq] at h
  refine ⟨by omega, by omega, ?_⟩
  rw [List.all_eq_true]
  exact fun ch hch => printable_hexChar (List.all_eq_true.1 h.2.1 ch hch)

theorem fits_identifier {text : Text} (h : identifier text = true) : Fits 160 text := by
  simp only [identifier, decide_eq_true_eq] at h
  refine ⟨h.1, h.2.1, ?_⟩
  rw [List.all_eq_true]
  exact fun ch hch => printable_identifierChar (List.all_eq_true.1 h.2.2 ch hch)

theorem fits_ticket {text : Text} (h : ticket text = true) : Fits 20 text := by
  simp only [ticket, decide_eq_true_eq] at h
  refine ⟨h.1, h.2.1, ?_⟩
  rw [List.all_eq_true]
  exact fun ch hch => printable_isDigit (List.all_eq_true.1 h.2.2.2.1 ch hch)

theorem fits_dash : Fits 1 dash := ⟨by decide, by decide, by decide⟩

theorem length_lines (h : ∀ field ∈ fields, Fits max field) :
    (fields.flatMap fun f => f ++ ['\n']).length ≤ fields.length * (max + 1) := by
  induction fields with
  | nil => exact Nat.zero_le _
  | cons field rest ih =>
    have hfield := (h field List.mem_cons_self).short
    have hrest := ih fun f hf => h f (List.mem_cons_of_mem _ hf)
    rw [List.flatMap_cons, List.length_append, List.length_append, List.length_singleton,
      List.length_cons, Nat.add_mul]
    omega

theorem storable_lines (h : ∀ field ∈ fields, Fits max field) :
    (fields.flatMap fun f => f ++ ['\n']).all storable = true := by
  rw [List.all_flatMap, List.all_eq_true]
  intro field hfield
  rw [List.all_append, Bool.and_eq_true, List.all_eq_true]
  refine ⟨fun ch hch => ?_, by decide⟩
  have hprintable := of_decide_eq_true (List.all_eq_true.1 (h field hfield).printable ch hch)
  exact decide_eq_true (.inr hprintable)

/-- Lines that are short enough have bytes. -/
theorem localLines_of_fits {head events : List Text} {most : Nat} (hne : head ≠ [])
    (hhead : ∀ field ∈ head, Fits max field) (hevents : ∀ field ∈ events, Fits most field)
    (hsize : head.length * (max + 1) + events.length * (most + 1) ≤ payloadMax) :
    ∃ bytes, localLines (head ++ events) = some bytes := by
  have hfields : ∀ field ∈ head ++ events, 1 ≤ field.length ∧ '\n' ∉ field := by
    intro field hfield
    rcases List.mem_append.1 hfield with hfield | hfield
    · exact ⟨(hhead field hfield).nonempty, (hhead field hfield).line⟩
    · exact ⟨(hevents field hfield).nonempty, (hevents field hfield).line⟩
  have hlines : (head ++ events).all (fun f => decide (1 ≤ f.length ∧ '\n' ∉ f)) = true := by
    rw [List.all_eq_true]
    exact fun field hfield => decide_eq_true (hfields field hfield)
  have hlow : 1 ≤ ((head ++ events).flatMap fun f => f ++ ['\n']).length := by
    obtain ⟨first, rest, hcons⟩ := List.exists_cons_of_ne_nil hne
    rw [hcons]
    simp
    omega
  have hhigh := length_lines hhead
  have hhigh' := length_lines hevents
  rw [localLines, if_pos hlines, localBytes, if_pos]
  · exact ⟨_, rfl⟩
  · rw [List.flatMap_append] at hlow ⊢
    refine ⟨hlow, ?_, ?_⟩
    · rw [List.length_append]
      exact (Nat.add_le_add hhigh hhigh').trans hsize
    · rw [List.all_append, storable_lines hhead, storable_lines hevents]
      rfl

end Lines

/-! ## States and commits have an encoding -/

section Capacity

variable {r : LocalRef} {s : LocalState} {c : LocalCommit}

theorem fits_kind (kind : RefKind) : Fits 12 (choiceText kind) := by
  cases kind <;> exact ⟨by decide, by decide, by decide⟩

theorem fits_completeness (completeness : Completeness) : Fits 23 (choiceText completeness) := by
  cases completeness <;> exact ⟨by decide, by decide, by decide⟩

theorem fits_localError (error : LocalError) : Fits 23 (choiceText error) := by
  cases error <;> exact ⟨by decide, by decide, by decide⟩

theorem fits_transition (transition : Transition) : Fits 10 (choiceText transition) := by
  cases transition <;> exact ⟨by decide, by decide, by decide⟩

theorem fits_labels (h : r.labelled = true) :
    Fits 160 r.eventId ∧ Fits 64 r.recordSha ∧ Fits 20 r.dealId := by
  by_cases hevent : r.kind = .event
  · simp only [LocalRef.labelled, hevent, decide_eq_true_eq] at h
    obtain ⟨-, hid, hsha, hdeal⟩ := h
    refine ⟨fits_identifier hid, fits_digest hsha, ?_⟩
    by_cases hdash : r.dealId = dash
    · rw [hdash]
      exact fits_dash.mono (by decide)
    · rw [if_neg hdash] at hdeal
      exact fits_ticket hdeal.1
  · have hdashes : r.eventId = dash ∧ r.recordSha = dash ∧ r.dealId = dash := by
      unfold LocalRef.labelled at h
      split at h
      next hkind => exact absurd hkind hevent
      all_goals
        simp only [decide_eq_true_eq] at h
        exact ⟨h.2.1, h.2.2.1, h.2.2.2.1⟩
    rw [hdashes.1, hdashes.2.1, hdashes.2.2]
    exact ⟨fits_dash.mono (by decide), fits_dash.mono (by decide), fits_dash.mono (by decide)⟩

theorem all_intercalate {separator : Char} {fields : List Text} (hseparator : printable separator)
    (h : ∀ field ∈ fields, field.all printable = true) :
    ([separator].intercalate fields).all printable = true := by
  induction fields with
  | nil => rfl
  | cons field rest ih =>
    have hfield := h field List.mem_cons_self
    have hrest := ih fun f hf => h f (List.mem_cons_of_mem _ hf)
    cases rest with
    | nil => simpa [List.intercalate] using hfield
    | cons next rest =>
      simp only [List.intercalate, List.intersperse, List.flatten_cons, List.all_append,
        Bool.and_eq_true, List.all_cons, List.all_nil] at hrest ⊢
      exact ⟨hfield, ⟨hseparator, trivial⟩, hrest⟩

theorem fits_localRefText (h : localRefValid r = true) : Fits 392 (localRefText r) := by
  have hvalid := h
  simp only [localRefValid, decide_eq_true_eq] at hvalid
  obtain ⟨hgeneration, hordinal, hsha, hsequence, hrevision, -, hlabelled⟩ := hvalid
  obtain ⟨hid, hrecord, hdeal⟩ := fits_labels hlabelled
  have hgeneration' : counter r.generation = true := by
    simp only [counter, decide_eq_true_eq] at hgeneration ⊢
    omega
  have hkind := fits_kind r.kind
  have hfits := fits_localNumber hgeneration'
  have hfits' := fits_localNumber hordinal
  have hdigest := fits_digest hsha
  have hsequence' := fits_localNumber hsequence
  have hrevision' := fits_localNumber hrevision
  rw [localRefText, if_pos h]
  refine ⟨?_, ?_, ?_⟩
  · simp only [LocalRef.fields, List.intercalate, List.intersperse, List.flatten_cons,
      List.length_append]
    exact Nat.le_add_right_of_le hkind.nonempty
  · have hlengths := And.intro hkind.short (And.intro hfits.short (And.intro hfits'.short
      (And.intro hdigest.short (And.intro hsequence'.short (And.intro hid.short
      (And.intro hrecord.short (And.intro hdeal.short hrevision'.short)))))))
    simp only [LocalRef.fields, List.intercalate, List.intersperse, List.flatten_cons,
      List.flatten_nil, List.length_append, List.length_singleton, List.length_nil]
    omega
  · apply all_intercalate (by decide)
    intro field hfield
    simp only [LocalRef.fields, List.mem_cons, List.not_mem_nil, or_false] at hfield
    rcases hfield with rfl | rfl | rfl | rfl | rfl | rfl | rfl | rfl | rfl
    · exact hkind.printable
    · exact hfits.printable
    · exact hfits'.printable
    · exact hdigest.printable
    · exact hsequence'.printable
    · exact hid.printable
    · exact hrecord.printable
    · exact hdeal.printable
    · exact hrevision'.printable

theorem fits_localOptionalRef (h : r = .empty ∨ localRefValid r = true) :
    Fits 392 (localOptionalRef r) := by
  unfold localOptionalRef
  split
  · exact fits_dash.mono (by decide)
  · exact fits_localRefText (h.resolve_left ‹_›)

theorem fits_identity {text : Text} (h : (localIdentity text).isSome = true) : Fits 694 text := by
  unfold localIdentity at h
  split at h
  · rename_i account installation tracking epoch profile fingerprint boundary hsplit
    split at h
    · rename_i hparts
      obtain ⟨haccount, hinstallation, htracking, hepoch, hprofile, hfingerprint, hboundary⟩ :=
        hparts
      have htext : ['~'].intercalate (text.splitOn '~') = text := List.intercalate_splitOn '~'
      rw [hsplit] at htext
      have haccount := fits_identifier haccount
      have hinstallation := fits_identifier hinstallation
      have htracking := fits_identifier htracking
      have hepoch := fits_counterText hepoch
      have hprofile := fits_digest hprofile
      have hfingerprint := fits_digest hfingerprint
      have hboundary := fits_digest hboundary
      rw [← htext]
      refine ⟨?_, ?_, ?_⟩
      · have := haccount.nonempty
        simp only [List.intercalate, List.intersperse, List.flatten_cons, List.length_append]
        omega
      · have hlengths := And.intro haccount.short (And.intro hinstallation.short
          (And.intro htracking.short (And.intro hepoch.short (And.intro hprofile.short
          (And.intro hfingerprint.short hboundary.short)))))
        simp only [List.intercalate, List.intersperse, List.flatten_cons, List.flatten_nil,
          List.length_append, List.length_singleton, List.length_nil]
        omega
      · apply all_intercalate (by decide)
        intro field hfield
        simp only [List.mem_cons, List.not_mem_nil, or_false] at hfield
        rcases hfield with rfl | rfl | rfl | rfl | rfl | rfl | rfl
        · exact haccount.printable
        · exact hinstallation.printable
        · exact htracking.printable
        · exact hepoch.printable
        · exact hprofile.printable
        · exact hfingerprint.printable
        · exact hboundary.printable
    · cases h
  · cases h

theorem fits_parentCommit (h : s.parentValid = true) : Fits 64 s.parentCommit := by
  unfold LocalState.parentValid at h
  split at h
  · simp only [decide_eq_true_eq] at h
    rw [h.2.1]
    exact fits_dash.mono (by decide)
  · simp only [decide_eq_true_eq] at h
    exact fits_digest h.2.2

theorem fits_pendingBody (h : s.pendingValid = true) : Fits 64 s.pendingBody := by
  unfold LocalState.pendingValid at h
  split at h
  · simp only [decide_eq_true_eq] at h
    rw [h.2.2.1]
    exact fits_dash.mono (by decide)
  · simp only [decide_eq_true_eq] at h
    exact fits_digest h.2.2.2.2.2.2.1

theorem fits_ackBody (h : s.ackValid = true) : Fits 64 s.ackBody ∧ Fits 64 s.ackPendingSha := by
  unfold LocalState.ackValid at h
  split at h
  · simp only [decide_eq_true_eq] at h
    rw [h.2.2.2.2.1, h.2.2.2.2.2.1]
    exact ⟨fits_dash.mono (by decide), fits_dash.mono (by decide)⟩
  · simp only [decide_eq_true_eq] at h
    exact ⟨fits_digest h.2.2.2.2.2.1, fits_digest h.2.2.2.2.2.2.1⟩

/-- The fields of a state that stand before its events. -/
def LocalState.head (s : LocalState) : List Text := s.fields.take 27

theorem fields_eq_head (s : LocalState) :
    s.fields = s.head ++ s.events.map localRefText ∧ s.head.length = 27 :=
  ⟨rfl, rfl⟩

theorem fits_head (h : localStateValid s = true) : ∀ field ∈ s.head, Fits 694 field := by
  obtain ⟨hhead, hparent, -, -, hpending, hack, -⟩ := localStateValid_iff.1 h
  have hread := readable_of_valid h
  simp only [LocalState.headValid, decide_eq_true_eq] at hhead
  have hgeneration : counter s.generation = true := by
    have hfrom := hread.generation
    simp only [counter, decide_eq_true_eq] at hfrom ⊢
    omega
  have hcount := counter_of_le (by decide : counter maxEvents = true) hread.count
  have hbatch := counter_of_le (by decide : counter maxBatch = true) hread.pendingCount
  intro field hfield
  simp only [LocalState.head, LocalState.fields, List.cons_append, List.take_succ_cons,
    List.take_zero, List.mem_cons, List.not_mem_nil, or_false] at hfield
  rcases hfield with rfl | rfl | rfl | rfl | rfl | rfl | rfl | rfl | rfl | rfl | rfl | rfl | rfl |
    rfl | rfl | rfl | rfl | rfl | rfl | rfl | rfl | rfl | rfl | rfl | rfl | rfl | rfl
  · exact ⟨by decide, by decide, by decide⟩
  · exact (fits_localNumber hgeneration).mono (by decide)
  · exact (fits_localNumber hread.parentGeneration).mono (by decide)
  · exact (fits_parentCommit hparent).mono (by decide)
  · exact fits_identity hhead.2.2.1
  · exact (fits_localRefText hread.registration).mono (by decide)
  · exact (fits_localNumber hread.produced).mono (by decide)
  · exact (fits_localNumber hread.acceptedRequest).mono (by decide)
  · exact (fits_localNumber hread.acceptedEvent).mono (by decide)
  · exact (fits_localRefText hread.capture).mono (by decide)
  · exact (fits_identifier hhead.2.2.2.2.2.2.2.2.1).mono (by decide)
  · exact (fits_completeness _).mono (by decide)
  · exact (fits_localOptionalRef hread.pending).mono (by decide)
  · exact (fits_localNumber hread.pendingRequest).mono (by decide)
  · exact (fits_pendingBody hpending).mono (by decide)
  · exact (fits_localNumber hread.pendingPrior).mono (by decide)
  · exact (fits_localNumber hread.pendingFinal).mono (by decide)
  · exact (fits_localNumber hbatch).mono (by decide)
  · exact (fits_localNumber hread.pendingProduced).mono (by decide)
  · exact (fits_localOptionalRef hread.ack).mono (by decide)
  · exact (fits_localNumber hread.ackRequest).mono (by decide)
  · exact (fits_ackBody hack).1.mono (by decide)
  · exact (fits_ackBody hack).2.mono (by decide)
  · exact (fits_localNumber hread.acceptedAt).mono (by decide)
  · exact (fits_localNumber hread.ackEvent).mono (by decide)
  · exact (fits_localNumber hcount).mono (by decide)
  · exact (fits_localError _).mono (by decide)

theorem payload_of_localLines {fields : List Text} {bytes : Bytes}
    (h : localLines fields = some bytes) : bytes.length ≤ payloadMax := by
  rw [localLines] at h
  split at h
  · rw [localBytes] at h
    split at h
    · rename_i hok
      rw [← Option.some.inj h, length_toBytes]
      exact hok.2.1
    · cases h
  · cases h

/-- Every valid state has an encoding, with as many events as there may be. -/
theorem localStateEncode_of_valid (h : localStateValid s = true) :
    ∃ payload, localStateEncode s = some payload ∧ payload.length ≤ payloadMax := by
  have hread := readable_of_valid h
  obtain ⟨hfields, hlength⟩ := fields_eq_head s
  have hevents : ∀ field ∈ s.events.map localRefText, Fits 392 field := by
    intro field hfield
    obtain ⟨e, he, rfl⟩ := List.mem_map.1 hfield
    exact fits_localRefText (hread.events e he)
  have hcount : s.events.length ≤ 512 := hread.count
  obtain ⟨payload, hpayload⟩ := localLines_of_fits (by rw [← List.length_pos_iff]; omega)
    (fits_head h) hevents (by
      rw [hlength, List.length_map]
      have hmax : payloadMax = 262144 := rfl
      omega)
  rw [← hfields] at hpayload
  refine ⟨payload, ?_, payload_of_localLines hpayload⟩
  rw [localStateEncode, if_pos h, hpayload]

theorem localCommitEncode_of_valid (h : localCommitValid c = true) :
    ∃ payload, localCommitEncode c = some payload ∧ payload.length ≤ payloadMax := by
  have hvalid := h
  simp only [localCommitValid, decide_eq_true_eq] at hvalid
  obtain ⟨hgeneration, hparentGeneration, hregistration, hstate, hparent⟩ := hvalid
  have hgeneration' : counter c.generation = true := by
    simp only [counter, decide_eq_true_eq] at hgeneration ⊢
    omega
  have hsha : Fits 64 c.parentSha := by
    split at hparent
    · rw [hparent.2.2]
      exact fits_dash.mono (by decide)
    · exact fits_digest hparent.2.2.2
  have hfits : ∀ field ∈ c.fields, Fits 64 field := by
    intro field hfield
    simp only [LocalCommit.fields, List.mem_cons, List.not_mem_nil, or_false] at hfield
    rcases hfield with rfl | rfl | rfl | rfl | rfl | rfl | rfl
    · exact ⟨by decide, by decide, by decide⟩
    · exact (fits_localNumber hgeneration').mono (by decide)
    · exact (fits_localNumber hparentGeneration).mono (by decide)
    · exact hsha
    · exact fits_digest hregistration
    · exact fits_digest hstate
    · exact (fits_transition _).mono (by decide)
  have hevents : ∀ field ∈ ([] : List Text), Fits 0 field := List.forall_mem_nil _
  obtain ⟨payload, hpayload⟩ := localLines_of_fits (List.cons_ne_nil _ _) hfits hevents
    (by show 7 * 65 + 0 * 1 ≤ payloadMax; decide)
  rw [List.append_nil] at hpayload
  refine ⟨payload, ?_, payload_of_localLines hpayload⟩
  rw [localCommitEncode, if_pos h]
  exact hpayload

theorem localCommitEncode_of_decode {payload : Bytes} (h : localCommitDecode payload = some c) :
    localCommitEncode c = some payload := by
  simp only [localCommitDecode, Option.bind_eq_bind, Option.bind_eq_some_iff] at h
  obtain ⟨fields, -, c', -, h⟩ := h
  split at h
  · rename_i hencode
    rw [← Option.some.inj h]
    exact hencode
  · cases h

end Capacity

end TradeOps.Agent
