import TradeOps.Agent.CaptureValues
import TradeOps.Agent.Exact

/-!
# Capture values are read back

What the encoder of an account or of an exposure prints, the decoder reads back. Tokens, texts and
readings are read part by part; a number ends in front of a token that is no digit, and the rows of
an array end in front of its bracket.
-/

namespace TradeOps.Agent

open Reader

section Bytes
variable {max : Nat} {text : Text} {bytes : Bytes}

theorem utf8_append (a b : Text) : utf8 (a ++ b) = utf8 a ++ utf8 b := List.flatMap_append

theorem utf8_flatMap {α : Type} (f : α → Text) (rows : List α) :
    utf8 (rows.flatMap f) = rows.flatMap fun a => utf8 (f a) :=
  List.flatMap_assoc

theorem utf8EncodeChar_ascii {ch : Char} (h : ch.toNat < 128) :
    String.utf8EncodeChar ch = [UInt8.ofNat ch.toNat] := by
  unfold String.utf8EncodeChar
  dsimp only
  exact if_pos (by show ch.toNat ≤ 0x7f; omega)

theorem utf8_ascii (h : ∀ ch ∈ text, ch.toNat < 128) : utf8 text = toBytes text := by
  induction text with
  | nil => rfl
  | cons ch rest ih =>
    have hrest := ih fun x hx => h x (List.mem_cons_of_mem _ hx)
    rw [utf8] at hrest ⊢
    rw [List.flatMap_cons, utf8EncodeChar_ascii (h ch List.mem_cons_self), hrest]
    rfl

theorem decodeUtf8_utf8 (text : Text) : decodeUtf8 (utf8 text) = some text := by
  have hbytes : (utf8 text).toByteArray = (String.ofList text).toUTF8 := rfl
  rw [decodeUtf8, hbytes, Patterns.fromUTF8?_toUTF8, Option.map_some, String.toList_ofList]

theorem eq_utf8_of_captureUtf8Bytes (h : captureUtf8Bytes text = some bytes) :
    bytes = utf8 text ∧ 1 ≤ bytes.length ∧ bytes.length ≤ captureJsonMax := by
  rw [captureUtf8Bytes] at h
  split at h
  · rename_i hok
    obtain ⟨htext, hsize⟩ := hok
    rw [← Option.some.inj h]
    refine ⟨rfl, ?_, hsize⟩
    cases text with
    | nil => exact absurd htext (by decide)
    | cons ch rest =>
      rw [utf8, List.flatMap_cons, List.length_append, String.length_utf8EncodeChar]
      have := Char.utf8Size_pos ch
      omega
  · cases h

theorem captureUtf8Text_of_bytes (h : captureUtf8Bytes text = some bytes) :
    captureUtf8Text bytes = some text := by
  obtain ⟨rfl, hlow, hhigh⟩ := eq_utf8_of_captureUtf8Bytes h
  rw [captureUtf8Text, if_pos ⟨hlow, hhigh⟩, decodeUtf8_utf8]
  exact if_pos h

theorem stringLen_ascii (h : ∀ ch ∈ text, ch.toNat < 128) : stringLen text = text.length := by
  induction text with
  | nil => rfl
  | cons ch rest ih =>
    have hrest := ih fun x hx => h x (List.mem_cons_of_mem _ hx)
    have hch := h ch List.mem_cons_self
    rw [stringLen] at hrest ⊢
    rw [List.map_cons, List.sum_cons, hrest, if_pos (by omega), List.length_cons]
    omega

theorem Fits.ascii (h : Fits max text) : ∀ ch ∈ text, ch.toNat < 128 := by
  intro ch hch
  have hprintable := List.all_eq_true.1 h.printable ch hch
  simp only [Agent.printable, decide_eq_true_eq] at hprintable
  omega

theorem captureText_mono {max' : Nat} (h : captureText text max = true) (hle : max ≤ max') :
    captureText text max' = true := by
  simp only [captureText, decide_eq_true_eq] at h ⊢
  exact ⟨h.1, h.2.1.trans hle, h.2.2⟩

theorem Fits.captureText (h : Fits max text) : captureText text max = true := by
  refine decide_eq_true ⟨?_, ?_, ?_⟩
  · rw [stringLen_ascii h.ascii]
    exact h.nonempty
  · rw [stringLen_ascii h.ascii]
    exact h.short
  · rw [List.all_eq_true]
    intro ch hch
    have hprintable := List.all_eq_true.1 h.printable ch hch
    simp only [Agent.printable, decide_eq_true_eq] at hprintable
    exact decide_eq_true ⟨hprintable.1, by omega⟩

theorem Fits.captureUtf8Bytes (h : Fits max text) (hmax : max ≤ captureJsonMax) :
    captureUtf8Bytes text = some (toBytes text) := by
  rw [Agent.captureUtf8Bytes, utf8_ascii h.ascii, if_pos]
  refine ⟨captureText_mono h.captureText hmax, ?_⟩
  rw [length_toBytes]
  exact h.short.trans hmax

end Bytes

theorem counter_weaken {value minimum minimum' : Nat} (h : counter value minimum = true)
    (hle : minimum' ≤ minimum) : counter value minimum' = true := by
  simp only [counter, decide_eq_true_eq] at h ⊢
  omega

section Texts
variable {s : Text} {max : Nat}

theorem reads_pass (token : String) : Reads (pass token) token.toList () := reads_take _

def captureEscape (s : Text) : Text :=
  s.flatMap fun ch => if ch = '"' ∨ ch = '\\' then ['\\', ch] else [ch]

theorem quoted_escape (s rest : Text) :
    quoted (captureEscape s ++ '"' :: rest) = some (s, rest) := by
  induction s with
  | nil => rfl
  | cons ch s ih =>
    rw [captureEscape] at ih ⊢
    rw [List.flatMap_cons]
    by_cases hch : ch = '"' ∨ ch = '\\'
    · rw [if_pos hch, List.append_assoc, List.cons_append, List.singleton_append, quoted,
        if_pos hch, ih]
      rfl
    · rw [if_neg hch, List.append_assoc, List.singleton_append]
      rw [not_or] at hch
      rw [quoted, ih]
      · rfl
      · exact hch.1
      · exact fun h => absurd h hch.2
      · exact fun _ _ h => absurd h hch.2

theorem reads_readText (h : captureText s max = true) :
    Reads (readText max) (captureQuote s) s := by
  have hquote : captureQuote s = "\"".toList ++ (captureEscape s ++ ['"']) := rfl
  have hquoted : Reads (quoted : CaptureReader Text) (captureEscape s ++ ['"']) s := by
    intro rest
    rw [List.append_assoc]
    exact quoted_escape s rest
  rw [hquote]
  refine (reads_pass "\"").bind (hquoted.bind_pure ?_)
  rw [guard, if_pos h]
  rfl

/-- A text without a quote or a backslash is quoted as it is. -/
theorem captureQuote_plain (h : ∀ ch ∈ s, ¬ (ch = '"' ∨ ch = '\\')) :
    captureQuote s = '"' :: s ++ ['"'] := by
  have hsame : captureEscape s = s := by
    rw [captureEscape]
    induction s with
    | nil => rfl
    | cons ch rest ih =>
      rw [List.flatMap_cons, if_neg (h ch List.mem_cons_self),
        ih fun x hx => h x (List.mem_cons_of_mem _ hx)]
      rfl
  show '"' :: captureEscape s ++ ['"'] = _
  rw [hsame]

end Texts

section Numbers

variable {minimum value : Nat} {β : Type} {g : Nat → CaptureReader β} {token : String}
  {image : Text} {b : β}

/-- The token does not go on with a digit. -/
def endsNumber (token : String) : Bool := token.toList.head?.any fun ch => !ch.isDigit

/-- A number ends in front of such a token. -/
theorem reads_readNumber (h : counter value minimum = true) (htoken : endsNumber token = true)
    (hg : Reads (g value) (token.toList ++ image) b) :
    Reads (readNumber minimum >>= g) (localNumber value ++ (token.toList ++ image)) b := by
  rw [endsNumber] at htoken
  cases hchars : token.toList with
  | nil =>
    rw [hchars] at htoken
    cases htoken
  | cons stop tail =>
    rw [hchars] at htoken hg
    have hstop : stop.isDigit = false := by simpa using htoken
    rw [readNumber, bind_assoc, List.cons_append]
    refine Reads.span_bind (fun ch hch => isDigit_of_mem_localNumber hch) hstop ?_
    rw [counterFromText_localNumber h]
    exact hg

theorem reads_readScale (h : value ≤ 16) (htoken : endsNumber token = true)
    (hg : Reads (g value) (token.toList ++ image) b) :
    Reads (readScale >>= g) (localNumber value ++ (token.toList ++ image)) b := by
  have hcounter : counter value = true := counter_of_le (by decide) h
  rw [readScale, bind_assoc]
  refine reads_readNumber hcounter htoken ?_
  rw [bind_assoc]
  exact (reads_guard h).bind_nil hg

theorem reads_readCount {count : Int} {k : Int → CaptureReader β} (h : captureCount count = true)
    (htoken : endsNumber token = true) (hk : Reads (k count) (token.toList ++ image) b) :
    Reads (readCount >>= k) (captureNullableCount count ++ (token.toList ++ image)) b := by
  rw [readCount, bind_assoc]
  by_cases hunknown : count = -1
  · subst hunknown
    rw [captureNullableCount, if_pos rfl]
    exact (reads_taken nullText).bind hk
  · simp only [captureCount, decide_eq_true_eq] at h
    obtain ⟨hnonneg, hcounter⟩ := h.resolve_left hunknown
    rw [captureNullableCount, if_neg hunknown]
    have hnull : nullText = 'n' :: "ull".toList := by decide
    cases hdigits : localNumber count.toNat with
    | nil => exact absurd hdigits (localNumber_ne_nil _)
    | cons digit digits =>
      have hdigit : digit.isDigit = true :=
        isDigit_of_mem_localNumber (hdigits ▸ List.mem_cons_self)
      rw [hnull, List.cons_append]
      refine Reads.not_taken_bind ?_ ?_
      · rintro rfl
        exact absurd hdigit (by decide)
      · rw [if_neg (by decide), bind_assoc, ← List.cons_append, ← hdigits]
        refine reads_readNumber hcounter htoken ?_
        rw [pure_bind, Int.toNat_of_nonneg hnonneg]
        exact hk

end Numbers

section Readings

variable {f : CaptureFixed} {r : CaptureReading} {scale : Option Nat}

theorem number_chars {integer tail : Text} {scale : Nat}
    (hinteger : integer.all Char.isDigit = true)
    (htail : if scale = 0 then tail = []
      else tail.head? = some '.' ∧ (tail.drop 1).length = scale ∧
        (tail.drop 1).all Char.isDigit = true) :
    ∀ ch ∈ integer ++ tail, ch = '.' ∨ ch.isDigit = true := by
  intro ch hch
  rcases List.mem_append.1 hch with hch | hch
  · exact .inr (List.all_eq_true.1 hinteger ch hch)
  · by_cases hscale : scale = 0
    · rw [if_pos hscale] at htail
      rw [htail] at hch
      cases hch
    · rw [if_neg hscale] at htail
      obtain ⟨hpoint, -, hdigits⟩ := htail
      cases tail with
      | nil => cases hch
      | cons point digits =>
        rcases List.mem_cons.1 hch with rfl | hch
        · exact .inl (Option.some.inj hpoint)
        · exact .inr (List.all_eq_true.1 hdigits ch hch)

/-- What a fixed text is made of. -/
theorem fixedText_chars {value : Text} {scale : Nat} (h : fixedText value scale = true) :
    scale ≤ 16 ∧ Fits 36 value ∧ ∀ ch ∈ value, ¬ (ch = '"' ∨ ch = '\\') := by
  simp only [fixedText, decide_eq_true_eq] at h
  obtain ⟨hscale, hlow, hhigh, -, -, hinteger, -, htail, -⟩ := h
  have hchars : ∀ ch ∈ value, ch = '-' ∨ ch = '.' ∨ ch.isDigit = true := by
    intro ch hch
    have hnumber := number_chars hinteger htail ch
    rw [List.takeWhile_append_dropWhile] at hnumber
    by_cases hnegative : value.head? = some '-'
    · rw [if_pos hnegative] at hnumber
      cases value with
      | nil => cases hch
      | cons sign rest =>
        rcases List.mem_cons.1 hch with rfl | hch
        · exact .inl (Option.some.inj hnegative)
        · exact .inr (hnumber hch)
    · rw [if_neg hnegative] at hnumber
      exact .inr (hnumber hch)
  refine ⟨hscale, ⟨hlow, hhigh, ?_⟩, fun ch hch => ?_⟩
  · rw [List.all_eq_true]
    intro ch hch
    rcases hchars ch hch with rfl | rfl | hdigit
    · decide
    · decide
    · exact printable_isDigit hdigit
  · rcases hchars ch hch with rfl | rfl | hdigit
    · decide
    · decide
    · rintro (rfl | rfl)
      · exact absurd hdigit (by decide)
      · exact absurd hdigit (by decide)

theorem reads_readFixed {positive : Bool} (h : captureFixedValid f positive = true) :
    Reads readFixed (captureFixedJson f) f := by
  simp only [captureFixedValid, decide_eq_true_eq] at h
  obtain ⟨hscale, hfits, hplain⟩ := fixedText_chars h.1
  have hopen : ",\"value\":\"".toList = ",\"value\":".toList ++ ['"'] := by decide
  have hclose : "\"\x7d".toList = '"' :: "\x7d".toList := by decide
  have hjson : captureFixedJson f = "\x7b\"scale\":".toList ++ (localNumber f.scale ++
      (",\"value\":".toList ++ (captureQuote f.value ++ "\x7d".toList))) := by
    rw [captureFixedJson, if_pos h.1, captureQuote_plain hplain, hopen, hclose]
    simp only [List.append_assoc, List.cons_append, List.nil_append]
  rw [hjson]
  refine (reads_pass _).bind ?_
  refine reads_readScale hscale (by decide) ?_
  refine (reads_pass _).bind ?_
  refine (reads_readText hfits.captureText).bind ?_
  refine (reads_pass "\x7d").bind_pure ?_
  exact guard_bind (decide_eq_true ⟨h.1, .inl rfl⟩) _

theorem missingReason_chars {reason : Text} (h : captureChoice reason missingReasons = true) :
    Fits 16 reason ∧ ∀ ch ∈ reason, ¬ (ch = '"' ∨ ch = '\\') := by
  have hall : missingReasons.all (fun choice => decide (1 ≤ choice.toList.length) &&
      decide (choice.toList.length ≤ 16) && choice.toList.all printable &&
      choice.toList.all fun ch => !decide (ch = '"' ∨ ch = '\\')) = true := by decide
  simp only [captureChoice, decide_eq_true_eq] at h
  obtain ⟨choice, hchoice, rfl⟩ := List.mem_map.1 h
  have hone := List.all_eq_true.1 hall choice hchoice
  simp only [Bool.and_eq_true, decide_eq_true_eq] at hone
  obtain ⟨⟨⟨hlow, hhigh⟩, hprintable⟩, hplain⟩ := hone
  exact ⟨⟨hlow, hhigh, hprintable⟩, fun ch hch => by simpa using List.all_eq_true.1 hplain ch hch⟩

theorem reads_readReading (h : captureReadingValid r scale = true) :
    Reads readReading (captureReadingJson r) r := by
  by_cases hreason : r.reason = []
  · rw [captureReadingValid, if_neg (not_not.2 hreason), decide_eq_true_eq] at h
    have hvalid : captureReadingValid r = true := by
      rw [captureReadingValid, if_neg (not_not.2 hreason)]
      exact decide_eq_true ⟨h.1, nofun⟩
    have hopen : "\x7b\"reason\":null,\"value\":".toList =
        "\x7b\"reason\":".toList ++ (nullText ++ ",\"value\":".toList) := by decide
    rw [captureReadingJson, if_pos hvalid, if_neg (not_not.2 hreason), hopen]
    simp only [List.append_assoc]
    refine (reads_pass _).bind ((reads_taken nullText).bind ?_)
    refine (reads_pass _).bind ((reads_readFixed h.1).bind ?_)
    refine (reads_pass "\x7d").bind_pure ?_
    rw [← hreason]
  · have hvalid : captureReadingValid r = true := by
      rw [captureReadingValid, if_pos hreason] at h ⊢
      exact h
    have hmissing := hvalid
    rw [captureReadingValid, if_pos hreason, decide_eq_true_eq] at hmissing
    obtain ⟨hchoice, hvalue, hscale⟩ := hmissing
    obtain ⟨hfits, hplain⟩ := missingReason_chars hchoice
    have hopen : "\x7b\"reason\":\"".toList = "\x7b\"reason\":".toList ++ ['"'] := by decide
    have hclose : "\",\"value\":null\x7d".toList = '"' :: ",\"value\":null\x7d".toList := by
      decide
    have hnull : nullText = 'n' :: "ull".toList := by decide
    have hjson : captureReadingJson r = "\x7b\"reason\":".toList ++ (captureQuote r.reason ++
        ",\"value\":null\x7d".toList) := by
      rw [captureReadingJson, if_pos hvalid, if_pos hreason, captureQuote_plain hplain, hopen,
        hclose]
      simp only [List.append_assoc, List.cons_append, List.nil_append]
    have hsame : r = ⟨r.reason, [], 0⟩ := by
      rw [← hvalue, ← hscale]
    rw [hjson]
    refine (reads_pass _).bind ?_
    rw [hnull]
    refine Reads.not_taken_bind (by decide) ?_
    refine (reads_readText hfits.captureText).bind ?_
    refine (reads_pass _).bind_pure ?_
    rw [← hsame]
    exact guard_bind hvalid _

end Readings
section Values

variable {scale : Nat} {json : Text}

theorem captureFinish_some {candidate : Text} (h : captureFinish candidate = some json) :
    json = candidate ∧ (captureUtf8Bytes json).isSome = true := by
  rw [captureFinish] at h
  split at h
  · rename_i hbytes
    rw [← Option.some.inj h]
    exact ⟨rfl, hbytes⟩
  · cases h

/-- The status of a value is one of a few words. -/
theorem captureText_choice {value : Text} {choices : List String} {max : Nat}
    (h : captureChoice value choices = true)
    (hall : (choices.all fun choice => captureText choice.toList max) = true) :
    captureText value max = true := by
  simp only [captureChoice, decide_eq_true_eq] at h
  obtain ⟨choice, hchoice, rfl⟩ := List.mem_map.1 h
  exact List.all_eq_true.1 hall choice hchoice

/-- A printed account is read back. -/
theorem captureDecodeAccount_of_encode {account : CaptureAccount}
    (h : captureEncodeAccount account scale = some json) :
    captureDecodeAccount json scale = some account := by
  have hencoded := h
  rw [captureEncodeAccount] at h
  split at h
  · rename_i hvalid
    obtain ⟨hjson, hbytes⟩ := captureFinish_some h
    simp only [captureAccountValid, decide_eq_true_eq] at hvalid
    obtain ⟨-, hutc, hbroker, hbalance, hequity, hmarginUsed, hmarginFree, hmarginLevel,
      hstatus⟩ := hvalid
    have htext : captureText account.status 160 = true := by
      by_cases hfailed : account.status = captureFailed
      · rw [hfailed]
        decide
      · rw [if_neg hfailed] at hstatus
        rw [hstatus.1]
        decide
    have hreads : Reads readAccount json account := by
      rw [hjson]
      simp only [List.append_assoc]
      refine (reads_pass _).bind ((reads_readReading hbalance).bind ?_)
      refine (reads_pass _).bind ((reads_readReading hequity).bind ?_)
      refine (reads_pass _).bind ((reads_readReading hmarginFree).bind ?_)
      refine (reads_pass _).bind ((reads_readReading hmarginLevel).bind ?_)
      refine (reads_pass _).bind ((reads_readReading hmarginUsed).bind ?_)
      refine (reads_pass _).bind ?_
      refine reads_readNumber (counter_weaken hbroker (Nat.zero_le _)) (by decide) ?_
      refine (reads_pass _).bind ?_
      refine reads_readNumber (counter_weaken hutc (Nat.zero_le _)) (by decide) ?_
      refine (reads_pass _).bind ((reads_readText htext).bind ?_)
      exact (reads_pass "\x7d").bind_pure rfl
    have hrun := hreads []
    rw [List.append_nil] at hrun
    simp only [captureDecodeAccount, Option.bind_eq_bind, Option.bind_eq_some_iff,
      Option.guard_eq_some']
    exact ⟨(), hbytes, _, hrun, (), ⟨rfl, hencoded⟩, rfl⟩
  · cases h

end Values

section Rows

variable {α β : Type} {r : CaptureReader α} {rows : List α} {images : List Text} {room : Nat}
  {g : List α → CaptureReader β} {image : Text} {b : β}

/-- Rows between commas are read back up to the bracket. -/
theorem reads_readRows (h : List.Forall₂ (fun a text => Reads r text a) rows images)
    (hne : rows ≠ []) (hroom : rows.length ≤ room) (hg : Reads (g rows) (']' :: image) b) :
    Reads (readRows r room >>= g) ([','].intercalate images ++ ']' :: image) b := by
  induction h generalizing room g with
  | nil => exact absurd rfl hne
  | @cons a text rows images ha hrows ih =>
    cases room with
    | zero => cases hroom
    | succ room =>
      rw [readRows, bind_assoc]
      cases hrows with
      | nil =>
        rw [List.intercalate_singleton]
        refine ha.bind ?_
        rw [bind_assoc]
        refine Reads.not_taken_bind (by decide) ?_
        exact hg
      | cons ha' hrows' =>
        rw [List.intercalate_cons_cons]
        rw [List.append_assoc, List.append_assoc]
        refine ha.bind ?_
        rw [bind_assoc]
        refine (reads_taken [',']).bind ?_
        rw [if_pos rfl, bind_assoc]
        refine ih (List.cons_ne_nil _ _) (Nat.le_of_succ_le_succ hroom) ?_
        exact hg

theorem run_readArray (input : Text) : (readArray r room).run input =
    if input.head? = some ']' then some ([], input) else (readRows r room).run input := by
  rw [readArray, StateT.run_bind]
  show (if input.head? = some ']' then pure [] else readRows r room).run input = _
  split <;> rfl

/-- A row is read back, and its text begins with a brace. -/
def RowOf (r : CaptureReader α) (a : α) (text : Text) : Prop :=
  Reads r text a ∧ text.head? = some '\x7b'

theorem reads_readArray {token : String} (h : List.Forall₂ (RowOf r) rows images)
    (hroom : rows.length ≤ room) (htoken : token.toList.head? = some ']')
    (hg : Reads (g rows) (token.toList ++ image) b) :
    Reads (readArray r room >>= g) ([','].intercalate images ++ (token.toList ++ image)) b := by
  cases htext : token.toList with
  | nil =>
    rw [htext] at htoken
    cases htoken
  | cons close tail =>
    rw [htext] at htoken hg
    cases htoken
    intro rest
    rw [StateT.run_bind, run_readArray]
    cases h with
    | nil => exact hg rest
    | @cons a text rows texts ha hrows =>
      have hhead : ([','].intercalate (text :: texts) ++ (']' :: tail ++ image) ++ rest).head? =
          some '\x7b' := by
        have htext := ha.2
        cases text with
        | nil => cases htext
        | cons ch tail =>
          cases texts
          · exact htext
          · exact htext
      have hall := (List.Forall₂.cons ha hrows).imp fun _ _ hrow => hrow.1
      rw [hhead, if_neg (by decide), ← StateT.run_bind]
      exact reads_readRows hall (List.cons_ne_nil _ _) hroom hg rest

theorem rowsOf_mapM {encode : α → Option Text} (hread : ∀ a text, encode a = some text →
    RowOf r a text) (h : rows.mapM encode = some images) :
    List.Forall₂ (RowOf r) rows images := by
  induction rows generalizing images with
  | nil =>
    rw [List.mapM_nil] at h
    rw [← Option.some.inj h]
    exact .nil
  | cons a rows ih =>
    simp only [List.mapM_cons, Option.bind_eq_bind, Option.bind_eq_some_iff] at h
    obtain ⟨text, htext, texts, htexts, h⟩ := h
    rw [← Option.some.inj h]
    exact .cons (hread a text htext) (ih htexts)

end Rows
section Exposures

variable {scale : Nat} {json : Text}

theorem reads_readPosition {p : CapturePosition} (h : captureEncodePosition p scale = some json) :
    RowOf readPosition p json := by
  rw [captureEncodePosition] at h
  split at h
  · rename_i hvalid
    obtain ⟨hjson, -⟩ := captureFinish_some h
    simp only [capturePositionValid, decide_eq_true_eq] at hvalid
    obtain ⟨hticket, hposition, hsymbol, hside, hvolume, hentry, hcurrent, hsl, htp, hprofit,
      hswap⟩ := hvalid
    have htext : ∀ {value : Text}, ticket value = true → captureText value 160 = true :=
      fun h => ((fits_ticket h).mono (by decide)).captureText
    rw [hjson]
    simp only [List.append_assoc]
    constructor
    · refine (reads_pass _).bind ((reads_readReading hcurrent).bind ?_)
      refine (reads_pass _).bind ((reads_readReading hentry).bind ?_)
      refine (reads_pass _).bind ((reads_readReading hprofit).bind ?_)
      refine (reads_pass _).bind ((reads_readText (htext hposition)).bind ?_)
      refine (reads_pass _).bind ((reads_readText (captureText_choice hside (by decide))).bind ?_)
      refine (reads_pass _).bind ((reads_readReading hsl).bind ?_)
      refine (reads_pass _).bind ((reads_readReading hswap).bind ?_)
      refine (reads_pass _).bind ((reads_readText hsymbol).bind ?_)
      refine (reads_pass _).bind ((reads_readText (htext hticket)).bind ?_)
      refine (reads_pass _).bind ((reads_readReading htp).bind ?_)
      refine (reads_pass _).bind ((reads_readFixed hvolume).bind ?_)
      exact (reads_pass "\x7d").bind_pure rfl
    · rw [List.head?_append]
      have hopen : "\x7b\"current_price\":".toList.head? = some '\x7b' := by decide
      rw [hopen]
      rfl
  · cases h

theorem reads_readOrder {o : CaptureOrder} (h : captureEncodeOrder o = some json) :
    RowOf readOrder o json := by
  rw [captureEncodeOrder] at h
  split at h
  · rename_i hvalid
    obtain ⟨hjson, -⟩ := captureFinish_some h
    simp only [captureOrderValid, decide_eq_true_eq] at hvalid
    obtain ⟨hticket, hsymbol, htype, hstate, hvolumes, hprice, hstopLimit, hsl, htp⟩ := hvalid
    simp only [captureLessOrEqual, decide_eq_true_eq] at hvolumes
    rw [hjson]
    simp only [List.append_assoc]
    constructor
    · refine (reads_pass _).bind ((reads_readReading hprice).bind ?_)
      refine (reads_pass _).bind ((reads_readReading hsl).bind ?_)
      refine (reads_pass _).bind ((reads_readText (captureText_choice hstate (by decide))).bind ?_)
      refine (reads_pass _).bind ((reads_readReading hstopLimit).bind ?_)
      refine (reads_pass _).bind ((reads_readText hsymbol).bind ?_)
      have hlabel := ((fits_ticket hticket).mono (by decide : 20 ≤ 160)).captureText
      refine (reads_pass _).bind ((reads_readText hlabel).bind ?_)
      refine (reads_pass _).bind ((reads_readReading htp).bind ?_)
      refine (reads_pass _).bind ((reads_readText (captureText_choice htype (by decide))).bind ?_)
      refine (reads_pass _).bind ((reads_readFixed hvolumes.1).bind ?_)
      refine (reads_pass _).bind ((reads_readFixed hvolumes.2.1).bind ?_)
      exact (reads_pass "\x7d").bind_pure rfl
    · rw [List.head?_append]
      have hopen : "\x7b\"price\":".toList.head? = some '\x7b' := by decide
      rw [hopen]
      rfl
  · cases h

/-- A printed exposure is read back. -/
theorem captureDecodeExposure_of_encode {exposure : CaptureExposure}
    (h : captureEncodeExposure exposure scale = some json) :
    captureDecodeExposure json scale = some exposure := by
  have hencoded := h
  rw [captureEncodeExposure, Option.bind_eq_some_iff] at h
  obtain ⟨candidate, hcandidate, hfinish⟩ := h
  obtain ⟨rfl, hbytes⟩ := captureFinish_some hfinish
  rw [captureExposureJson] at hcandidate
  split at hcandidate
  · rename_i hvalid
    simp only [Option.bind_eq_bind, Option.bind_eq_some_iff] at hcandidate
    obtain ⟨positions, hpositions, orders, horders, hjson⟩ := hcandidate
    simp only [captureExposureValid, decide_eq_true_eq] at hvalid
    obtain ⟨-, hutc, hbroker, hpositionRoom, horderRoom, hpositionCount, horderCount, hstatus⟩ :=
      hvalid
    have htext : captureText exposure.status 16 = true := by
      by_cases hother : exposure.status ≠ complete
      · rw [if_pos hother] at hstatus
        exact captureText_choice hstatus.1 (by decide)
      · rw [not_not.1 hother]
        decide
    have hpositionRows := rowsOf_mapM (fun _ _ => reads_readPosition) hpositions
    have horderRows := rowsOf_mapM (fun _ _ => reads_readOrder) horders
    have hreads : Reads readExposure json exposure := by
      rw [← Option.some.inj hjson]
      simp only [List.append_assoc]
      refine (reads_pass _).bind ?_
      refine reads_readNumber hbroker (by decide) ?_
      refine (reads_pass _).bind ?_
      refine reads_readNumber hutc (by decide) ?_
      refine (reads_pass _).bind ?_
      refine reads_readCount horderCount (by decide) ?_
      refine (reads_pass _).bind ?_
      refine reads_readArray horderRows horderRoom (by decide) ?_
      refine (reads_pass _).bind ?_
      refine reads_readCount hpositionCount (by decide) ?_
      refine (reads_pass _).bind ?_
      refine reads_readArray hpositionRows hpositionRoom (by decide) ?_
      refine (reads_pass _).bind ((reads_readText htext).bind ?_)
      exact (reads_pass "\x7d").bind_pure rfl
    have hrun := hreads []
    rw [List.append_nil] at hrun
    simp only [captureDecodeExposure, Option.bind_eq_bind, Option.bind_eq_some_iff,
      Option.guard_eq_some']
    exact ⟨(), hbytes, _, hrun, (), ⟨rfl, hencoded⟩, rfl⟩
  · cases hcandidate

end Exposures

/-- An account is decoded from its print alone. -/
theorem captureDecodeAccount_iff {json : Text} {scale : Nat} {account : CaptureAccount} :
    captureDecodeAccount json scale = some account ↔
      captureEncodeAccount account scale = some json := by
  constructor
  · intro h
    simp only [captureDecodeAccount, Option.bind_eq_bind, Option.bind_eq_some_iff,
      Option.guard_eq_some'] at h
    obtain ⟨-, -, read, -, -, hencoded, h⟩ := h
    rw [← Option.some.inj h]
    exact hencoded.2
  · exact captureDecodeAccount_of_encode

theorem captureDecodeExposure_iff {json : Text} {scale : Nat} {exposure : CaptureExposure} :
    captureDecodeExposure json scale = some exposure ↔
      captureEncodeExposure exposure scale = some json := by
  constructor
  · intro h
    simp only [captureDecodeExposure, Option.bind_eq_bind, Option.bind_eq_some_iff,
      Option.guard_eq_some'] at h
    obtain ⟨-, -, read, -, -, hencoded, h⟩ := h
    rw [← Option.some.inj h]
    exact hencoded.2
  · exact captureDecodeExposure_of_encode

/-! ## What is printed -/

section Encodes

/-- Printable, and not longer than `size`. -/
structure Printed (size : Nat) (text : Text) : Prop where
  short : text.length ≤ size
  printable : text.all printable = true

variable {size size' : Nat} {text text' : Text} {scale : Nat}

theorem Printed.append (h : Printed size text) (h' : Printed size' text') :
    Printed (size + size') (text ++ text') := by
  refine ⟨?_, ?_⟩
  · rw [List.length_append]
    exact Nat.add_le_add h.short h'.short
  · rw [List.all_append, h.printable, h'.printable]
    rfl

theorem printed_token {token : String}
    (h : (decide (token.toList.length ≤ 40) && token.toList.all printable) = true) :
    Printed 40 token.toList := by
  rw [Bool.and_eq_true, decide_eq_true_eq] at h
  exact ⟨h.1, h.2⟩

theorem Printed.mono (h : Printed size text) (hle : size ≤ size') : Printed size' text :=
  ⟨h.short.trans hle, h.printable⟩

theorem Fits.printed (h : Fits size text) : Printed size text where
  short := h.short
  printable := Fits.printable h

theorem printed_fixed {f : CaptureFixed} {positive : Bool}
    (h : captureFixedValid f positive = true) : Printed 172 (captureFixedJson f) := by
  simp only [captureFixedValid, decide_eq_true_eq] at h
  obtain ⟨hscale, hfits, -⟩ := fixedText_chars h.1
  have hnumber := (fits_localNumber (counter_of_le (by decide) hscale)).printed
  rw [captureFixedJson, if_pos h.1]
  exact ((((printed_token (by decide)).append hnumber).append (printed_token (by decide))).append
    hfits.printed).append (printed_token (by decide))

theorem printed_reading (r : CaptureReading) : Printed 252 (captureReadingJson r) := by
  rw [captureReadingJson]
  split
  · split
    · rename_i hvalid hreason
      rw [captureReadingValid, if_pos hreason, decide_eq_true_eq] at hvalid
      obtain ⟨hfits, -⟩ := missingReason_chars hvalid.1
      refine Printed.mono (((printed_token ?_).append hfits.printed).append (printed_token ?_)) ?_
      all_goals decide
    · rename_i hvalid hreason
      rw [captureReadingValid, if_neg hreason, decide_eq_true_eq] at hvalid
      exact ((printed_token (by decide)).append (printed_fixed hvalid.1)).append
        (printed_token (by decide))
  · exact ⟨Nat.zero_le _, rfl⟩

theorem printed_count {count : Int} (h : captureCount count = true) :
    Printed 16 (captureNullableCount count) := by
  simp only [captureCount, decide_eq_true_eq] at h
  rw [captureNullableCount]
  split
  · exact ⟨by decide, by decide⟩
  · exact (fits_localNumber (h.resolve_left ‹_›).2).printed

theorem captureFinish_of_printed {candidate : Text} (h : Printed size candidate)
    (hne : candidate ≠ []) (hsize : size ≤ captureJsonMax) :
    captureFinish candidate = some candidate ∧ Fits size candidate := by
  have hfits : Fits size candidate := ⟨List.length_pos_iff.2 hne, h.short, h.printable⟩
  rw [captureFinish, hfits.captureUtf8Bytes hsize]
  exact ⟨rfl, hfits⟩

/-- Every valid account is printed. -/
theorem captureEncodeAccount_of_valid {account : CaptureAccount}
    (h : captureAccountValid account scale = true) :
    ∃ json, captureEncodeAccount account scale = some json ∧ Fits 1692 json := by
  have hvalid := h
  simp only [captureAccountValid, decide_eq_true_eq] at hvalid
  obtain ⟨-, hutc, hbroker, -, -, -, -, -, hstatus⟩ := hvalid
  have hquoted : Printed 40 (captureQuote account.status) := by
    by_cases hfailed : account.status = captureFailed
    · rw [hfailed]
      exact ⟨by decide, by decide⟩
    · rw [if_neg hfailed] at hstatus
      rw [hstatus.1]
      exact ⟨by decide, by decide⟩
  have hnumber : ∀ {value : Nat}, counter value 1 = true → Printed 16 (localNumber value) :=
    fun h => (fits_localNumber (counter_weaken h (Nat.zero_le _))).printed
  rw [captureEncodeAccount, if_pos h]
  simp only [List.append_assoc]
  refine ⟨_, captureFinish_of_printed (.append (printed_token ?_) (.append
    (printed_reading _) (.append (printed_token ?_) (.append
    (printed_reading _) (.append (printed_token ?_) (.append
    (printed_reading _) (.append (printed_token ?_) (.append
    (printed_reading _) (.append (printed_token ?_) (.append
    (printed_reading _) (.append (printed_token ?_) (.append
    (hnumber hbroker) (.append (printed_token ?_) (.append
    (hnumber hutc) (.append (printed_token ?_) (.append
    hquoted (printed_token ?_)))))))))))))))))
    (List.append_ne_nil_of_left_ne_nil (by decide) _) (by decide)⟩
  all_goals decide

/-- A valid exposure without rows is printed. -/
theorem captureEncodeExposure_of_valid {exposure : CaptureExposure}
    (h : captureExposureValid exposure scale = true) (hpositions : exposure.positions = [])
    (horders : exposure.orders = []) :
    ∃ json, captureEncodeExposure exposure scale = some json ∧ Fits 424 json := by
  have hvalid := h
  simp only [captureExposureValid, decide_eq_true_eq] at hvalid
  obtain ⟨-, hutc, hbroker, -, -, hpositionCount, horderCount, hstatus⟩ := hvalid
  have hquoted : Printed 40 (captureQuote exposure.status) := by
    by_cases hother : exposure.status ≠ complete
    · rw [if_pos hother] at hstatus
      simp only [captureChoice, decide_eq_true_eq, List.map_cons, List.map_nil, List.mem_cons,
        List.not_mem_nil, or_false] at hstatus
      rcases hstatus.1 with hstatus | hstatus
      · rw [hstatus]
        exact ⟨by decide, by decide⟩
      · rw [hstatus]
        exact ⟨by decide, by decide⟩
    · rw [not_not.1 hother]
      exact ⟨by decide, by decide⟩
  have hnumber : ∀ {value : Nat}, counter value 1 = true → Printed 16 (localNumber value) :=
    fun h => (fits_localNumber (counter_weaken h (Nat.zero_le _))).printed
  rw [captureEncodeExposure, captureExposureJson, if_pos h, hpositions, horders]
  simp only [List.mapM_nil, Option.pure_def, Option.bind_eq_bind, Option.bind_some,
    List.intercalate_nil, List.nil_append, List.append_assoc]
  refine ⟨_, captureFinish_of_printed (.append (printed_token ?_) (.append
    (hnumber hbroker) (.append (printed_token ?_) (.append
    (hnumber hutc) (.append (printed_token ?_) (.append
    (printed_count horderCount) (.append (printed_token ?_) (.append
    (printed_token ?_) (.append
    (printed_count hpositionCount) (.append (printed_token ?_) (.append (printed_token ?_) (.append
    hquoted (printed_token ?_)))))))))))))
    (List.append_ne_nil_of_left_ne_nil (by decide) _) (by decide)⟩
  all_goals decide

end Encodes

end TradeOps.Agent
