import TradeOps.Telemetry.Wire

/-!
# Responses validate

What `responseBytesV2` makes for a request passes `validateResponseV2` for that request, whatever
the request says: the text is canonical, small enough and read back as the response it was made of.
-/

namespace TradeOps.Telemetry

open JsString JsValue Checks Patterns

/-! ## The size of a response -/

theorem size_identifier (id : Identifier) : id.json.size ≤ 962 := by
  have hid := id.property
  simp only [isIdentifier, decide_eq_true_eq] at hid
  rw [Matching.json, JsValue.size, length_js_of_ascii id.ascii]
  omega

theorem size_digest (digest : Digest) : (JsValue.str (js digest.val)).size = 386 := by
  have hdigest := digest.property
  simp only [isDigest, decide_eq_true_eq] at hdigest
  rw [JsValue.size, length_js_of_ascii digest.ascii, hdigest.1]

theorem size_counter {minimum : Nat} (n : CounterFrom minimum) : n.json.size ≤ 17 := by
  have hlength : (Nat.toDigits 10 n.val).length ≤ 16 := by
    rw [Nat.length_toDigits_le_iff (by decide) (by decide)]
    exact lt_of_le_of_lt n.property.2 (by decide)
  rw [CounterFrom.json, JsValue.size, Int.natAbs_natCast]
  omega

theorem size_nullable {α : Type} {json : α → JsValue} {n : Nat} (h : ∀ a, (json a).size ≤ n)
    (hn : 4 ≤ n) (value : Option α) : (nullableJson json value).size ≤ n := by
  cases value with
  | none => exact hn
  | some a => exact h a

theorem size_recordGap (gap : RecordGap) : (choiceJson gap).size ≤ 122 := by
  cases gap <;> decide

theorem size_coverageState (state : CoverageState) : (choiceJson state).size ≤ 74 := by
  cases state <;> decide

theorem size_identity (identity : IdentityV2) : identity.json.size ≤ 4811 := by
  have hkeys : keysSize identityKeys = 748 := by decide
  have h₁ := size_identifier identity.accountId
  have h₂ := size_identifier identity.installationId
  have h₃ := size_identifier identity.trackingId
  have h₄ := size_counter identity.safetyEpoch
  have h₅ := size_digest identity.accountProfileSha256
  have h₆ := size_digest identity.accountFingerprintSha256
  have h₇ := size_digest identity.trackingBoundarySha256
  rw [← Matching.json] at h₅ h₆ h₇
  rw [IdentityV2.json, size_object rfl, hkeys]
  simp only [List.map_cons, List.map_nil, List.sum_cons, List.sum_nil]
  omega

theorem size_coverage (coverage : CoverageV2) : coverage.json.size ≤ 605 := by
  have hkeys : keysSize coverageKeys = 368 := by decide
  have h₁ := size_coverageState coverage.state
  have h₂ := size_nullable (fun n : Instant => size_counter n) (by decide) coverage.throughBrokerMsc
  have h₃ := size_counter coverage.pendingEvents
  have h₄ := size_nullable size_recordGap (by decide) coverage.reason
  have h₅ : (JsValue.bool coverage.observationGap).size = 5 := rfl
  rw [CoverageV2.json, size_object rfl, hkeys]
  simp only [List.map_cons, List.map_nil, List.sum_cons, List.sum_nil]
  omega

theorem size_signed (body : ResponseBodyV2) (digest : Digest) :
    (body.signed digest.val).size ≤ 16 * 1024 := by
  have hkeys : keysSize responseKeys = 916 := by decide
  have hmode : (JsValue.str (js "DRY_RUN")).size = 44 := by decide
  have hschema : (JsValue.str (js "AgentSyncResponseV2")).size = 116 := by decide
  have hnull : JsValue.null.size = 4 := rfl
  have h₁ := size_counter body.acceptedAtUtcSeconds
  have h₂ := size_counter body.acknowledgedEventSequence
  have h₃ := size_counter body.requestSequence
  have h₄ := size_coverage body.coverage
  have h₅ := size_identity body.identity
  have h₆ := size_digest body.requestBodySha256
  have h₇ := size_digest digest
  rw [← Matching.json] at h₆
  rw [ResponseBodyV2.signed, size_object rfl, hkeys]
  simp only [List.map_cons, List.map_nil, List.sum_cons, List.sum_nil]
  omega

/-! ## Making and validating -/

section Responses

variable {sha256Hex : String → String} {request : TelemetryRequestV2} {acknowledged : Counter}
  {acceptedAt : Instant}

/-- The digest of a body. -/
def ResponseBodyV2.digest (sha256Hex : String → String) (body : ResponseBodyV2) : String :=
  sha256Hex (String.ofList body.json.text)

/-- The text of a signed body. -/
def ResponseBodyV2.text (sha256Hex : String → String) (body : ResponseBodyV2) : String :=
  String.ofList (body.signed (body.digest sha256Hex)).text

/-- A response is made exactly when it acknowledges what the request ends with and the coverage can
be derived. -/
theorem responseBytesV2_ok_iff {bytes : String} :
    responseBytesV2 sha256Hex request acknowledged acceptedAt = .ok bytes ↔
      acknowledged.val = request.expectedAck ∧
        ∃ coverage, deriveCoverageV2 true request.collection acknowledged = .ok coverage ∧
          bytes = (responseBody request acknowledged acceptedAt coverage).text sha256Hex := by
  rw [responseBytesV2, then_ok_iff, failIf_ok_iff, not_not, bind_ok_iff]
  refine and_congr_right fun _ => exists_congr fun coverage => and_congr_right fun _ => ?_
  generalize responseBody request acknowledged acceptedAt coverage = body
  have hdigest : digestOf sha256Hex body.json = .ok (body.digest sha256Hex) := by
    rw [digestOf, canonicalStringify_plain (body.plain 0)]
    rfl
  have htext : canonicalStringify (body.signed (body.digest sha256Hex)) =
      .ok (body.text sha256Hex) := canonicalStringify_plain (body.signed_plain _ 0)
  simp only [hdigest, ok_bind_eq, htext, Except.ok.injEq]
  exact eq_comm

/-- What is made for a request is valid for it. -/
theorem validateResponseV2_made (hsha : ∀ text, isDigest (sha256Hex text) = true) {bytes : String}
    (h : responseBytesV2 sha256Hex request acknowledged acceptedAt = .ok bytes) :
    validateResponseV2 sha256Hex bytes.toUTF8 request = .ok bytes := by
  obtain ⟨hack, coverage, hcoverage, rfl⟩ := responseBytesV2_ok_iff.1 h
  obtain ⟨body, hbody⟩ : ∃ body, body = responseBody request acknowledged acceptedAt coverage :=
    ⟨_, rfl⟩
  have hackBody : body.acknowledgedEventSequence = acknowledged := by rw [hbody]; rfl
  have hatBody : body.acceptedAtUtcSeconds = acceptedAt := by rw [hbody]; rfl
  rw [← hbody] at h ⊢
  have hread := readResponse_signed body ⟨body.digest sha256Hex, hsha _⟩
  have hsize := size_signed body ⟨body.digest sha256Hex, hsha _⟩
  have hinput := canonicalInput_text (body.signed_plain (body.digest sha256Hex) 14) hsize
  have hstring := fromUTF8?_toUTF8 (body.text sha256Hex)
  rw [validateResponseV2]
  change (canonicalInput (body.text sha256Hex).toUTF8 (16 * 1024) >>= _) = _
  rw [show canonicalInput (body.text sha256Hex).toUTF8 (16 * 1024) = _ from hinput, ok_bind_eq,
    hread, ok_bind_eq]
  simp only [hackBody, hatBody, then_ok_iff, failIf_ok_iff, hstring, h, ok_bind_eq]
  exact ⟨not_not.2 hack, fun hne => hne rfl, rfl⟩

end Responses

end TradeOps.Telemetry
