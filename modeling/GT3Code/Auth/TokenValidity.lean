import GT3Code.Auth.SessionCredentialService

/-! # Which tokens are accepted

Runs of the credential service, recorded as a history of what it issued and
revoked. A token is accepted by a verifier exactly when its payload and signature
are those of a token of that kind in the history that is still valid.
-/

namespace GT3Code.Auth

open GT3Code.Base GT3Code.Base.Json GT3Code.Base.Base64Url

variable {runtime : TokenRuntime}

section Tokens

variable (lawful : runtime.Lawful)

include lawful

theorem decode_base64UrlEncode (value : Value) :
    base64UrlDecodeUtf8 runtime (base64UrlEncode runtime (stringify 0 value)) =
      stringify 0 value := by
  rw [base64UrlDecodeUtf8, base64UrlEncode, lawful.base64UrlBytes_encode,
    lawful.utf8_decode_encode]

theorem base64UrlBytes_signPayload (payload : Text) :
    runtime.base64UrlBytes (signPayload runtime payload) = runtime.hmac payload :=
  lawful.base64UrlBytes_encode _

theorem timingSafeEqual_signPayload (signature payload : Text) :
    timingSafeEqualBase64Url runtime signature (signPayload runtime payload) = true ↔
      runtime.base64UrlBytes signature = runtime.hmac payload := by
  simp only [timingSafeEqualBase64Url, base64UrlBytes_signPayload lawful]
  split
  · rename_i hlength
    constructor
    · exact fun h => by cases h
    · intro heq
      exact absurd (congrArg List.length heq) hlength
  · simp

theorem signature_ne_nil {signature payload : Text}
    (h : runtime.base64UrlBytes signature = runtime.hmac payload) : signature ≠ [] := by
  rintro rfl
  have hnil : runtime.base64UrlBytes [] = [] := lawful.base64UrlBytes_encode []
  exact lawful.hmac_ne_nil payload (h.symm.trans hnil)

theorem encodedPayload_ne_nil (claims : Value) :
    base64UrlEncode runtime (stringify 0 claims) ≠ [] := by
  intro h
  have hbytes := encode_eq_nil h
  have htext := lawful.utf8_decode_encode claims
  rw [hbytes, lawful.utf8_decode_nil] at htext
  have hparse := parse_stringify 0 claims
  rw [← htext] at hparse
  cases hparse

theorem tokenParts_signedToken (claims : Value) :
    tokenParts (signedToken runtime claims) =
      some (base64UrlEncode runtime (stringify 0 claims),
        signPayload runtime (base64UrlEncode runtime (stringify 0 claims))) := by
  have hpayload : dot ∉ base64UrlEncode runtime (stringify 0 claims) := dot_notMem_encode _
  have hsignature : dot ∉ signPayload runtime (base64UrlEncode runtime (stringify 0 claims)) :=
    dot_notMem_encode _
  have hne := encodedPayload_ne_nil lawful claims
  have hsigned := signature_ne_nil lawful
    (base64UrlBytes_signPayload lawful (base64UrlEncode runtime (stringify 0 claims)))
  have hsplit : (signedToken runtime claims).splitOn dot =
      [base64UrlEncode runtime (stringify 0 claims),
        signPayload runtime (base64UrlEncode runtime (stringify 0 claims))] := by
    rw [signedToken, List.splitOn_append_cons_self_of_not_mem hpayload,
      List.splitOn_eq_singleton hsignature]
  simp [tokenParts, hsplit, hne, hsigned]

end Tokens

theorem decodeSessionId_val (id : AuthSessionId) : decodeSessionId id.1 = some id := by
  obtain ⟨value, htrim, hne⟩ := id
  simp [decodeSessionId, htrim, hne]

theorem decodeRole_literal (role : SessionRole) : decodeRole role.literal = some role := by
  cases role <;> rfl

theorem decodeMethod_literal (method : ServerAuthSessionMethod) :
    decodeMethod method.literal = some method := by
  cases method <;> rfl

theorem numberValue_number (n : Int) (key : Text) (d : Doc Text)
    (h : d.field? key = some (number n)) : numberField key d = some (n : ℚ) := by
  simp [numberField, h, number, numberValue_intLiteral]

theorem decode_sessionClaims (sid : AuthSessionId) (sub : Text) (role : SessionRole)
    (method : ServerAuthSessionMethod) (iat exp : Int) :
    decodeSessionClaims (stringify 0 (sessionClaims sid sub role method iat exp)) =
      some { sid, sub, role, method, iat, exp } := by
  have hv := numberValue_number 1 (ascii "v") (sessionClaims sid sub role method iat exp).1 rfl
  have hiat :=
    numberValue_number iat (ascii "iat") (sessionClaims sid sub role method iat exp).1 rfl
  have hexp :=
    numberValue_number exp (ascii "exp") (sessionClaims sid sub role method iat exp).1 rfl
  have hkind : stringField (ascii "kind") (sessionClaims sid sub role method iat exp).1 =
      some (ascii "session") := rfl
  have hsid : stringField (ascii "sid") (sessionClaims sid sub role method iat exp).1 =
      some sid.1 := rfl
  have hsub : stringField (ascii "sub") (sessionClaims sid sub role method iat exp).1 =
      some sub := rfl
  have hrole : stringField (ascii "role") (sessionClaims sid sub role method iat exp).1 =
      some role.literal := rfl
  have hmethod : stringField (ascii "method") (sessionClaims sid sub role method iat exp).1 =
      some method.literal := rfl
  simp [decodeSessionClaims, parse_stringify, hv, hiat, hexp, hkind, hsid, hsub, hrole, hmethod,
    decodeSessionId_val, decodeRole_literal, decodeMethod_literal]

theorem decode_webSocketClaims (sid : AuthSessionId) (iat exp : Int) :
    decodeWebSocketClaims (stringify 0 (webSocketClaims sid iat exp)) =
      some { sid, iat, exp } := by
  have hv := numberValue_number 1 (ascii "v") (webSocketClaims sid iat exp).1 rfl
  have hiat := numberValue_number iat (ascii "iat") (webSocketClaims sid iat exp).1 rfl
  have hexp := numberValue_number exp (ascii "exp") (webSocketClaims sid iat exp).1 rfl
  have hkind : stringField (ascii "kind") (webSocketClaims sid iat exp).1 =
      some (ascii "websocket") := rfl
  have hsid : stringField (ascii "sid") (webSocketClaims sid iat exp).1 = some sid.1 := rfl
  simp [decodeWebSocketClaims, parse_stringify, hv, hiat, hexp, hkind, hsid, decodeSessionId_val]

theorem decodeWebSocketClaims_of_session {text : Text} {claims : SessionClaims}
    (h : decodeSessionClaims text = some claims) : decodeWebSocketClaims text = none := by
  simp only [decodeSessionClaims, Option.bind_eq_bind, Option.bind_eq_some_iff] at h
  obtain ⟨d, hd, v, hv, kind, hkind, h⟩ := h
  have hsession : kind = ascii "session" := by
    by_contra hne
    simp [hne] at h
  have hne : ¬(v = 1 ∧ kind = ascii "websocket") := by
    rw [hsession]
    rintro ⟨-, heq⟩
    exact absurd heq (by decide)
  simp [decodeWebSocketClaims, hd, hv, hkind, hne]

variable {now : Int} {sessions : AuthSessions} {world : World}

theorem verify_eq_ok_iff (lawful : runtime.Lawful) {token : Text} {verified : VerifiedSession} :
    verify runtime now sessions token = .ok verified ↔
      ∃ encodedPayload signature claims row,
        tokenParts token = some (encodedPayload, signature) ∧
        runtime.base64UrlBytes signature = runtime.hmac encodedPayload ∧
        decodeSessionClaims (base64UrlDecodeUtf8 runtime encodedPayload) = some claims ∧
        (now : ℚ) < claims.exp ∧ sessions.getById claims.sid = some row ∧ row.revokedAt = none ∧
        verified = {
          sessionId := claims.sid
          token
          method := claims.method
          client := toClientMetadata row.client
          expiresAt := claims.exp
          subject := claims.sub
          role := claims.role } := by
  constructor
  · intro h
    simp only [verify] at h
    split at h
    · cases h
    · rename_i encodedPayload signature hparts
      split_ifs at h with hsignature
      rw [Bool.not_eq_false, timingSafeEqual_signPayload lawful] at hsignature
      split at h
      · cases h
      · rename_i claims hclaims
        split_ifs at h with hexp
        split at h
        · cases h
        · rename_i row hrow
          split_ifs at h with hrevoked
          cases h
          refine ⟨encodedPayload, signature, claims, row, hparts, hsignature, hclaims,
            not_le.mp hexp, hrow, ?_, rfl⟩
          simpa using hrevoked
  · rintro ⟨encodedPayload, signature, claims, row, hparts, hsignature, hclaims, hexp, hrow,
      hrevoked, rfl⟩
    have hequal := (timingSafeEqual_signPayload lawful signature encodedPayload).mpr hsignature
    simp [verify, hparts, hequal, hclaims, not_le.mpr hexp, hrow, hrevoked]

theorem verifyWebSocketToken_eq_ok_iff (lawful : runtime.Lawful) {token : Text}
    {verified : VerifiedSession} :
    verifyWebSocketToken runtime now sessions token = .ok verified ↔
      ∃ encodedPayload signature claims row,
        tokenParts token = some (encodedPayload, signature) ∧
        runtime.base64UrlBytes signature = runtime.hmac encodedPayload ∧
        decodeWebSocketClaims (base64UrlDecodeUtf8 runtime encodedPayload) = some claims ∧
        (now : ℚ) < claims.exp ∧ sessions.getById claims.sid = some row ∧ now < row.expiresAt ∧
        row.revokedAt = none ∧
        verified = {
          sessionId := row.sessionId
          token
          method := row.method
          client := toClientMetadata row.client
          expiresAt := row.expiresAt
          subject := row.subject
          role := row.role } := by
  constructor
  · intro h
    simp only [verifyWebSocketToken] at h
    split at h
    · cases h
    · rename_i encodedPayload signature hparts
      split_ifs at h with hsignature
      rw [Bool.not_eq_false, timingSafeEqual_signPayload lawful] at hsignature
      split at h
      · cases h
      · rename_i claims hclaims
        split_ifs at h with hexp
        split at h
        · cases h
        · rename_i row hrow
          split_ifs at h with hrowExpired hrevoked
          cases h
          refine ⟨encodedPayload, signature, claims, row, hparts, hsignature, hclaims,
            not_le.mp hexp, hrow, not_le.mp hrowExpired, ?_, rfl⟩
          simpa using hrevoked
  · rintro ⟨encodedPayload, signature, claims, row, hparts, hsignature, hclaims, hexp, hrow,
      hrowExpires, hrevoked, rfl⟩
    have hequal := (timingSafeEqual_signPayload lawful signature encodedPayload).mpr hsignature
    simp [verifyWebSocketToken, hparts, hequal, hclaims, not_le.mpr hexp, hrow,
      not_le.mpr hrowExpires, hrevoked]

/-- A session that was issued, with the subject it was issued for. -/
structure Issuance where
  session : IssuedSession
  subject : Text
  issuedAt : Int

structure WebSocketIssuance where
  sessionId : AuthSessionId
  token : Text
  issuedAt : Int
  expiresAt : Int

inductive Entry where
  | issued (issuance : Issuance)
  | issuedWebSocket (issuance : WebSocketIssuance)
  | revoked (sessionId : AuthSessionId)
  | revokedAllExcept (sessionId : AuthSessionId)

/-- Clock and repository of the service, and what it issued and revoked so far. -/
structure World where
  now : Int
  sessions : AuthSessions
  history : List Entry

def World.initial (now : Int) : World where
  now
  sessions := KeyedTable.empty _
  history := []

inductive Call where
  | issue (sessionId : AuthSessionId) (input : IssueInput)
  | issueWebSocketToken (sessionId : AuthSessionId) (ttl : Option Int)
  | revoke (sessionId : AuthSessionId)
  | revokeAllExcept (sessionId : AuthSessionId)
  | advance (millis : Nat)

/-- One call. An `issue` that draws a session id that is there fails and changes nothing. -/
def step (runtime : TokenRuntime) (world : World) : Call → Option World
  | .issue sessionId input =>
    match issue runtime world.now sessionId input world.sessions with
    | .error _ => some world
    | .ok (session, sessions) =>
      some { world with
        sessions
        history := world.history ++ [.issued {
          session
          subject := input.subject.getD (ascii "browser")
          issuedAt := world.now }] }
  | .issueWebSocketToken sessionId ttl =>
    let issued := issueWebSocketToken runtime world.now sessionId ttl
    some { world with
      history := world.history ++ [.issuedWebSocket {
        sessionId
        token := issued.1
        issuedAt := world.now
        expiresAt := issued.2 }] }
  | .revoke sessionId =>
    some { world with
      sessions := world.sessions.revoke sessionId world.now
      history := world.history ++ [.revoked sessionId] }
  | .revokeAllExcept sessionId =>
    some { world with
      sessions := world.sessions.revokeAllExcept sessionId world.now
      history := world.history ++ [.revokedAllExcept sessionId] }
  | .advance millis => some { world with now := world.now + millis }

/-! ## What the history says of the repository -/

def Entry.revokes (sessionId : AuthSessionId) : Entry → Bool
  | .revoked id => sessionId = id
  | .revokedAllExcept id => sessionId ≠ id
  | _ => false

def RevokedIn (entries : List Entry) (sessionId : AuthSessionId) : Prop :=
  ∃ entry ∈ entries, entry.revokes sessionId = true

def Issuance.row (issuance : Issuance) (revokedAt : Option Int) : AuthSessionRecord where
  sessionId := issuance.session.sessionId
  subject := issuance.subject
  role := issuance.session.role
  method := issuance.session.method
  client := issuance.session.client
  issuedAt := issuance.issuedAt
  expiresAt := issuance.session.expiresAt
  revokedAt

def Issuance.claims (issuance : Issuance) : Value :=
  sessionClaims issuance.session.sessionId issuance.subject issuance.session.role
    issuance.session.method issuance.issuedAt issuance.session.expiresAt

def WebSocketIssuance.claims (issuance : WebSocketIssuance) : Value :=
  webSocketClaims issuance.sessionId issuance.issuedAt issuance.expiresAt

/-- Every issued session has its row, revoked when a later call revoked it, every row is of an
issued session, and every token is signed over the claims of its call. -/
structure Recorded (runtime : TokenRuntime) (world : World) : Prop where
  rows : ∀ before issuance after, world.history = before ++ .issued issuance :: after →
    ∃ revokedAt, world.sessions.getById issuance.session.sessionId = some (issuance.row revokedAt) ∧
      (revokedAt = none ↔ ¬RevokedIn after issuance.session.sessionId)
  known : ∀ id row, world.sessions.getById id = some row →
    ∃ issuance, .issued issuance ∈ world.history ∧ issuance.session.sessionId = id
  tokens : ∀ issuance, .issued issuance ∈ world.history →
    issuance.session.token = signedToken runtime issuance.claims
  webSocketTokens : ∀ issuance, .issuedWebSocket issuance ∈ world.history →
    issuance.token = signedToken runtime issuance.claims

theorem revokedIn_append (entries : List Entry) (entry : Entry) (id : AuthSessionId) :
    RevokedIn (entries ++ [entry]) id ↔ RevokedIn entries id ∨ entry.revokes id = true := by
  simp only [RevokedIn, List.mem_append, List.mem_singleton, or_and_right, exists_or,
    exists_eq_left]

theorem getById_revokeWhere (selected : AuthSessionId → Bool) (revokedAt : Int)
    (sessions : AuthSessions) (id : AuthSessionId) :
    (sessions.revokeWhere selected revokedAt).getById id =
      (sessions.getById id).map (fun row =>
        if selected row.sessionId && row.revokedAt.isNone then
          { row with revokedAt := some revokedAt }
        else row) :=
  KeyedTable.lookup_amend _ _ id sessions

theorem getById_put_self (row : AuthSessionRecord) (sessions : AuthSessions) :
    AuthSessions.getById row.sessionId (KeyedTable.put row sessions) = some row :=
  KeyedTable.lookup_put_self (by rfl) sessions

theorem getById_put_of_ne {row : AuthSessionRecord} {id : AuthSessionId} (h : row.sessionId ≠ id)
    (sessions : AuthSessions) :
    AuthSessions.getById id (KeyedTable.put row sessions) = sessions.getById id := by
  refine KeyedTable.lookup_put_of_ne ?_ sessions
  exact fun heq => h (Option.some.inj heq)

theorem split_append {history before after : List Entry} {entry found : Entry}
    (h : history ++ [entry] = before ++ found :: after) :
    (∃ between, after = between ++ [entry] ∧ history = before ++ found :: between) ∨
      (after = [] ∧ found = entry ∧ history = before) := by
  rcases List.eq_nil_or_concat after with rfl | ⟨between, last, rfl⟩
  · obtain ⟨hhistory, hentry⟩ := List.append_inj' h rfl
    exact Or.inr ⟨rfl, (List.singleton_inj.mp hentry).symm, hhistory⟩
  · rw [List.concat_eq_append] at h ⊢
    rw [← List.cons_append, ← List.append_assoc] at h
    obtain ⟨hhistory, hentry⟩ := List.append_inj' h rfl
    rw [List.singleton_inj.mp hentry]
    exact Or.inl ⟨between, rfl, hhistory⟩

theorem Recorded.revokeWhere (h : Recorded runtime world) {selected : AuthSessionId → Bool}
    {entry : Entry} (hselected : ∀ id, entry.revokes id = selected id)
    (hissued : ∀ issuance, .issued issuance ≠ entry)
    (hwebSocket : ∀ issuance, .issuedWebSocket issuance ≠ entry) :
    Recorded runtime { world with
      sessions := world.sessions.revokeWhere selected world.now
      history := world.history ++ [entry] } where
  rows before issuance after heq := by
    rcases split_append heq with ⟨between, rfl, hhistory⟩ | ⟨-, hfound, -⟩
    · obtain ⟨revokedAt, hrow, hiff⟩ := h.rows before issuance between hhistory
      rw [getById_revokeWhere, hrow, Option.map_some]
      by_cases hrevoke : selected issuance.session.sessionId = true ∧ revokedAt = none
      · refine ⟨some world.now, ?_, ?_⟩
        · simp [Issuance.row, hrevoke]
        · simp [revokedIn_append, hselected, hrevoke]
      · refine ⟨revokedAt, ?_, ?_⟩
        · have hkeep : (selected issuance.session.sessionId && revokedAt.isNone) = false := by
            simpa [Option.isSome_iff_ne_none] using hrevoke
          simp [Issuance.row, hkeep]
        · rw [revokedIn_append, hselected, hiff]
          rw [hiff] at hrevoke
          tauto
    · exact absurd hfound (hissued issuance)
  known id row hrow := by
    rw [getById_revokeWhere] at hrow
    obtain ⟨old, hold, -⟩ := Option.map_eq_some_iff.mp hrow
    obtain ⟨issuance, hmem, hid⟩ := h.known id old hold
    exact ⟨issuance, List.mem_append_left _ hmem, hid⟩
  tokens issuance hmem := by
    rcases List.mem_append.mp hmem with hmem | hmem
    · exact h.tokens issuance hmem
    · exact absurd (List.mem_singleton.mp hmem) (hissued issuance)
  webSocketTokens issuance hmem := by
    rcases List.mem_append.mp hmem with hmem | hmem
    · exact h.webSocketTokens issuance hmem
    · exact absurd (List.mem_singleton.mp hmem) (hwebSocket issuance)

theorem Recorded.issue (h : Recorded runtime world) {issuance : Issuance}
    (hfresh : world.sessions.getById issuance.session.sessionId = none)
    (htoken : issuance.session.token = signedToken runtime issuance.claims) :
    Recorded runtime { world with
      sessions := KeyedTable.put (issuance.row none) world.sessions
      history := world.history ++ [.issued issuance] } where
  rows before other after heq := by
    rcases split_append heq with ⟨between, rfl, hhistory⟩ | ⟨rfl, hfound, -⟩
    · obtain ⟨revokedAt, hrow, hiff⟩ := h.rows before other between hhistory
      have hne : (issuance.row none).sessionId ≠ other.session.sessionId := by
        intro hid
        have hsame : issuance.session.sessionId = other.session.sessionId := hid
        rw [hsame, hrow] at hfresh
        cases hfresh
      refine ⟨revokedAt, (getById_put_of_ne hne world.sessions).trans hrow, ?_⟩
      rw [revokedIn_append, hiff]
      simp [Entry.revokes]
    · cases hfound
      exact ⟨none, getById_put_self (issuance.row none) world.sessions, by simp [RevokedIn]⟩
  known id row hrow := by
    by_cases hid : issuance.session.sessionId = id
    · exact ⟨issuance, by simp, hid⟩
    · have hne : (issuance.row none).sessionId ≠ id := hid
      have hold := (getById_put_of_ne hne world.sessions).symm.trans hrow
      obtain ⟨other, hmem, hother⟩ := h.known id row hold
      exact ⟨other, List.mem_append_left _ hmem, hother⟩
  tokens other hmem := by
    rcases List.mem_append.mp hmem with hmem | hmem
    · exact h.tokens other hmem
    · cases List.mem_singleton.mp hmem
      exact htoken
  webSocketTokens other hmem := by
    rcases List.mem_append.mp hmem with hmem | hmem
    · exact h.webSocketTokens other hmem
    · cases List.mem_singleton.mp hmem

theorem Recorded.issueWebSocket (h : Recorded runtime world) {issuance : WebSocketIssuance}
    (htoken : issuance.token = signedToken runtime issuance.claims) :
    Recorded runtime { world with
      history := world.history ++ [.issuedWebSocket issuance] } where
  rows before other after heq := by
    rcases split_append heq with ⟨between, rfl, hhistory⟩ | ⟨-, hfound, -⟩
    · obtain ⟨revokedAt, hrow, hiff⟩ := h.rows before other between hhistory
      refine ⟨revokedAt, hrow, ?_⟩
      rw [revokedIn_append, hiff]
      simp [Entry.revokes]
    · cases hfound
  known id row hrow := by
    obtain ⟨other, hmem, hother⟩ := h.known id row hrow
    exact ⟨other, List.mem_append_left _ hmem, hother⟩
  tokens other hmem := by
    rcases List.mem_append.mp hmem with hmem | hmem
    · exact h.tokens other hmem
    · cases List.mem_singleton.mp hmem
  webSocketTokens other hmem := by
    rcases List.mem_append.mp hmem with hmem | hmem
    · exact h.webSocketTokens other hmem
    · cases List.mem_singleton.mp hmem
      exact htoken

theorem issue_eq_ok {sessionId : AuthSessionId} {input : IssueInput} {stored : AuthSessions}
    {session : IssuedSession}
    (h : issue runtime now sessionId input sessions = .ok (session, stored)) :
    ∃ issuance : Issuance, issuance = ⟨session, input.subject.getD (ascii "browser"), now⟩ ∧
      sessions.getById session.sessionId = none ∧
      stored = KeyedTable.put (issuance.row none) sessions ∧
      session.token = signedToken runtime issuance.claims := by
  simp only [issue, AuthSessions.create] at h
  cases hrow : KeyedTable.lookup sessionId sessions with
  | some row =>
    simp only [hrow] at h
    cases h
  | none =>
    simp only [hrow] at h
    cases h
    exact ⟨_, rfl, hrow, rfl, rfl⟩

theorem Recorded.step {next : World} {call : Call} (h : Recorded runtime world)
    (hstep : step runtime world call = some next) : Recorded runtime next := by
  cases call with
  | issue sessionId input =>
    simp only [Auth.step] at hstep
    cases hissue : Auth.issue runtime world.now sessionId input world.sessions with
    | error message =>
      simp only [hissue] at hstep
      cases hstep
      exact h
    | ok result =>
      simp only [hissue] at hstep
      cases hstep
      obtain ⟨issuance, rfl, hfresh, hstored, htoken⟩ := issue_eq_ok hissue
      rw [hstored]
      exact h.issue hfresh htoken
  | issueWebSocketToken sessionId ttl =>
    cases hstep
    exact h.issueWebSocket rfl
  | revoke | revokeAllExcept =>
    cases hstep
    refine h.revokeWhere (fun id => ?_) (by simp) (by simp)
    simp [Entry.revokes]
  | advance millis =>
    cases hstep
    exact ⟨h.rows, h.known, h.tokens, h.webSocketTokens⟩

theorem recorded_initial (now : Int) : Recorded runtime (World.initial now) where
  rows before issuance after heq := by simp [World.initial] at heq
  known id row hrow := by cases hrow
  tokens issuance hmem := by cases hmem
  webSocketTokens issuance hmem := by cases hmem

theorem recorded_of_exec {calls : List Call}
    (hrun : exec (step runtime) (World.initial now) calls = some world) : Recorded runtime world :=
  exec_invariant (fun _ _ _ h hstep => h.step hstep) (recorded_initial now) hrun

/-! ## Accepted tokens -/

def Entry.token? : Entry → Option Text
  | .issued issuance => some issuance.session.token
  | .issuedWebSocket issuance => some issuance.token
  | _ => none

/-- The first two parts of the token are the payload of the issued token and an encoding of its
signature. -/
def Presents (runtime : TokenRuntime) (token issued : Text) : Prop :=
  ∃ payload signature issuedSignature,
    tokenParts token = some (payload, signature) ∧
    tokenParts issued = some (payload, issuedSignature) ∧
    runtime.base64UrlBytes signature = runtime.base64UrlBytes issuedSignature

/-- The token shows no signature of a payload that the service has not signed. -/
def Unforged (runtime : TokenRuntime) (world : World) (token : Text) : Prop :=
  ∀ payload signature, tokenParts token = some (payload, signature) →
    runtime.base64UrlBytes signature = runtime.hmac payload →
    ∃ entry ∈ world.history, ∃ issued issuedSignature, entry.token? = some issued ∧
      tokenParts issued = some (payload, issuedSignature)

/-- The session of this call has not expired, and no later call revoked it. -/
def Issuance.Valid (issuance : Issuance) (world : World) : Prop :=
  ∃ before after, world.history = before ++ .issued issuance :: after ∧
    world.now < issuance.session.expiresAt ∧ ¬RevokedIn after issuance.session.sessionId

def Issuance.verified (issuance : Issuance) (token : Text) : VerifiedSession where
  sessionId := issuance.session.sessionId
  token
  method := issuance.session.method
  client := toClientMetadata issuance.session.client
  expiresAt := issuance.session.expiresAt
  subject := issuance.subject
  role := issuance.session.role

section Accepted

variable {world : World} {token : Text}

theorem Issuance.decode_claims (issuance : Issuance) :
    decodeSessionClaims (stringify 0 issuance.claims) = some {
      sid := issuance.session.sessionId
      sub := issuance.subject
      role := issuance.session.role
      method := issuance.session.method
      iat := issuance.issuedAt
      exp := issuance.session.expiresAt } :=
  decode_sessionClaims _ _ _ _ _ _

theorem WebSocketIssuance.decode_claims (issuance : WebSocketIssuance) :
    decodeWebSocketClaims (stringify 0 issuance.claims) = some {
      sid := issuance.sessionId
      iat := issuance.issuedAt
      exp := issuance.expiresAt } :=
  decode_webSocketClaims _ _ _

theorem Recorded.valid_of_row (h : Recorded runtime world) {id : AuthSessionId}
    {row : AuthSessionRecord} (hrow : world.sessions.getById id = some row)
    (hrevoked : row.revokedAt = none) (hexpires : world.now < row.expiresAt) :
    ∃ issuance : Issuance, issuance.Valid world ∧ issuance.session.sessionId = id ∧
      row = issuance.row none := by
  obtain ⟨issuance, hmem, rfl⟩ := h.known id row hrow
  obtain ⟨before, after, hsplit⟩ := List.append_of_mem hmem
  obtain ⟨revokedAt, hissued, hiff⟩ := h.rows before issuance after hsplit
  rw [hrow] at hissued
  cases hissued
  have hnone : revokedAt = none := hrevoked
  subst hnone
  exact ⟨issuance, ⟨before, after, hsplit, hexpires, hiff.mp rfl⟩, rfl, rfl⟩

theorem Recorded.row_of_valid (h : Recorded runtime world) {issuance : Issuance}
    (hvalid : issuance.Valid world) :
    world.sessions.getById issuance.session.sessionId = some (issuance.row none) := by
  obtain ⟨before, after, hsplit, -, hrevoked⟩ := hvalid
  obtain ⟨revokedAt, hrow, hiff⟩ := h.rows before issuance after hsplit
  rw [hiff.mpr hrevoked] at hrow
  exact hrow

theorem signed_claims (lawful : runtime.Lawful) (h : Recorded runtime world)
    (hunforged : Unforged runtime world token) {payload signature : Text}
    (hparts : tokenParts token = some (payload, signature))
    (hsignature : runtime.base64UrlBytes signature = runtime.hmac payload) :
    (∃ issuance, .issued issuance ∈ world.history ∧
      payload = base64UrlEncode runtime (stringify 0 issuance.claims) ∧
      Presents runtime token issuance.session.token) ∨
    (∃ issuance, .issuedWebSocket issuance ∈ world.history ∧
      payload = base64UrlEncode runtime (stringify 0 issuance.claims) ∧
      Presents runtime token issuance.token) := by
  obtain ⟨entry, hmem, issued, issuedSignature, htoken, hissued⟩ :=
    hunforged payload signature hparts hsignature
  have hclaims : ∀ claims, issued = signedToken runtime claims →
      payload = base64UrlEncode runtime (stringify 0 claims) ∧ Presents runtime token issued := by
    rintro claims rfl
    have hsigned := tokenParts_signedToken lawful claims
    rw [hissued] at hsigned
    obtain ⟨rfl, rfl⟩ := Prod.mk.inj (Option.some.inj hsigned)
    refine ⟨rfl, _, signature, _, hparts, hissued, ?_⟩
    rw [hsignature, base64UrlBytes_signPayload lawful]
  cases entry with
  | issued issuance =>
    cases htoken
    obtain ⟨hpayload, hpresents⟩ := hclaims issuance.claims (h.tokens issuance hmem)
    exact Or.inl ⟨issuance, hmem, hpayload, hpresents⟩
  | issuedWebSocket issuance =>
    cases htoken
    obtain ⟨hpayload, hpresents⟩ := hclaims issuance.claims (h.webSocketTokens issuance hmem)
    exact Or.inr ⟨issuance, hmem, hpayload, hpresents⟩
  | revoked id => cases htoken
  | revokedAllExcept id => cases htoken

theorem Presents.parts (lawful : runtime.Lawful) {issued : Text} {claims : Value}
    (h : Presents runtime token issued) (hissued : issued = signedToken runtime claims) :
    ∃ signature,
      tokenParts token = some (base64UrlEncode runtime (stringify 0 claims), signature) ∧
      runtime.base64UrlBytes signature =
        runtime.hmac (base64UrlEncode runtime (stringify 0 claims)) := by
  obtain ⟨payload, signature, issuedSignature, hparts, hissuedParts, hbytes⟩ := h
  rw [hissued, tokenParts_signedToken lawful] at hissuedParts
  obtain ⟨rfl, rfl⟩ := Prod.mk.inj (Option.some.inj hissuedParts)
  rw [base64UrlBytes_signPayload lawful] at hbytes
  exact ⟨signature, hparts, hbytes⟩

theorem verify_accepts_iff (lawful : runtime.Lawful) (h : Recorded runtime world)
    (hunforged : Unforged runtime world token) (verified : VerifiedSession) :
    verify runtime world.now world.sessions token = .ok verified ↔
      ∃ issuance : Issuance, issuance.Valid world ∧
        Presents runtime token issuance.session.token ∧ verified = issuance.verified token := by
  rw [verify_eq_ok_iff lawful]
  constructor
  · rintro ⟨payload, signature, claims, row, hparts, hsignature, hclaims, hexp, hrow, hrevoked,
      rfl⟩
    rcases signed_claims lawful h hunforged hparts hsignature with
      ⟨issuance, hmem, rfl, hpresents⟩ | ⟨webSocket, hmem, rfl, -⟩
    · rw [decode_base64UrlEncode lawful, issuance.decode_claims] at hclaims
      cases hclaims
      have hexpires : world.now < issuance.session.expiresAt := Int.cast_lt.mp hexp
      obtain ⟨before, after, hsplit⟩ := List.append_of_mem hmem
      obtain ⟨revokedAt, hissued, hiff⟩ := h.rows before issuance after hsplit
      rw [hrow] at hissued
      cases hissued
      exact ⟨issuance, ⟨before, after, hsplit, hexpires, hiff.mp hrevoked⟩, hpresents, rfl⟩
    · rw [decode_base64UrlEncode lawful] at hclaims
      have hnone := decodeWebSocketClaims_of_session hclaims
      rw [webSocket.decode_claims] at hnone
      cases hnone
  · rintro ⟨issuance, hvalid, hpresents, rfl⟩
    have hrow := h.row_of_valid hvalid
    obtain ⟨before, after, hsplit, hexpires, hrevoked⟩ := hvalid
    have hmem : .issued issuance ∈ world.history := by simp [hsplit]
    obtain ⟨signature, hparts, hbytes⟩ := hpresents.parts lawful (h.tokens issuance hmem)
    have hclaims := issuance.decode_claims
    rw [← decode_base64UrlEncode lawful] at hclaims
    exact ⟨_, signature, _, issuance.row none, hparts, hbytes, hclaims, Int.cast_lt.mpr hexpires,
      hrow, rfl, rfl⟩

theorem verifyWebSocketToken_accepts_iff (lawful : runtime.Lawful) (h : Recorded runtime world)
    (hunforged : Unforged runtime world token) (verified : VerifiedSession) :
    verifyWebSocketToken runtime world.now world.sessions token = .ok verified ↔
      ∃ (webSocket : WebSocketIssuance) (issuance : Issuance),
        .issuedWebSocket webSocket ∈ world.history ∧ Presents runtime token webSocket.token ∧
        world.now < webSocket.expiresAt ∧ issuance.Valid world ∧
        issuance.session.sessionId = webSocket.sessionId ∧
        verified = issuance.verified token := by
  rw [verifyWebSocketToken_eq_ok_iff lawful]
  constructor
  · rintro ⟨payload, signature, claims, row, hparts, hsignature, hclaims, hexp, hrow, hexpires,
      hrevoked, rfl⟩
    rcases signed_claims lawful h hunforged hparts hsignature with
      ⟨issuance, hmem, rfl, -⟩ | ⟨webSocket, hmem, rfl, hpresents⟩
    · rw [decode_base64UrlEncode lawful] at hclaims
      have hnone := decodeWebSocketClaims_of_session issuance.decode_claims
      rw [hclaims] at hnone
      cases hnone
    · rw [decode_base64UrlEncode lawful, webSocket.decode_claims] at hclaims
      cases hclaims
      obtain ⟨issuance, hvalid, hid, rfl⟩ := h.valid_of_row hrow hrevoked hexpires
      have hexpiry : world.now < webSocket.expiresAt := Int.cast_lt.mp hexp
      exact ⟨webSocket, issuance, hmem, hpresents, hexpiry, hvalid, hid, rfl⟩
  · rintro ⟨webSocket, issuance, hmem, hpresents, hexpiry, hvalid, hid, rfl⟩
    have hrow := h.row_of_valid hvalid
    obtain ⟨before, after, hsplit, hexpires, hrevoked⟩ := hvalid
    obtain ⟨signature, hparts, hbytes⟩ :=
      hpresents.parts lawful (h.webSocketTokens webSocket hmem)
    have hclaims := webSocket.decode_claims
    rw [← decode_base64UrlEncode lawful] at hclaims
    rw [hid] at hrow
    exact ⟨_, signature, _, issuance.row none, hparts, hbytes, hclaims, Int.cast_lt.mpr hexpiry,
      hrow, hexpires, rfl, rfl⟩

theorem not_accepted_by_both (lawful : runtime.Lawful) (now : Int) (sessions : AuthSessions)
    (session webSocket : VerifiedSession) :
    ¬(verify runtime now sessions token = .ok session ∧
      verifyWebSocketToken runtime now sessions token = .ok webSocket) := by
  rw [verify_eq_ok_iff lawful, verifyWebSocketToken_eq_ok_iff lawful]
  rintro ⟨⟨payload, signature, claims, row, hparts, -, hclaims, -⟩,
    ⟨otherPayload, otherSignature, otherClaims, otherRow, hotherParts, -, hotherClaims, -⟩⟩
  rw [hparts] at hotherParts
  cases hotherParts
  rw [decodeWebSocketClaims_of_session hclaims] at hotherClaims
  cases hotherClaims

end Accepted

/-- In every state a run reaches, each verifier accepts exactly the tokens of its kind that are
still valid, and no token is accepted by both. -/
theorem tokens_accepted_iff (runtime : TokenRuntime) (lawful : runtime.Lawful) (now : Int)
    (calls : List Call) (world : World)
    (hrun : exec (step runtime) (World.initial now) calls = some world) (token : Text)
    (hunforged : Unforged runtime world token) :
    (∀ verified, verify runtime world.now world.sessions token = .ok verified ↔
      ∃ issuance : Issuance, issuance.Valid world ∧
        Presents runtime token issuance.session.token ∧ verified = issuance.verified token) ∧
    (∀ verified, verifyWebSocketToken runtime world.now world.sessions token = .ok verified ↔
      ∃ (webSocket : WebSocketIssuance) (issuance : Issuance),
        .issuedWebSocket webSocket ∈ world.history ∧ Presents runtime token webSocket.token ∧
        world.now < webSocket.expiresAt ∧ issuance.Valid world ∧
        issuance.session.sessionId = webSocket.sessionId ∧
        verified = issuance.verified token) ∧
    (∀ session webSocket, ¬(verify runtime world.now world.sessions token = .ok session ∧
      verifyWebSocketToken runtime world.now world.sessions token = .ok webSocket)) := by
  have hrecorded := recorded_of_exec hrun
  exact ⟨verify_accepts_iff lawful hrecorded hunforged,
    verifyWebSocketToken_accepts_iff lawful hrecorded hunforged,
    not_accepted_by_both lawful world.now world.sessions⟩

def unaryBytes (text : Text) : List Byte :=
  text.flatMap (fun u => List.replicate u 0 ++ [1])

def unaryText (count : Nat) : List Byte → Text
  | [] => []
  | byte :: rest => if byte = 0 then unaryText (count + 1) rest else count :: unaryText 0 rest

/-- UTF-8 on ASCII texts; any other text is kept apart from them by its first byte. -/
def asciiBytes (text : Text) : List Byte :=
  if text.all (fun u => u < 128) then text.map (Fin.ofNat 256) else 255 :: unaryBytes text

def asciiText : List Byte → Text
  | 255 :: rest => unaryText 0 rest
  | bytes => bytes.map Fin.val

theorem unaryText_unaryBytes (text : Text) : unaryText 0 (unaryBytes text) = text := by
  have hreplicate : ∀ count u rest,
      unaryText count (List.replicate u 0 ++ 1 :: rest) = (count + u) :: unaryText 0 rest := by
    intro count u rest
    induction u generalizing count with
    | zero => rfl
    | succ u ih =>
      rw [List.replicate_succ, List.cons_append, unaryText, if_pos rfl, ih (count + 1)]
      congr 1
      omega
  induction text with
  | nil => rfl
  | cons u rest ih =>
    have hsplit : unaryBytes (u :: rest) = List.replicate u 0 ++ 1 :: unaryBytes rest := by
      simp [unaryBytes]
    rw [hsplit, hreplicate, Nat.zero_add, ih]

theorem asciiText_asciiBytes (text : Text) : asciiText (asciiBytes text) = text := by
  unfold asciiBytes
  split
  · rename_i hascii
    rw [List.all_eq_true] at hascii
    have hvalues : (text.map (Fin.ofNat 256)).map Fin.val = text := by
      rw [List.map_map]
      refine (List.map_congr_left (fun u hu => ?_)).trans (List.map_id' text)
      have hlt : u < 128 := of_decide_eq_true (hascii u hu)
      exact Nat.mod_eq_of_lt (Nat.lt_trans hlt (by decide))
    unfold asciiText
    split
    · rename_i rest heq
      cases text with
      | nil => cases heq
      | cons u text =>
        have hlt : u < 128 := of_decide_eq_true (hascii u List.mem_cons_self)
        have hhead : Fin.ofNat 256 u = (255 : Byte) := (List.cons.inj heq).1
        have hval := congrArg Fin.val hhead
        rw [Fin.val_ofNat, Nat.mod_eq_of_lt (Nat.lt_trans hlt (by decide))] at hval
        subst hval
        exact absurd hlt (by decide)
    · exact hvalues
  · exact unaryText_unaryBytes text

def asciiRuntime : TokenRuntime where
  utf8Encode := asciiBytes
  utf8Decode := asciiText
  base64UrlBytes := decode
  hmac payload := List.replicate 32 (Fin.ofNat 256 (payload.foldl (· + ·) 0))

theorem asciiRuntime_lawful : asciiRuntime.Lawful where
  utf8_decode_encode value := asciiText_asciiBytes (stringify 0 value)
  utf8_decode_nil := rfl
  base64UrlBytes_encode := decode_encode
  hmac_ne_nil payload := by simp [asciiRuntime]

/-- A session issued for an owner, verified ten milliseconds later. -/
theorem tokens_accepted_owner :
    let id : AuthSessionId := ⟨ascii "4f0c", by decide⟩
    let input : IssueInput := ⟨none, some (ascii "desktop"), none, some .owner, none⟩
    ∃ (world : World) (issuance : Issuance),
      exec (step asciiRuntime) (World.initial 1700000000000) [.issue id input, .advance 10] =
        some world ∧
      verify asciiRuntime world.now world.sessions issuance.session.token =
        .ok (issuance.verified issuance.session.token) ∧
      issuance.subject = ascii "desktop" ∧ issuance.session.role = .owner := by
  intro id input
  let claims := sessionClaims id (ascii "desktop") .owner .browserSessionCookie 1700000000000
    (1700000000000 + DEFAULT_SESSION_TTL)
  let issuance : Issuance := {
    session := {
      sessionId := id
      token := signedToken asciiRuntime claims
      method := .browserSessionCookie
      client := createDefaultClientMetadata
      expiresAt := 1700000000000 + DEFAULT_SESSION_TTL
      role := .owner }
    subject := ascii "desktop"
    issuedAt := 1700000000000 }
  let world : World := {
    now := 1700000000000 + (10 : Nat)
    sessions := KeyedTable.put (issuance.row none) (KeyedTable.empty _)
    history := [.issued issuance] }
  have hrun : exec (step asciiRuntime) (World.initial 1700000000000)
      [.issue id input, .advance 10] = some world := rfl
  have hparts := tokenParts_signedToken asciiRuntime_lawful claims
  have hunforged : Unforged asciiRuntime world issuance.session.token :=
    fun payload signature hpayload _ =>
      ⟨.issued issuance, by simp [world], _, signature, rfl, hpayload⟩
  have hvalid : issuance.Valid world := by
    refine ⟨[], [], rfl, by decide, ?_⟩
    rintro ⟨entry, hentry, -⟩
    cases hentry
  refine ⟨world, issuance, hrun, ?_, rfl, rfl⟩
  exact ((tokens_accepted_iff asciiRuntime asciiRuntime_lawful 1700000000000
    [.issue id input, .advance 10] world hrun issuance.session.token hunforged).1 _).mpr
    ⟨issuance, hvalid, ⟨_, _, _, hparts, hparts, rfl⟩, rfl⟩

end GT3Code.Auth
