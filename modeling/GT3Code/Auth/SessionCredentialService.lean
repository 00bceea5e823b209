import GT3Code.Base.Base64Url
import GT3Code.Base.JsonNumber
import GT3Code.Shared.SchemaJson

/-! # Session credentials

`issue` signs the claims of a session and stores a row for it, `issueWebSocketToken`
signs claims that name a session, and the two verifiers check a token against its
signature, its claims and the row. Both kinds of token are signed with one key.
-/

namespace GT3Code.Auth

open GT3Code.Base GT3Code.Base.Json GT3Code.Base.Base64Url

/-! ## Identifiers and enumerations -/

/-- `String.prototype.trim`. -/
def trim (value : Text) : Text :=
  ((value.dropWhile Shared.isSpace).reverse.dropWhile Shared.isSpace).reverse

abbrev AuthSessionId := { value : Text // trim value = value ∧ value ≠ [] }

def decodeSessionId (value : Text) : Option AuthSessionId :=
  if h : trim (trim value) = trim value ∧ trim value ≠ [] then some ⟨trim value, h⟩ else none

inductive SessionRole where
  | owner
  | client

inductive ServerAuthSessionMethod where
  | browserSessionCookie
  | bearerSessionToken

inductive AuthClientMetadataDeviceType where
  | desktop
  | mobile
  | tablet
  | bot
  | unknown

def SessionRole.literal : SessionRole → Text
  | .owner => ascii "owner"
  | .client => ascii "client"

def ServerAuthSessionMethod.literal : ServerAuthSessionMethod → Text
  | .browserSessionCookie => ascii "browser-session-cookie"
  | .bearerSessionToken => ascii "bearer-session-token"

def decodeRole (value : Text) : Option SessionRole :=
  if value = ascii "owner" then some .owner
  else if value = ascii "client" then some .client
  else none

def decodeMethod (value : Text) : Option ServerAuthSessionMethod :=
  if value = ascii "browser-session-cookie" then some .browserSessionCookie
  else if value = ascii "bearer-session-token" then some .bearerSessionToken
  else none

structure AuthClientMetadata where
  label : Option Text
  ipAddress : Option Text
  userAgent : Option Text
  deviceType : AuthClientMetadataDeviceType
  os : Option Text
  browser : Option Text

def createDefaultClientMetadata : AuthClientMetadata where
  label := none
  ipAddress := none
  userAgent := none
  deviceType := .unknown
  os := none
  browser := none

def toClientMetadata (record : AuthClientMetadata) : AuthClientMetadata where
  label := record.label.filter (fun value => value ≠ [])
  ipAddress := record.ipAddress.filter (fun value => value ≠ [])
  userAgent := record.userAgent.filter (fun value => value ≠ [])
  deviceType := record.deviceType
  os := record.os.filter (fun value => value ≠ [])
  browser := record.browser.filter (fun value => value ≠ [])

/-- UTF-8, `Buffer.from(text, "base64url")` and HMAC-SHA256 under the server's signing key. -/
structure TokenRuntime where
  utf8Encode : Text → List Byte
  utf8Decode : List Byte → Text
  base64UrlBytes : Text → List Byte
  hmac : Text → List Byte

/-- UTF-8 decoding inverts encoding on the texts of JSON values, `Buffer` reads back what
base64url encoding wrote, and a digest is not empty. -/
structure TokenRuntime.Lawful (runtime : TokenRuntime) : Prop where
  utf8_decode_encode : ∀ value, runtime.utf8Decode (runtime.utf8Encode (stringify 0 value)) =
    stringify 0 value
  utf8_decode_nil : runtime.utf8Decode [] = []
  base64UrlBytes_encode : ∀ bytes, runtime.base64UrlBytes (encode bytes) = bytes
  hmac_ne_nil : ∀ payload, runtime.hmac payload ≠ []

section Service

variable (runtime : TokenRuntime)

def base64UrlEncode (input : Text) : Text := encode (runtime.utf8Encode input)

def base64UrlDecodeUtf8 (input : Text) : Text := runtime.utf8Decode (runtime.base64UrlBytes input)

def signPayload (payload : Text) : Text := encode (runtime.hmac payload)

def timingSafeEqualBase64Url (left right : Text) : Bool :=
  let leftBuffer := runtime.base64UrlBytes left
  let rightBuffer := runtime.base64UrlBytes right
  if leftBuffer.length ≠ rightBuffer.length then false else leftBuffer = rightBuffer

def stringField (key : Text) (d : Doc Text) : Option Text :=
  (d.field? key).bind (fun value => match value with
    | .str text => some text
    | _ => none)

def numberField (key : Text) (d : Doc Text) : Option ℚ :=
  (d.field? key).bind (fun value => match value with
    | .scalar (.num literal) => some (numberValue literal)
    | _ => none)

structure SessionClaims where
  sid : AuthSessionId
  sub : Text
  role : SessionRole
  method : ServerAuthSessionMethod
  iat : ℚ
  exp : ℚ

structure WebSocketClaims where
  sid : AuthSessionId
  iat : ℚ
  exp : ℚ

/-- The claims object `issue` signs. -/
def sessionClaims (sid : AuthSessionId) (sub : Text) (role : SessionRole)
    (method : ServerAuthSessionMethod) (iat exp : Int) : Value :=
  ⟨.obj [
    (ascii "v", number 1),
    (ascii "kind", .str (ascii "session")),
    (ascii "sid", .str sid.1),
    (ascii "sub", .str sub),
    (ascii "role", .str role.literal),
    (ascii "method", .str method.literal),
    (ascii "iat", number iat),
    (ascii "exp", number exp)], rfl⟩

/-- The claims object `issueWebSocketToken` signs. -/
def webSocketClaims (sid : AuthSessionId) (iat exp : Int) : Value :=
  ⟨.obj [
    (ascii "v", number 1),
    (ascii "kind", .str (ascii "websocket")),
    (ascii "sid", .str sid.1),
    (ascii "iat", number iat),
    (ascii "exp", number exp)], rfl⟩

/-- `Schema.fromJsonString(SessionClaims)`. -/
def decodeSessionClaims (text : Text) : Option SessionClaims := do
  let d ← (parse text).map Subtype.val
  let v ← numberField (ascii "v") d
  let kind ← stringField (ascii "kind") d
  if v = 1 ∧ kind = ascii "session" then
    let sid ← (stringField (ascii "sid") d).bind decodeSessionId
    let sub ← stringField (ascii "sub") d
    let role ← (stringField (ascii "role") d).bind decodeRole
    let method ← (stringField (ascii "method") d).bind decodeMethod
    let iat ← numberField (ascii "iat") d
    let exp ← numberField (ascii "exp") d
    some { sid, sub, role, method, iat, exp }
  else none

/-- `Schema.fromJsonString(WebSocketClaims)`. -/
def decodeWebSocketClaims (text : Text) : Option WebSocketClaims := do
  let d ← (parse text).map Subtype.val
  let v ← numberField (ascii "v") d
  let kind ← stringField (ascii "kind") d
  if v = 1 ∧ kind = ascii "websocket" then
    let sid ← (stringField (ascii "sid") d).bind decodeSessionId
    let iat ← numberField (ascii "iat") d
    let exp ← numberField (ascii "exp") d
    some { sid, iat, exp }
  else none

structure AuthSessionRecord where
  sessionId : AuthSessionId
  subject : Text
  role : SessionRole
  method : ServerAuthSessionMethod
  client : AuthClientMetadata
  issuedAt : Int
  expiresAt : Int
  revokedAt : Option Int

/-- Rows of `auth_sessions` under their primary key. -/
abbrev AuthSessions := KeyedTable (fun row : AuthSessionRecord => some row.sessionId)

namespace AuthSessions

/-- `INSERT`, refused for a session id that is there. -/
def create (row : AuthSessionRecord) (sessions : AuthSessions) : Option AuthSessions :=
  match KeyedTable.lookup row.sessionId sessions with
  | some _ => none
  | none => some (KeyedTable.put row sessions)

def getById (sessionId : AuthSessionId) (sessions : AuthSessions) : Option AuthSessionRecord :=
  KeyedTable.lookup sessionId sessions

/-- `UPDATE … SET revoked_at` of the selected rows that are not revoked yet. -/
def revokeWhere (selected : AuthSessionId → Bool) (revokedAt : Int) (sessions : AuthSessions) :
    AuthSessions :=
  KeyedTable.amend
    (fun row =>
      if selected row.sessionId && row.revokedAt.isNone then
        { row with revokedAt := some revokedAt }
      else row)
    (fun row => by split <;> rfl) sessions

def revoke (sessionId : AuthSessionId) (revokedAt : Int) (sessions : AuthSessions) :
    AuthSessions :=
  revokeWhere (fun id => id = sessionId) revokedAt sessions

def revokeAllExcept (currentSessionId : AuthSessionId) (revokedAt : Int)
    (sessions : AuthSessions) : AuthSessions :=
  revokeWhere (fun id => id ≠ currentSessionId) revokedAt sessions

end AuthSessions

/-- `Duration.days(30)` -/
def DEFAULT_SESSION_TTL : Int := 30 * 24 * 60 * 60 * 1000

/-- `Duration.minutes(5)` -/
def DEFAULT_WEBSOCKET_TOKEN_TTL : Int := 5 * 60 * 1000

structure IssueInput where
  ttl : Option Int
  subject : Option Text
  method : Option ServerAuthSessionMethod
  role : Option SessionRole
  client : Option AuthClientMetadata

structure IssuedSession where
  sessionId : AuthSessionId
  token : Text
  method : ServerAuthSessionMethod
  client : AuthClientMetadata
  expiresAt : Int
  role : SessionRole

structure VerifiedSession where
  sessionId : AuthSessionId
  token : Text
  method : ServerAuthSessionMethod
  client : AuthClientMetadata
  expiresAt : ℚ
  subject : Text
  role : SessionRole

def dot : CodeUnit := 46

/-- `payload.signature` -/
def signedToken (claims : Value) : Text :=
  let encodedPayload := base64UrlEncode runtime (stringify 0 claims)
  encodedPayload ++ dot :: signPayload runtime encodedPayload

/-- `issue` with the random session id it draws. -/
def issue (now : Int) (sessionId : AuthSessionId) (input : IssueInput) (sessions : AuthSessions) :
    Except String (IssuedSession × AuthSessions) :=
  let expiresAt := now + input.ttl.getD DEFAULT_SESSION_TTL
  let subject := input.subject.getD (ascii "browser")
  let role := input.role.getD .client
  let method := input.method.getD .browserSessionCookie
  let client := input.client.getD createDefaultClientMetadata
  match sessions.create {
      sessionId, subject, role, method, client, issuedAt := now, expiresAt, revokedAt := none } with
  | none => .error "Failed to issue session credential."
  | some stored =>
    .ok ({
      sessionId
      token := signedToken runtime (sessionClaims sessionId subject role method now expiresAt)
      method
      client
      expiresAt
      role }, stored)

def issueWebSocketToken (now : Int) (sessionId : AuthSessionId) (ttl : Option Int) : Text × Int :=
  let expiresAt := now + ttl.getD DEFAULT_WEBSOCKET_TOKEN_TTL
  (signedToken runtime (webSocketClaims sessionId now expiresAt), expiresAt)

/-- `const [encodedPayload, signature] = token.split(".")`, undefined where a part is missing or
empty. -/
def tokenParts (token : Text) : Option (Text × Text) :=
  match token.splitOn dot with
  | encodedPayload :: signature :: _ =>
    if encodedPayload = [] ∨ signature = [] then none else some (encodedPayload, signature)
  | _ => none

def verify (now : Int) (sessions : AuthSessions) (token : Text) : Except String VerifiedSession :=
  match tokenParts token with
  | none => .error "Malformed session token."
  | some (encodedPayload, signature) =>
    let expectedSignature := signPayload runtime encodedPayload
    if timingSafeEqualBase64Url runtime signature expectedSignature = false then
      .error "Invalid session token signature."
    else
      match decodeSessionClaims (base64UrlDecodeUtf8 runtime encodedPayload) with
      | none => .error "Invalid session token payload."
      | some claims =>
        if claims.exp ≤ now then .error "Session token expired."
        else
          match sessions.getById claims.sid with
          | none => .error "Unknown session token."
          | some row =>
            if row.revokedAt.isSome then .error "Session token revoked."
            else
              .ok {
                sessionId := claims.sid
                token
                method := claims.method
                client := toClientMetadata row.client
                expiresAt := claims.exp
                subject := claims.sub
                role := claims.role }

def verifyWebSocketToken (now : Int) (sessions : AuthSessions) (token : Text) :
    Except String VerifiedSession :=
  match tokenParts token with
  | none => .error "Malformed websocket token."
  | some (encodedPayload, signature) =>
    let expectedSignature := signPayload runtime encodedPayload
    if timingSafeEqualBase64Url runtime signature expectedSignature = false then
      .error "Invalid websocket token signature."
    else
      match decodeWebSocketClaims (base64UrlDecodeUtf8 runtime encodedPayload) with
      | none => .error "Invalid websocket token payload."
      | some claims =>
        if claims.exp ≤ now then .error "Websocket token expired."
        else
          match sessions.getById claims.sid with
          | none => .error "Unknown websocket session."
          | some row =>
            if row.expiresAt ≤ now then .error "Websocket session expired."
            else if row.revokedAt.isSome then .error "Websocket session revoked."
            else
              .ok {
                sessionId := row.sessionId
                token
                method := row.method
                client := toClientMetadata row.client
                expiresAt := row.expiresAt
                subject := row.subject
                role := row.role }

end Service

end GT3Code.Auth
