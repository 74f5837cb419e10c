/-
  RcnetServer.Services.Http

  The request of the HTTP thread to the authentication backend (services/http).

  The HTTP client and the JSON parser are not part of the sources.  The client is a
  function from the request to what comes back; the parser is a function from the body
  to a tree.  A JSON number is kept as it is written: `valuedouble` is its binary64
  rounding, an infinity when it overflows.
-/

import RcnetServer.Lib.Binary64
import RcnetServer.State

namespace RcnetServer

-- ============================================================================
-- The HTTP client
-- ============================================================================

/-- `httplib::Error`, with the `httplib::to_string` of the values the code does not name. -/
inductive HttplibError
  | connection
  | connectionTimeout
  | timeout
  | read
  | write
  | invalidHeaders
  | other (text : String)
deriving DecidableEq

/-- The arguments of `httplib::Client::Post`. -/
structure HttpPost where
  path : String
  headers : List (String × List UInt8)
  body : List UInt8
  contentType : String
deriving DecidableEq

/-- The `httplib::Result` of a request. -/
inductive HttpResult
  | error (error : HttplibError)
  | response (status : Int) (body : List UInt8)
deriving DecidableEq

-- ============================================================================
-- cJSON
-- ============================================================================

/-- A `cJSON` item: a number by the value written in the text, a string by its
    `valuestring`, an object by its members in order. -/
inductive CJson
  | null
  | bool (value : Bool)
  | number (written : ℚ)
  | string (valuestring : Option String)
  | array (items : List CJson)
  | object (members : List (String × CJson))

namespace CJson

/-- `cJSON_GetObjectItemCaseSensitive`: the first member of that name. -/
def getObjectItemCaseSensitive (item : Option CJson) (name : String) : Option CJson :=
  match item with
  | some (.object members) => members.lookup name
  | _ => none

/-- `cJSON_IsObject`. -/
def isObject (item : Option CJson) : Bool :=
  match item with
  | some (.object _) => true
  | _ => false

@[simp] theorem getObjectItemCaseSensitive_object (members : List (String × CJson))
    (name : String) :
    getObjectItemCaseSensitive (some (.object members)) name = members.lookup name := rfl

@[simp] theorem isObject_object (members : List (String × CJson)) :
    isObject (some (.object members)) = true := rfl

theorem isObject_iff (item : Option CJson) :
    isObject item = true ↔ ∃ members, item = some (.object members) := by
  constructor
  · intro h
    unfold isObject at h
    split at h
    · exact ⟨_, rfl⟩
    · cases h
  · rintro ⟨members, rfl⟩
    rfl

end CJson

/-- `cJSON_Parse`. -/
abbrev CJsonParse := List UInt8 → Option CJson

/-- `std::string::c_str`, read as a C string. -/
def cStr (s : List UInt8) : List UInt8 :=
  s.takeWhile fun byte => byte ≠ 0

/-- `static_cast<uint64_t>(item->valuedouble)` of a number written `written`; `none`
    where the cast is undefined. -/
def castValueDouble (written : ℚ) : Option UInt64 :=
  (Binary64.round written).bind Binary64.toUInt64

-- ============================================================================
-- Token validation
-- ============================================================================

namespace ServerHttp

/-- `ServerHttp_BuildValidateTokenTransportErrorMessage`. -/
def buildValidateTokenTransportErrorMessage : HttplibError → String
  | .connection => "HTTP transport error (connection failed)"
  | .connectionTimeout | .timeout => "HTTP transport error (request timed out)"
  | .read | .write => "HTTP transport error (socket read/write failure)"
  | .invalidHeaders =>
      "HTTP transport error (invalid request headers; check auth token format)"
  | .other text => "HTTP transport error (" ++ text ++ ")"

/-- The request for one token. -/
def validateTokenPost (authToken : List UInt8) : HttpPost :=
  { path := "/auth/validate-token"
    headers := [("Authorization", "Bearer ".toUTF8.toList ++ authToken)]
    body := []
    contentType := "application/json" }

/-- A response with `isValid` false. -/
def invalidResponse (errorMessage : String) : AuthTokenVerificationHTTPResponse :=
  { isValid := false, errorMessage := errorMessage }

/-- A response with `isValid` true. -/
def validResponse (accountIdDatabase : UInt64) (username : String) :
    AuthTokenVerificationHTTPResponse :=
  { isValid := true
    errorMessage := ""
    accountIdDatabase := accountIdDatabase
    accountUsernameDatabase := username }

/-- The status 200 of `validateTokenRequest`. -/
def validTokenResponse (responseRoot : CJson) : Option AuthTokenVerificationHTTPResponse :=
  let userItem := CJson.getObjectItemCaseSensitive (some responseRoot) "user"
  if !CJson.isObject userItem then
    some (invalidResponse "Missing or invalid 'user' object in JSON response")
  else
    match CJson.getObjectItemCaseSensitive userItem "id",
      CJson.getObjectItemCaseSensitive userItem "username" with
    | some (.number written), some (.string (some valuestring)) =>
        (castValueDouble written).map fun accountIdDatabase =>
          validResponse accountIdDatabase valuestring
    | some (.number _), _ =>
        some (invalidResponse "Missing or invalid 'user.username' in JSON response")
    | _, _ => some (invalidResponse "Missing or invalid 'user.id' in JSON response")

/-- The status 401 of `validateTokenRequest`. -/
def refusedTokenResponse (responseRoot : CJson) : AuthTokenVerificationHTTPResponse :=
  match CJson.getObjectItemCaseSensitive (some responseRoot) "message" with
  | some (.string (some valuestring)) => invalidResponse valuestring
  | _ => invalidResponse "Authentication required or invalid token or expired"

/-- What `validateTokenRequest` makes of the result of its request. -/
def validateTokenResult (cJSON_Parse : CJsonParse) (result : HttpResult) :
    Option AuthTokenVerificationHTTPResponse :=
  match result with
  | .error error => some (invalidResponse (buildValidateTokenTransportErrorMessage error))
  | .response status body =>
      match cJSON_Parse (cStr body) with
      | none => some (invalidResponse "Failed to parse JSON response")
      | some responseRoot =>
          if status = 200 then validTokenResponse responseRoot
          else if status = 401 then some (refusedTokenResponse responseRoot)
          else some (invalidResponse
            ("Auth API returned unexpected HTTP status: " ++ toString status))

/-- `ServerHttp_Auth_ValidateTokenRequest`; `none` where the cast of the id is undefined. -/
def validateTokenRequest (cJSON_Parse : CJsonParse) (cliPost : HttpPost → HttpResult)
    (authToken : List UInt8) : Option AuthTokenVerificationHTTPResponse :=
  validateTokenResult cJSON_Parse (cliPost (validateTokenPost authToken))

/-- A refusal is not valid, whatever its message. -/
theorem refusedTokenResponse_eq (responseRoot : CJson) :
    ∃ errorMessage, refusedTokenResponse responseRoot = invalidResponse errorMessage := by
  unfold refusedTokenResponse
  split
  · exact ⟨_, rfl⟩
  · exact ⟨_, rfl⟩

end ServerHttp

end RcnetServer
