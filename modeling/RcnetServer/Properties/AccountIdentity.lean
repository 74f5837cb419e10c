/-
  RcnetServer.Properties.AccountIdentity

  The account a token validation authenticates.

  The id passes through the `double` of the JSON parser and a cast that truncates.
  So a fractional id is accepted and cut off, an id below zero or past 64 bits makes
  the cast undefined, and of the ids that remain only those of at most 53 significant
  bits are kept.
-/

import RcnetServer.Services.Http
import RcnetServer.Simulation.Handlers

namespace RcnetServer

-- ============================================================================
-- The cast
-- ============================================================================

/-- The number is an account id that binary64 represents: a natural number of 64 bits
    that is a multiple of the last of its 53 significant places. -/
def RepresentableId (written : ℚ) : Prop :=
  ∃ id : ℕ, written = id ∧ id < 2 ^ 64 ∧ 2 ^ (Nat.log 2 id - 52) ∣ id

theorem castValueDouble_eq_some_iff (id : ℕ) :
    (∃ value, castValueDouble id = some value ∧ value.toNat = id) ↔
      id < 2 ^ 64 ∧ 2 ^ (Nat.log 2 id - 52) ∣ id := by
  constructor
  · rintro ⟨value, hcast, hvalue⟩
    have hid : id < 2 ^ 64 := hvalue ▸ value.toNat_lt
    have hlarge := Binary64.lt_overflow_of_lt hid
    refine ⟨hid, (Binary64.round_natCast_eq_self_iff hlarge).mp ?_⟩
    obtain ⟨rounded, hround, htrunc⟩ := Option.bind_eq_some_iff.mp hcast
    -- the rounding is a natural number, so nothing is truncated
    obtain ⟨m, rfl⟩ := Binary64.exists_natCast_of_round hround
    rw [Binary64.toUInt64_natCast] at htrunc
    split_ifs at htrunc with hm
    have hmid : m = id := by
      rw [← hvalue, ← Option.some.inj htrunc, UInt64.toNat_ofNat_of_lt' hm]
    rw [hround, hmid]
  · rintro ⟨hid, hdvd⟩
    have hlarge := Binary64.lt_overflow_of_lt hid
    have hround := (Binary64.round_natCast_eq_self_iff hlarge).mpr hdvd
    refine ⟨UInt64.ofNat id, ?_, UInt64.toNat_ofNat_of_lt' hid⟩
    unfold castValueDouble
    rw [hround, Option.bind_some, Binary64.toUInt64_natCast, if_pos hid]

/-- Every id up to `2 ^ 53` is representable. -/
theorem representableId_of_le {id : ℕ} (hid : id ≤ 2 ^ 53) : RepresentableId id :=
  ⟨id, rfl, by omega, Binary64.dvd_of_le hid⟩

-- ============================================================================
-- The replies
-- ============================================================================

section Replies

open ServerHttp

variable {cJSON_Parse : CJsonParse} {root : CJson} {result : HttpResult}
  {written written' : ℚ} {username username' : String}

/-- The tree has an object `user` that holds a number `id`, written `written`, and a
    string `username`. -/
def NamesUser (root : CJson) (written : ℚ) (username : String) : Prop :=
  ∃ members, CJson.getObjectItemCaseSensitive (some root) "user" = some (.object members) ∧
    members.lookup "id" = some (.number written) ∧
    members.lookup "username" = some (.string (some username))

/-- The status is 200 and the body is JSON that names a user of that id. -/
def NamesAccount (cJSON_Parse : CJsonParse) (result : HttpResult) (written : ℚ) : Prop :=
  ∃ body root username,
    result = .response 200 body ∧ cJSON_Parse (cStr body) = some root ∧
    NamesUser root written username

theorem NamesUser.unique (h : NamesUser root written username)
    (h' : NamesUser root written' username') : written = written' ∧ username = username' := by
  obtain ⟨members, huser, hid, hname⟩ := h
  obtain ⟨members', huser', hid', hname'⟩ := h'
  obtain rfl := CJson.object.inj (Option.some.inj (huser.symm.trans huser'))
  have hstring := CJson.string.inj (Option.some.inj (hname.symm.trans hname'))
  exact ⟨CJson.number.inj (Option.some.inj (hid.symm.trans hid')), Option.some.inj hstring⟩

/-- A reply names one id. -/
theorem NamesAccount.unique (h : NamesAccount cJSON_Parse result written)
    (h' : NamesAccount cJSON_Parse result written') : written = written' := by
  obtain ⟨body, root, username, hresult, hroot, huser⟩ := h
  obtain ⟨body', root', username', hresult', hroot', huser'⟩ := h'
  obtain ⟨-, rfl⟩ := HttpResult.response.inj (hresult.symm.trans hresult')
  obtain rfl := Option.some.inj (hroot.symm.trans hroot')
  exact (huser.unique huser').1

/-- With status 200 a tree is accepted exactly when it names a user, with the cast of
    the id. -/
theorem validTokenResponse_cases (root : CJson) :
    (∃ written username, NamesUser root written username ∧
      validTokenResponse root = (castValueDouble written).map fun value =>
        validResponse value username) ∨
    ((¬ ∃ written username, NamesUser root written username) ∧
      ∃ errorMessage, validTokenResponse root = some (invalidResponse errorMessage)) := by
  unfold validTokenResponse
  by_cases hobject :
      CJson.isObject (CJson.getObjectItemCaseSensitive (some root) "user") = true
  · obtain ⟨members, huser⟩ := (CJson.isObject_iff _).mp hobject
    simp only [huser, CJson.isObject_object, CJson.getObjectItemCaseSensitive_object,
      Bool.not_true, Bool.false_eq_true, if_false]
    split
    · rename_i hid hname
      exact Or.inl ⟨_, _, ⟨members, huser, hid, hname⟩, rfl⟩
    · rename_i hid hname
      refine Or.inr ⟨?_, _, rfl⟩
      rintro ⟨written, username, members', huser', hid', hname'⟩
      obtain rfl := CJson.object.inj (Option.some.inj (huser.symm.trans huser'))
      exact hname _ hname'
    · rename_i hid _
      refine Or.inr ⟨?_, _, rfl⟩
      rintro ⟨written, username, members', huser', hid', -⟩
      obtain rfl := CJson.object.inj (Option.some.inj (huser.symm.trans huser'))
      exact hid _ hid'
  · rw [if_pos (by simpa using hobject)]
    refine Or.inr ⟨?_, _, rfl⟩
    rintro ⟨written, username, members, huser, -⟩
    exact hobject ((CJson.isObject_iff _).mpr ⟨members, huser⟩)

theorem namesAccount_response_iff {status : Int} {body : List UInt8}
    (hroot : cJSON_Parse (cStr body) = some root) :
    NamesAccount cJSON_Parse (.response status body) written ↔
      status = 200 ∧ ∃ username, NamesUser root written username := by
  constructor
  · rintro ⟨body', root', username, hresponse, hroot', huser⟩
    obtain ⟨rfl, rfl⟩ := HttpResult.response.inj hresponse
    obtain rfl := Option.some.inj (hroot.symm.trans hroot')
    exact ⟨rfl, username, huser⟩
  · rintro ⟨rfl, username, huser⟩
    exact ⟨body, root, username, rfl, hroot, huser⟩

/-- A result is accepted exactly when it names an account, with the cast of the id. -/
theorem validateTokenResult_cases (cJSON_Parse : CJsonParse) (result : HttpResult) :
    (∃ written username, NamesAccount cJSON_Parse result written ∧
      validateTokenResult cJSON_Parse result =
        (castValueDouble written).map fun value =>
        validResponse value username) ∨
    ((¬ ∃ written, NamesAccount cJSON_Parse result written) ∧
      ∃ errorMessage,
        validateTokenResult cJSON_Parse result = some (invalidResponse errorMessage)) := by
  unfold validateTokenResult
  split
  · refine Or.inr ⟨?_, _, rfl⟩
    rintro ⟨written, body, root, username, hresponse, -⟩
    cases hresponse
  · rename_i status body
    split
    · rename_i hnone
      refine Or.inr ⟨?_, _, rfl⟩
      rintro ⟨written, body', root, username, hresponse, hroot, -⟩
      obtain ⟨-, rfl⟩ := HttpResult.response.inj hresponse
      cases hnone.symm.trans hroot
    · rename_i root hroot
      simp only [namesAccount_response_iff hroot]
      split_ifs with hok hrefused
      · rcases validTokenResponse_cases root with ⟨written, username, huser, heq⟩ | ⟨hnone, h⟩
        · exact Or.inl ⟨written, username, ⟨hok, username, huser⟩, heq⟩
        · refine Or.inr ⟨?_, h⟩
          rintro ⟨written, -, huser⟩
          exact hnone ⟨written, huser⟩
      · obtain ⟨errorMessage, h⟩ := refusedTokenResponse_eq root
        refine Or.inr ⟨?_, errorMessage, congrArg some h⟩
        rintro ⟨written, hstatus, -⟩
        exact hok hstatus
      · refine Or.inr ⟨?_, _, rfl⟩
        rintro ⟨written, hstatus, -⟩
        exact hok hstatus

/-- What a result that names an account is answered with, where the cast is defined. -/
theorem validateTokenResult_of_namesAccount {value : UInt64}
    (hnames : NamesAccount cJSON_Parse result written)
    (hcast : castValueDouble written = some value) :
    ∃ username, validateTokenResult cJSON_Parse result = some (validResponse value username) := by
  rcases validateTokenResult_cases cJSON_Parse result with
    ⟨written', username, hnames', heq⟩ | ⟨hnone, -⟩
  · obtain rfl := hnames.unique hnames'
    rw [heq, hcast]
    exact ⟨username, rfl⟩
  · exact absurd ⟨written, hnames⟩ hnone

end Replies

-- ============================================================================
-- The authenticated account
-- ============================================================================

section Identity

open ServerHttp

variable {cJSON_Parse : CJsonParse}

/-- The request returns, its answer is valid exactly when `result` names an account by a
    natural number, and then the answer and the session it is applied to carry that
    number. -/
def ExactIdentity (cJSON_Parse : CJsonParse) (result : HttpResult)
    (answer : Option AuthTokenVerificationHTTPResponse) : Prop :=
  ∃ response, answer = some response ∧
    (response.isValid = true ↔ ∃ id : ℕ, NamesAccount cJSON_Parse result id) ∧
    ∀ id : ℕ, NamesAccount cJSON_Parse result id →
      response.accountIdDatabase.toNat = id ∧
      ∀ (Peer : Type) (networkState : NetworkState Peer) (c : ConnectionId) (x : ClientSession),
        networkState.sessions.lookup c = some x →
        ∃ y, (ServerSimulation.handleAuthValidateTokenResponseMessage networkState
            { connectionId := c, authTokenVerificationResponse := response }).1.sessions.lookup c =
              some y ∧
          y.authStatus = .valid ∧ y.accountIdDatabase.toNat = id

/-- Valid answers to results with different ids carry different accounts. -/
def DistinctAccounts (cJSON_Parse : CJsonParse) (result result' : HttpResult)
    (answer answer' : Option AuthTokenVerificationHTTPResponse) : Prop :=
  ∀ response response' written written',
    answer = some response → answer' = some response' →
    response.isValid = true → response'.isValid = true →
    NamesAccount cJSON_Parse result written → NamesAccount cJSON_Parse result' written' →
    written ≠ written' → response.accountIdDatabase ≠ response'.accountIdDatabase

/-- If the result names an account, then by a representable id. -/
def NamesRepresentable (cJSON_Parse : CJsonParse) (result : HttpResult) : Prop :=
  ∀ written, NamesAccount cJSON_Parse result written → RepresentableId written

/-- A valid response makes its account that of the session. -/
theorem lookup_after_valid {Peer : Type} {networkState : NetworkState Peer} {c : ConnectionId}
    {x : ClientSession} (response : AuthTokenVerificationHTTPResponse)
    (found : networkState.sessions.lookup c = some x) (hvalid : response.isValid = true) :
    ∃ y, (ServerSimulation.handleAuthValidateTokenResponseMessage networkState
        { connectionId := c, authTokenVerificationResponse := response }).1.sessions.lookup c =
          some y ∧
      y.authStatus = .valid ∧ y.accountIdDatabase = response.accountIdDatabase := by
  refine ⟨x.applyAuthResponse response, ?_, ?_, ?_⟩
  · rw [ServerSimulation.lookup_handleAuthValidateTokenResponseMessage, if_pos rfl, found]
    rfl
  · simp [ClientSession.applyAuthResponse, hvalid]
  · simp [ClientSession.applyAuthResponse, hvalid]

theorem exactIdentity_iff (result : HttpResult) :
    ExactIdentity cJSON_Parse result (validateTokenResult cJSON_Parse result) ↔
      NamesRepresentable cJSON_Parse result := by
  rcases validateTokenResult_cases cJSON_Parse result with
    ⟨written, username, hnames, heq⟩ | ⟨hnone, errorMessage, heq⟩
  · rw [heq]
    constructor
    · rintro ⟨response, hresponse, hvalid, haccount⟩ written' hnames'
      obtain rfl := hnames.unique hnames'
      obtain ⟨value, hcast, rfl⟩ := Option.map_eq_some_iff.mp hresponse
      obtain ⟨id, hid⟩ := hvalid.mp rfl
      obtain rfl := hnames.unique hid
      have hvalue := (haccount id hid).1
      exact ⟨id, rfl, (castValueDouble_eq_some_iff id).mp ⟨value, hcast, hvalue⟩⟩
    · intro hrepresentable
      obtain ⟨id, rfl, hid⟩ := hrepresentable written hnames
      obtain ⟨value, hcast, hvalue⟩ := (castValueDouble_eq_some_iff id).mpr hid
      rw [hcast]
      refine ⟨_, rfl, ⟨fun _ => ⟨id, hnames⟩, fun _ => rfl⟩, ?_⟩
      intro id' hnames'
      have hsame : id = id' := Nat.cast_injective (hnames.unique hnames')
      refine ⟨hvalue.trans hsame, ?_⟩
      intro Peer networkState c x found
      obtain ⟨y, hy, hstatus, haccount⟩ :=
        lookup_after_valid (validResponse value username) found rfl
      refine ⟨y, hy, hstatus, ?_⟩
      rw [haccount]
      exact hvalue.trans hsame
  · rw [heq]
    constructor
    · intro _ written hnames
      exact absurd ⟨written, hnames⟩ hnone
    · intro _
      refine ⟨_, rfl, ⟨fun h => absurd h Bool.false_ne_true, ?_⟩, ?_⟩
      · rintro ⟨id, hnames⟩
        exact absurd ⟨_, hnames⟩ hnone
      · intro id hnames
        exact absurd ⟨_, hnames⟩ hnone

/-- Ids up to `2 ^ 53` are exact. -/
theorem exactIdentity_of_le {result : HttpResult}
    (h : ∀ written, NamesAccount cJSON_Parse result written →
      ∃ id : ℕ, written = id ∧ id ≤ 2 ^ 53) :
    ExactIdentity cJSON_Parse result (validateTokenResult cJSON_Parse result) := by
  refine (exactIdentity_iff result).mpr ?_
  intro written hnames
  obtain ⟨id, rfl, hid⟩ := h written hnames
  exact representableId_of_le hid

/-- Two results that are exact do not share an account. -/
theorem distinctAccounts_of_exact {result result' : HttpResult}
    {answer answer' : Option AuthTokenVerificationHTTPResponse}
    (h : ExactIdentity cJSON_Parse result answer)
    (h' : ExactIdentity cJSON_Parse result' answer') :
    DistinctAccounts cJSON_Parse result result' answer answer' := by
  intro r r' written written' hr hr' hvalid hvalid' hnames hnames' hne haccount
  obtain ⟨response, hresponse, hiff, hexact⟩ := h
  obtain ⟨response', hresponse', hiff', hexact'⟩ := h'
  obtain rfl := Option.some.inj (hr.symm.trans hresponse)
  obtain rfl := Option.some.inj (hr'.symm.trans hresponse')
  obtain ⟨id, hid⟩ := hiff.mp hvalid
  obtain ⟨id', hid'⟩ := hiff'.mp hvalid'
  have hids : id = id' := by
    rw [← (hexact id hid).1, ← (hexact' id' hid').1, haccount]
  apply hne
  rw [hnames.unique hid, hnames'.unique hid', hids]

/-- The identity is exact, of any two replies, exactly when every id they authenticate
    is representable. -/
theorem accountIdentity_exact_iff (cJSON_Parse : CJsonParse)
    (cliPost cliPost' : HttpPost → HttpResult) (authToken authToken' : List UInt8) :
    (ExactIdentity cJSON_Parse (cliPost (validateTokenPost authToken))
        (validateTokenRequest cJSON_Parse cliPost authToken) ∧
      ExactIdentity cJSON_Parse (cliPost' (validateTokenPost authToken'))
        (validateTokenRequest cJSON_Parse cliPost' authToken') ∧
      DistinctAccounts cJSON_Parse (cliPost (validateTokenPost authToken))
        (cliPost' (validateTokenPost authToken'))
        (validateTokenRequest cJSON_Parse cliPost authToken)
        (validateTokenRequest cJSON_Parse cliPost' authToken')) ↔
      NamesRepresentable cJSON_Parse (cliPost (validateTokenPost authToken)) ∧
        NamesRepresentable cJSON_Parse (cliPost' (validateTokenPost authToken')) := by
  unfold validateTokenRequest
  constructor
  · rintro ⟨h, h', -⟩
    exact ⟨(exactIdentity_iff _).mp h, (exactIdentity_iff _).mp h'⟩
  · rintro ⟨h, h'⟩
    have hexact := (exactIdentity_iff _).mpr h
    have hexact' := (exactIdentity_iff _).mpr h'
    exact ⟨hexact, hexact', distinctAccounts_of_exact hexact hexact'⟩

end Identity

-- ============================================================================
-- Two accounts in one
-- ============================================================================

/-- The text of a reply that names an account. -/
def accountReplyText (id : String) : List UInt8 :=
  ("\x7b\"user\":\x7b\"id\":" ++ id ++ ",\"username\":\"ada\"\x7d\x7d").toUTF8.toList

/-- Its tree. -/
def accountReplyTree (id : ℚ) : CJson :=
  .object [("user", .object [("id", .number id), ("username", .string (some "ada"))])]

/-- A parser on the texts of two ids. -/
def parseAccountReplies : CJsonParse := fun text =>
  if text = accountReplyText "9007199254740993" then
    some (accountReplyTree 9007199254740993)
  else if text = accountReplyText "9007199254740992" then
    some (accountReplyTree 9007199254740992)
  else none

/-- A backend that answers every request with the account `id`. -/
def accountBackend (id : String) : HttpPost → HttpResult := fun _ =>
  .response 200 (accountReplyText id)

theorem accountBackend_odd : NamesAccount parseAccountReplies
    (accountBackend "9007199254740993" (ServerHttp.validateTokenPost []))
    9007199254740993 := by
  have htext : cStr (accountReplyText "9007199254740993") =
      accountReplyText "9007199254740993" := by decide +kernel
  refine ⟨_, accountReplyTree 9007199254740993, "ada", rfl, ?_, _, rfl, rfl, rfl⟩
  rw [htext]
  exact if_pos rfl

theorem accountBackend_even : NamesAccount parseAccountReplies
    (accountBackend "9007199254740992" (ServerHttp.validateTokenPost []))
    9007199254740992 := by
  have htext : cStr (accountReplyText "9007199254740992") =
      accountReplyText "9007199254740992" := by decide +kernel
  have hother : accountReplyText "9007199254740992" ≠
      accountReplyText "9007199254740993" := by decide +kernel
  refine ⟨_, accountReplyTree 9007199254740992, "ada", rfl, ?_, _, rfl, rfl, rfl⟩
  rw [htext]
  exact (if_neg hother).trans (if_pos rfl)

/-- `2 ^ 53 + 1` is authenticated as the account `2 ^ 53`. -/
theorem accountIdentity_collision :
    ¬ ∀ (cJSON_Parse : CJsonParse) (cliPost cliPost' : HttpPost → HttpResult)
      (authToken authToken' : List UInt8),
      ExactIdentity cJSON_Parse (cliPost (ServerHttp.validateTokenPost authToken))
          (ServerHttp.validateTokenRequest cJSON_Parse cliPost authToken) ∧
        ExactIdentity cJSON_Parse (cliPost' (ServerHttp.validateTokenPost authToken'))
          (ServerHttp.validateTokenRequest cJSON_Parse cliPost' authToken') ∧
        DistinctAccounts cJSON_Parse (cliPost (ServerHttp.validateTokenPost authToken))
          (cliPost' (ServerHttp.validateTokenPost authToken'))
          (ServerHttp.validateTokenRequest cJSON_Parse cliPost authToken)
          (ServerHttp.validateTokenRequest cJSON_Parse cliPost' authToken') := by
  intro hclaim
  obtain ⟨-, -, hdistinct⟩ := hclaim parseAccountReplies (accountBackend "9007199254740993")
    (accountBackend "9007199254740992") [] []
  obtain ⟨username, hodd⟩ := validateTokenResult_of_namesAccount accountBackend_odd
    (show _ = some 9007199254740992 by decide +kernel)
  obtain ⟨username', heven⟩ := validateTokenResult_of_namesAccount accountBackend_even
    (show _ = some 9007199254740992 by decide +kernel)
  exact hdistinct _ _ _ _ hodd heven rfl rfl accountBackend_odd accountBackend_even
    (by norm_num) rfl

end RcnetServer
