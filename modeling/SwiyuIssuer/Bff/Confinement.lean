import SwiyuIssuer.Bff.MgmtApi
import SwiyuIssuer.Library.UrlPath
import Mathlib.Data.List.Forall2

/-! Which path parameters keep a guarded route at its own endpoint of the management API, once the
HTTP client has parsed the formatted URL. -/

namespace SwiyuIssuer.Bff

open Library UrlPath Percent

/-- A segment of a path template of the management API. -/
inductive Piece
  | literal (text : String)
  | param
deriving DecidableEq, Repr

structure Endpoint where
  method : Method
  template : List Piece
deriving DecidableEq, Repr

def api (rest : List Piece) : List Piece := .literal "api" :: .literal "v1" :: rest

def serving (template : List Piece) (methods : List Method) : List Endpoint :=
  methods.map fun method => ⟨method, template⟩

def managementApi : List Endpoint :=
  serving [.literal "healthz"] [.get] ++
  serving [.literal "readyz"] [.get] ++
  serving (api [.literal "issuers"]) [.post, .get] ++
  serving (api [.literal "issuers", .param]) [.get] ++
  serving (api [.literal "issuers", .param, .literal "deactivate"]) [.post] ++
  serving (api [.literal "issuers", .param, .literal "rotate-keys"]) [.post] ++
  serving (api [.literal "operation-tasks", .param]) [.get] ++
  serving (api [.literal "issuers", .param, .literal "credential-offers"]) [.post, .get] ++
  serving (api [.literal "issuers", .param, .literal "credential-offers", .param]) [.get] ++
  serving (api [.literal "issuers", .param, .literal "credential-offers", .param, .literal "cancel"])
    [.post] ++
  serving (api [.literal "issuers", .param, .literal "credential-offers", .param, .literal "status"])
    [.get] ++
  serving (api [.literal "issuers", .param, .literal "credentials"]) [.get] ++
  serving (api [.literal "issuers", .param, .literal "credentials", .param]) [.get] ++
  serving (api [.literal "issuers", .param, .literal "credentials", .param, .literal "suspend"])
    [.post] ++
  serving (api [.literal "issuers", .param, .literal "credentials", .param, .literal "unsuspend"])
    [.post] ++
  serving (api [.literal "issuers", .param, .literal "credentials", .param, .literal "revoke"])
    [.post] ++
  serving (api [.literal "credential-types"]) [.post, .get] ++
  serving (api [.literal "credential-types", .param]) [.get, .patch] ++
  serving (api [.literal "credential-types", .param, .literal "retire"]) [.post] ++
  serving (api [.literal "credential-types", .param, .literal "schema"]) [.get, .put] ++
  serving (api [.literal "credential-types", .param, .literal "display"]) [.get, .put] ++
  serving (api [.literal "credential-types", .param, .literal "claims"]) [.get, .put] ++
  serving (api [.literal "issuers", .param, .literal "credential-types"]) [.get] ++
  serving (api [.literal "issuers", .param, .literal "credential-types", .param]) [.post, .delete] ++
  serving (api [.literal "user-accounts"]) [.post, .get] ++
  serving (api [.literal "user-accounts", .param]) [.get, .patch] ++
  serving (api [.literal "user-accounts", .param, .literal "activate"]) [.post] ++
  serving (api [.literal "user-accounts", .param, .literal "deactivate"]) [.post] ++
  serving (api [.literal "user-accounts", .param, .literal "invitations"]) [.post, .get] ++
  serving (api [.literal "invitations", .param, .literal "revoke"]) [.post] ++
  serving (api [.literal "invitations", .param, .literal "accept"]) [.post] ++
  serving (api [.literal "linked-user-accounts"]) [.get]

/-- A template that its parameters have been put into. -/
inductive Segment
  | literal (text : String)
  | param (value : String)
deriving DecidableEq, Repr

def Segment.text : Segment → String
  | .literal text => text
  | .param value => value

def Segment.piece : Segment → Piece
  | .literal text => .literal text
  | .param _ => .param

def apiPath (rest : List Segment) : List Segment := .literal "api" :: .literal "v1" :: rest

namespace Route

def method : Route → Method
  | .createIssuer _ | .deactivateIssuer _ | .rotateKeys .. | .createCredentialOffer ..
  | .cancelCredentialOffer .. | .suspendCredential .. | .resumeCredential ..
  | .revokeCredential .. => .post
  | _ => .get

/-- The path that a route names, with each of its parameters as one segment. -/
def path : Route → List Segment
  | .listIssuers | .createIssuer _ => apiPath [.literal "issuers"]
  | .getIssuer issuerId | .getDidLog issuerId => apiPath [.literal "issuers", .param issuerId]
  | .deactivateIssuer issuerId =>
      apiPath [.literal "issuers", .param issuerId, .literal "deactivate"]
  | .rotateKeys issuerId _ => apiPath [.literal "issuers", .param issuerId, .literal "rotate-keys"]
  | .getTask taskId => apiPath [.literal "operation-tasks", .param taskId]
  | .listCredentialOffers issuerId _ | .createCredentialOffer issuerId _ =>
      apiPath [.literal "issuers", .param issuerId, .literal "credential-offers"]
  | .getCredentialOffer issuerId offerId =>
      apiPath [.literal "issuers", .param issuerId, .literal "credential-offers", .param offerId]
  | .cancelCredentialOffer issuerId offerId =>
      apiPath [.literal "issuers", .param issuerId, .literal "credential-offers", .param offerId,
        .literal "cancel"]
  | .listCredentials issuerId _ =>
      apiPath [.literal "issuers", .param issuerId, .literal "credentials"]
  | .getCredential issuerId credentialId =>
      apiPath [.literal "issuers", .param issuerId, .literal "credentials", .param credentialId]
  | .suspendCredential issuerId credentialId =>
      apiPath [.literal "issuers", .param issuerId, .literal "credentials", .param credentialId,
        .literal "suspend"]
  | .resumeCredential issuerId credentialId =>
      apiPath [.literal "issuers", .param issuerId, .literal "credentials", .param credentialId,
        .literal "unsuspend"]
  | .revokeCredential issuerId credentialId =>
      apiPath [.literal "issuers", .param issuerId, .literal "credentials", .param credentialId,
        .literal "revoke"]
  | .listCredentialTypes issuerId =>
      apiPath [.literal "issuers", .param issuerId, .literal "credential-types"]
  | .getCredentialTypeSchema credentialTypeId =>
      apiPath [.literal "credential-types", .param credentialTypeId, .literal "schema"]

def query : Route → List (String × String)
  | .listCredentialOffers _ query =>
      MgmtApiClient.present "limit" (query.limit.map toString) ++
        MgmtApiClient.present "cursor" query.cursor
  | .listCredentials _ query =>
      MgmtApiClient.present "limit" (query.limit.map toString) ++
        MgmtApiClient.present "cursor" query.cursor ++
        MgmtApiClient.present "state" query.state ++ MgmtApiClient.present "vct" query.vct
  | _ => []

def endpoint (route : Route) : Endpoint := ⟨route.method, route.path.map Segment.piece⟩

end Route

structure Sent where
  method : Method
  url : Parsed
  auth : UserAuth
  query : List (String × String)

/-- The HTTP client, given its URL parser; a URL that does not parse is not sent. -/
def send (parseUrl : String → Option Parsed) (call : Call) : Option Sent :=
  (parseUrl call.url).map fun url => ⟨call.method, url, call.auth, call.query⟩

/-- The parser follows the URL standard on the URLs of one origin, wherever it accepts them. -/
def Standard (set : EncodeSet) (origin : String) (parseUrl : String → Option Parsed) : Prop :=
  ∀ text url, parseUrl (origin ++ "/" ++ text) = some url → url = parse set text.toList

/-- What the router of the management API compares a segment of the request with: a literal byte for
byte, a parameter with anything that is not empty. -/
def Piece.Takes : Piece → List UInt8 → Prop
  | .literal text, bytes => bytes = Text.asBytes text
  | .param, bytes => bytes ≠ []

instance : DecidableRel Piece.Takes
  | .literal text, bytes => inferInstanceAs (Decidable (bytes = Text.asBytes text))
  | .param, bytes => inferInstanceAs (Decidable (bytes ≠ []))

/-- The segment is the literal, or the parameter once it is decoded. -/
def Segment.Is : Segment → List UInt8 → Prop
  | .literal text, bytes => bytes = Text.asBytes text
  | .param value, bytes => bytes ≠ [] ∧ decode bytes = Text.asBytes value

/-- `mount` is the path of the configured base URL. -/
def Endpoint.Takes (mount : List String) (endpoint : Endpoint) (sent : Sent) : Prop :=
  sent.method = endpoint.method ∧
    List.Forall₂ Piece.Takes (mount.map .literal ++ endpoint.template) sent.url.segments

instance (mount : List String) (endpoint : Endpoint) (sent : Sent) :
    Decidable (endpoint.Takes mount sent) :=
  inferInstanceAs (Decidable (_ ∧ _))

/-- The request is the one that the route names, and no other endpoint would take it. -/
structure Confined (mount : List String) (route : Route) (sent : Sent) : Prop where
  method : sent.method = route.method
  path : List.Forall₂ Segment.Is (mount.map .literal ++ route.path) sent.url.segments
  query : sent.url.query = none ∧ sent.query = route.query
  only : ∀ endpoint ∈ managementApi, endpoint.Takes mount sent → endpoint = route.endpoint

/-- No parameter is empty, has a slash, a backslash, `?`, `#`, a tab, a line break or an escape in
it, or is a dot segment; one at the end of the path does not end in a control character or space. -/
structure Route.Harmless (route : Route) : Prop where
  plain : ∀ value, .param value ∈ route.path → value ≠ "" ∧ Plain value.toList
  closed : ∀ value, route.path.getLast? = some (.param value) → Ends value.toList

def Segment.chars (segment : Segment) : List Char := segment.text.toList

theorem call_url (client : MgmtApiClient) (auth : UserAuth) (route : Route) :
    (route.call client auth).url =
      client.baseUrl ++ "/" ++ String.ofList (joined (route.path.map Segment.chars)) := by
  apply String.toList_injective
  cases route <;>
    simp [Route.call, MgmtApiClient.listIssuers, MgmtApiClient.createIssuer,
      MgmtApiClient.getIssuer, MgmtApiClient.deactivateIssuer, MgmtApiClient.rotateKeys,
      MgmtApiClient.getOperationTask, MgmtApiClient.listCredentialOffers,
      MgmtApiClient.getCredentialOffer, MgmtApiClient.createCredentialOffer,
      MgmtApiClient.cancelCredentialOffer, MgmtApiClient.listIssuedCredentials,
      MgmtApiClient.getIssuedCredential, MgmtApiClient.suspendIssuedCredential,
      MgmtApiClient.unsuspendIssuedCredential, MgmtApiClient.revokeIssuedCredential,
      MgmtApiClient.listCredentialTypes, MgmtApiClient.getCredentialTypeSchema,
      MgmtApiClient.actAsUser, ToString.toString, joined, List.intercalate, Route.path, apiPath,
      Segment.chars, Segment.text]

theorem call_rest (client : MgmtApiClient) (auth : UserAuth) (route : Route) :
    (route.call client auth).method = route.method ∧ (route.call client auth).query = route.query := by
  cases route <;> exact ⟨rfl, rfl⟩

theorem endpoint_mem (route : Route) : route.endpoint ∈ managementApi := by
  cases route <;>
    simp only [Route.endpoint, Route.method, Route.path, apiPath, List.map_cons, List.map_nil,
      Segment.piece] <;>
    decide

/-- A fixed part of a path, as the routes and a base URL have them. -/
structure Fixed (text : String) : Prop where
  unreserved : ∀ c ∈ text.toList, isUnreserved c = true
  named : text.toList ≠ ['.'] ∧ text.toList ≠ ['.', '.']

theorem Fixed.plain {text : String} (fixed : Fixed text) : Plain text.toList :=
  plain_of_unreserved fixed.unreserved fixed.named

theorem Fixed.encode (set : EncodeSet) {text : String} (fixed : Fixed text) :
    encode set text.toList = Text.asBytes text :=
  (encode_unreserved set fixed.unreserved).trans (utf8_toList text)

/-- The literals of the routes' paths. -/
def literals : List String :=
  ["api", "v1", "issuers", "deactivate", "rotate-keys", "operation-tasks", "credential-offers",
    "cancel", "credentials", "suspend", "unsuspend", "revoke", "credential-types", "schema"]

def Segment.isKnown : Segment → Bool
  | .literal text => literals.contains text
  | .param _ => true

theorem path_known (route : Route) : route.path.all Segment.isKnown = true := by
  cases route <;> rfl

theorem path_fixed {route : Route} {text : String} (listed : .literal text ∈ route.path) :
    Fixed text := by
  have known : text ∈ literals :=
    List.contains_iff_mem.mp (List.all_eq_true.mp (path_known route) _ listed)
  have all : ∀ text ∈ literals, text.toList.all isUnreserved = true ∧
      text.toList ≠ ['.'] ∧ text.toList ≠ ['.', '.'] := by decide
  exact ⟨List.all_eq_true.mp (all text known).1, (all text known).2⟩

def Piece.meets : Piece → Piece → Bool
  | .literal left, .literal right => left == right
  | _, _ => true

/-- Some path could be taken for both templates. -/
def overlap : List Piece → List Piece → Bool
  | [], [] => true
  | left :: lefts, right :: rights => left.meets right && overlap lefts rights
  | _, _ => false

theorem meets_of_takes {left right : Piece} {bytes : List UInt8} (one : left.Takes bytes)
    (two : right.Takes bytes) : left.meets right = true := by
  cases left with
  | param => rfl
  | literal text =>
      cases right with
      | param => rfl
      | literal other => simpa [Piece.meets] using Text.asBytes_injective (one.symm.trans two)

theorem overlap_of_takes {one two : List Piece} {path : List (List UInt8)}
    (left : List.Forall₂ Piece.Takes one path) (right : List.Forall₂ Piece.Takes two path) :
    overlap one two = true := by
  induction left generalizing two with
  | nil =>
      cases right
      rfl
  | cons takes _ ih =>
      cases right with
      | cons again later => exact Bool.and_eq_true_iff.mpr ⟨meets_of_takes takes again, ih later⟩

theorem overlap_mount (mount : List String) (one two : List Piece) :
    overlap (mount.map .literal ++ one) (mount.map .literal ++ two) = overlap one two := by
  induction mount with
  | nil => rfl
  | cons text mount ih => simpa [overlap, Piece.meets] using ih

/-- No path is taken for two endpoints with one method. -/
theorem managementApi_distinct : ∀ one ∈ managementApi, ∀ two ∈ managementApi,
    one.method = two.method → overlap one.template two.template = true → one = two := by
  decide +kernel

theorem takes_of_is {segment : Segment} {bytes : List UInt8} (same : segment.Is bytes) :
    segment.piece.Takes bytes := by
  cases segment with
  | literal text => exact same
  | param value => exact same.1

/-- A request that has the path of its route is taken by no other endpoint. -/
theorem only_endpoint {mount : List String} {route : Route} {sent : Sent}
    (method : sent.method = route.method)
    (path : List.Forall₂ Segment.Is (mount.map .literal ++ route.path) sent.url.segments) :
    ∀ endpoint ∈ managementApi, endpoint.Takes mount sent → endpoint = route.endpoint := by
  intro endpoint listed takes
  have own : List.Forall₂ Piece.Takes (mount.map .literal ++ route.endpoint.template)
      sent.url.segments := by
    have pieces : mount.map Piece.literal ++ route.endpoint.template =
        (mount.map Segment.literal ++ route.path).map Segment.piece := by
      rw [List.map_append, List.map_map]
      rfl
    rw [pieces, List.forall₂_map_left_iff]
    exact path.imp fun _ _ => takes_of_is
  have shared := overlap_of_takes takes.2 own
  rw [overlap_mount] at shared
  exact managementApi_distinct endpoint listed route.endpoint (endpoint_mem route)
    (takes.1.symm.trans method) shared

/-- The path of a base URL. -/
def mountPath (mount : List String) : String :=
  String.ofList (mount.flatMap fun text => '/' :: text.toList)

theorem mount_joined (mount : List (List Char)) {rest : List (List Char)} (some : rest ≠ []) :
    (mount.flatMap fun text => '/' :: text) ++ '/' :: joined rest = '/' :: joined (mount ++ rest) := by
  induction mount with
  | nil => rfl
  | cons text mount ih =>
      rw [List.flatMap_cons, List.append_assoc, ih, List.cons_append, List.cons_append,
        joined_cons text (by simp [some])]

section Requests

variable {set : EncodeSet} {origin : String} {parseUrl : String → Option Parsed}
  {mount : List String} {client : MgmtApiClient} {auth : UserAuth} {route : Route} {sent : Sent}

/-- The segments of a request, before any parser has seen them. -/
def formatted (mount : List String) (route : Route) : List Segment :=
  mount.map .literal ++ route.path

theorem path_ne_nil (route : Route) : route.path ≠ [] := by
  cases route <;> simp [Route.path, apiPath]

theorem sent_url (standard : Standard set origin parseUrl)
    (base : client.baseUrl = origin ++ mountPath mount)
    (sends : send parseUrl (route.call client auth) = some sent) :
    sent.method = route.method ∧ sent.query = route.query ∧
      sent.url = parse set (joined ((formatted mount route).map Segment.chars)) := by
  obtain ⟨url, accepted, rfl⟩ := Option.map_eq_some_iff.mp sends
  refine ⟨(call_rest client auth route).1, (call_rest client auth route).2, ?_⟩
  have text : (route.call client auth).url = origin ++ "/" ++
      String.ofList (joined ((formatted mount route).map Segment.chars)) := by
    have rest : route.path.map Segment.chars ≠ [] := by simp [path_ne_nil route]
    have slashes := mount_joined (mount.map String.toList) rest
    rw [List.flatMap_map] at slashes
    have literals : mount.map (Segment.chars ∘ Segment.literal) = mount.map String.toList := rfl
    rw [call_url, base, formatted, List.map_append, List.map_map, literals]
    apply String.toList_injective
    simpa [mountPath, List.append_assoc] using slashes
  rw [text] at accepted
  rw [standard _ url accepted, String.toList_ofList]

theorem formatted_fixed (mounted : ∀ text ∈ mount, Fixed text) {text : String}
    (listed : .literal text ∈ formatted mount route) : Fixed text := by
  rcases List.mem_append.mp listed with above | own
  · simp at above
    exact mounted text above
  · exact path_fixed own

theorem formatted_param {value : String} :
    .param value ∈ formatted mount route ↔ .param value ∈ route.path := by
  simp [formatted]

theorem closed_iff (mounted : ∀ text ∈ mount, Fixed text) :
    Closed ((formatted mount route).map Segment.chars) ↔
      ∀ value, route.path.getLast? = some (.param value) → Ends value.toList := by
  have last : (formatted mount route).getLast? = route.path.getLast? :=
    List.getLast?_append_of_ne_nil _ (path_ne_nil route)
  rw [Closed, List.getLast?_map, last]
  constructor
  · intro closed value final
    exact closed value.toList (by rw [final]; rfl)
  · intro params text final
    obtain ⟨segment, ending, rfl⟩ := Option.map_eq_some_iff.mp final
    cases segment with
    | literal text =>
        have listed := List.mem_of_getLast? (last.trans ending)
        exact ends_of_unreserved (formatted_fixed mounted listed).unreserved
    | param value => exact params value ending

/-- Segments that a request has are read back from it. -/
theorem map_decode_of_is {segments : List Segment} {path : List (List UInt8)}
    (fixed : ∀ text, .literal text ∈ segments → Fixed text)
    (same : List.Forall₂ Segment.Is segments path) :
    path.map decode = (segments.map Segment.chars).map utf8 := by
  induction same with
  | nil => rfl
  | @cons segment bytes rest others first _ ih =>
      have read : decode bytes = utf8 segment.chars := by
        cases segment with
        | literal text =>
            have whole := fixed text List.mem_cons_self
            rw [first, ← whole.encode pathSet]
            exact decode_encode pathSet whole.plain.unescaped
        | param value => exact first.2.trans (utf8_toList value).symm
      rw [List.map_cons, List.map_cons, List.map_cons, read,
        ih fun text listed => fixed text (List.mem_cons_of_mem _ listed)]

/-- A plain segment is itself in the request, unless it is an empty parameter. -/
theorem is_encode_iff {segment : Segment} (plain : Plain segment.chars)
    (fixed : ∀ text, segment = .literal text → Fixed text) :
    segment.Is (encode set segment.chars) ↔ segment ≠ .param "" := by
  cases segment with
  | literal text => simp [Segment.Is, Segment.chars, Segment.text, (fixed text rfl).encode set]
  | param value =>
      have read : decode (encode set value.toList) = Text.asBytes value :=
        (decode_encode set plain.unescaped).trans (utf8_toList value)
      simp [Segment.Is, Segment.chars, Segment.text, read, encode_eq_nil]

/-- Plain segments are in the request one by one, unless one is an empty parameter. -/
theorem path_encode_iff {segments : List Segment}
    (plain : ∀ text ∈ segments.map Segment.chars, Plain text)
    (fixed : ∀ text, .literal text ∈ segments → Fixed text) :
    List.Forall₂ Segment.Is segments ((segments.map Segment.chars).map (encode set)) ↔
      .param "" ∉ segments := by
  have each : ∀ segment ∈ segments,
      (segment.Is (encode set segment.chars) ↔ segment ≠ .param "") := by
    intro segment listed
    apply is_encode_iff (plain _ (List.mem_map_of_mem listed))
    rintro text rfl
    exact fixed text listed
  rw [List.map_map, List.forall₂_map_right_iff, List.forall₂_same]
  constructor
  · intro same listed
    exact (each _ listed).mp (same _ listed) rfl
  · intro absent segment listed
    apply (each segment listed).mpr
    rintro rfl
    exact absent listed

end Requests

/-- A request that the HTTP client accepts goes to the endpoint of its route, with each parameter as
one segment, and to no other, exactly when the parameters are harmless. -/
theorem request_is_confined_iff {set : EncodeSet} {origin : String}
    {parseUrl : String → Option Parsed} (standard : Standard set origin parseUrl)
    {mount : List String} (mounted : ∀ text ∈ mount, Fixed text) {client : MgmtApiClient}
    (base : client.baseUrl = origin ++ mountPath mount) (auth : UserAuth) (route : Route)
    {sent : Sent} (sends : send parseUrl (route.call client auth) = some sent) :
    Confined mount route sent ↔ route.Harmless := by
  obtain ⟨method, query, url⟩ := sent_url standard base sends
  have some : (formatted mount route).map Segment.chars ≠ [] := by
    simp [formatted, path_ne_nil route]
  have fixed : ∀ text, .literal text ∈ formatted mount route → Fixed text :=
    fun text => formatted_fixed mounted
  constructor
  · intro confined
    have path : List.Forall₂ Segment.Is (formatted mount route) sent.url.segments := confined.path
    have read := map_decode_of_is fixed path
    rw [url, parse_joined_iff set some] at read
    rw [url, parse_joined set some read.1 read.2, path_encode_iff read.1 fixed] at path
    constructor
    case plain =>
      intro value listed
      have member : .param value ∈ formatted mount route := formatted_param.mpr listed
      refine ⟨?_, read.1 _ (List.mem_map_of_mem member)⟩
      rintro rfl
      exact path member
    case closed => exact (closed_iff mounted).mp read.2
  · intro harmless
    have plain : ∀ text ∈ (formatted mount route).map Segment.chars, Plain text := by
      intro text listed
      obtain ⟨segment, member, rfl⟩ := List.mem_map.mp listed
      cases segment with
      | literal text => exact (fixed text member).plain
      | param value => exact (harmless.plain value (formatted_param.mp member)).2
    rw [parse_joined set some plain ((closed_iff mounted).mpr harmless.closed)] at url
    have path : List.Forall₂ Segment.Is (formatted mount route) sent.url.segments := by
      rw [url, path_encode_iff plain fixed]
      intro empty
      exact (harmless.plain "" (formatted_param.mp empty)).1 rfl
    exact ⟨method, path, ⟨by rw [url], query⟩, only_endpoint method path⟩

section Sample

def sampleParse (url : String) : Option Parsed :=
  (Text.stripPrefix "http://mgmtapi:8080/" url).map fun text => parse pathSet text.toList

theorem sampleParse_standard : Standard pathSet "http://mgmtapi:8080" sampleParse := by
  intro text url accepted
  have stripped : Text.stripPrefix "http://mgmtapi:8080/" ("http://mgmtapi:8080" ++ "/" ++ text) =
      some text := Text.stripPrefix_append "http://mgmtapi:8080/" text
  rw [sampleParse, stripped] at accepted
  exact (Option.some.inj accepted).symm

def sampleClient : MgmtApiClient := .new "http://mgmtapi:8080/"

def sampleAuth : UserAuth := ⟨"token", "a1"⟩

theorem sampleClient_base : sampleClient.baseUrl = "http://mgmtapi:8080" ++ mountPath [] := by
  decide

def sampleSent (route : Route) : Option Sent :=
  send sampleParse (route.call sampleClient sampleAuth)

theorem request_is_confined_iff_sample : ∃ sent,
    sampleSent (.suspendCredential "iss_1" "cred 1") = some sent ∧
      Confined [] (.suspendCredential "iss_1" "cred 1") sent := by
  have accepted : (sampleSent (.suspendCredential "iss_1" "cred 1")).isSome = true := by decide
  obtain ⟨sent, sends⟩ := Option.isSome_iff_exists.mp accepted
  refine ⟨sent, sends, ?_⟩
  refine (request_is_confined_iff sampleParse_standard (by simp) sampleClient_base sampleAuth
    (.suspendCredential "iss_1" "cred 1") sends).mpr ?_
  constructor
  case plain =>
    intro value listed
    have known : value = "iss_1" ∨ value = "cred 1" := by
      simpa [Route.path, apiPath] using listed
    rcases known with rfl | rfl
    · exact ⟨by decide, by decide⟩
    · exact ⟨by decide, by decide⟩
  case closed =>
    intro value last
    simp [Route.path, apiPath] at last

theorem stray {route : Route} {other : Endpoint} (listed : other ∈ managementApi)
    (different : other ≠ route.endpoint)
    (taken : (sampleSent route).any (fun sent => decide (other.Takes [] sent)) = true) :
    ∃ sent, sampleSent route = some sent ∧ other.Takes [] sent ∧ ¬Confined [] route sent := by
  obtain ⟨sent, sends, takes⟩ := (Option.any_eq_true _ _).mp taken
  have takes := of_decide_eq_true takes
  exact ⟨sent, sends, takes, fun confined => different (confined.only other listed takes)⟩

/-- A suspension revokes the credential instead, and the page of an issuer lists the tenant's
users. -/
theorem parameters_reach_other_endpoints :
    (∃ sent, sampleSent (.suspendCredential "iss_1" "cred_1/revoke?") = some sent ∧
      Endpoint.Takes [] (Route.revokeCredential "iss_1" "cred_1").endpoint sent ∧
        ¬Confined [] (.suspendCredential "iss_1" "cred_1/revoke?") sent) ∧
    ∃ sent, sampleSent (.getIssuer "../user-accounts") = some sent ∧
      Endpoint.Takes [] ⟨.get, api [.literal "user-accounts"]⟩ sent ∧
        ¬Confined [] (.getIssuer "../user-accounts") sent :=
  ⟨stray (endpoint_mem _) (by decide) (by decide +kernel),
    stray (by decide) (by decide) (by decide +kernel)⟩

end Sample

end SwiyuIssuer.Bff
