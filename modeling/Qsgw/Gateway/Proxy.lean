import Qsgw.Gateway.Uri

/-!
# The reverse proxy

`qsgw_gateway::proxy`. A route matches a request path by prefix; among the healthy
matching routes `find_route` returns one of greatest priority, by `max_by_key`, which
keeps the last of equal maxima. `build_upstream_uri` writes the upstream's host and port
in front of the (possibly stripped) request path and parses the result, and `forward`
sends the rewritten request through a client bounded by the service's timeout. The
client and the timer are a parameter: `none` when the timeout fires, else what the
client returns. `i32` priorities are integers, since only their order is used. An
upstream's name (a log field) and its `tls_verify` flag are read by no code path here.

Whatever the request path, the string `build_upstream_uri` parses is the configured
`host:port` followed by the appended path. By the parser's decomposition the query can
only come from a `?` in that string, and the authority runs to the path's first `/`.
-/

namespace Qsgw

inductive ProxyError where
  | connectionFailed (msg : String)
  | timeout
  | noHealthyUpstream
  | requestError (msg : String)
  deriving DecidableEq, Repr

structure Upstream where
  host : String
  port : UInt16
  isHealthy : Bool
  deriving DecidableEq, Repr

structure Route where
  pathPrefix : String
  upstream : Upstream
  stripPrefix : Bool
  priority : Int
  deriving DecidableEq, Repr

structure ProxyService where
  routes : List Route
  /-- `Duration::from_secs(timeout_secs)`, in seconds. -/
  timeout : Nat

/-- `str::starts_with`. -/
def startsWith (s pre : String) : Bool := pre.data.isPrefixOf s.data

/-- `str::strip_prefix`. -/
def stripPrefix (s pre : String) : Option String :=
  if startsWith s pre then some ⟨s.data.drop pre.data.length⟩ else none

/-- `cmp::max_by` on keys: the second value unless the first is strictly greater. -/
def maxStep {α : Type} (key : α → Int) (best y : α) : α :=
  if key best ≤ key y then y else best

/-- `Iterator::max_by_key`: the last of the elements of greatest key. -/
def maxByKey {α : Type} (key : α → Int) : List α → Option α
  | [] => none
  | x :: xs => some (xs.foldl (maxStep key) x)

/-- A `HeaderMap`: the values of each header name, names in lower case as `HeaderName`
stores them. -/
def HeaderMap := String → List String

/-- `HeaderMap::remove`: every value of the name goes. -/
def HeaderMap.remove (headers : HeaderMap) (name : String) : HeaderMap :=
  Function.update headers name []

/-- `HeaderMap::insert`: the name has this one value afterwards. -/
def HeaderMap.insert (headers : HeaderMap) (name value : String) : HeaderMap :=
  Function.update headers name [value]

structure Request where
  uri : Uri
  headers : HeaderMap
  body : Bytes

theorem stripPrefix_append (pre rest : String) : stripPrefix (pre ++ rest) pre = some rest := by
  simp [stripPrefix, startsWith]

section MaxByKey

variable {α : Type} (key : α → Int)

theorem maxStep_mem (best y : α) : maxStep key best y = best ∨ maxStep key best y = y := by
  unfold maxStep; split <;> simp

theorem le_maxStep (best y : α) :
    key best ≤ key (maxStep key best y) ∧ key y ≤ key (maxStep key best y) := by
  unfold maxStep; split <;> omega

theorem foldl_maxStep_mem (x : α) (xs : List α) : xs.foldl (maxStep key) x ∈ x :: xs := by
  induction xs generalizing x with
  | nil => exact .head _
  | cons y ys ih =>
    rw [List.foldl_cons]
    rcases List.mem_cons.mp (ih (maxStep key x y)) with h | h
    · rw [h]; rcases maxStep_mem key x y with h' | h' <;> rw [h'] <;> simp
    · exact .tail _ (.tail _ h)

theorem le_foldl_maxStep (x : α) (xs : List α) :
    ∀ z ∈ x :: xs, key z ≤ key (xs.foldl (maxStep key) x) := by
  induction xs generalizing x with
  | nil => intro z hz; rw [List.mem_singleton.mp hz]; exact le_refl _
  | cons y ys ih =>
    have hstep := le_maxStep key x y
    have hmax := ih (maxStep key x y)
    intro z hz
    rcases List.mem_cons.mp hz with rfl | hz
    · exact hstep.1.trans (hmax _ (.head _))
    rcases List.mem_cons.mp hz with rfl | hz
    · exact hstep.2.trans (hmax _ (.head _))
    · exact hmax z (.tail _ hz)

theorem maxByKey_eq_none (l : List α) : maxByKey key l = none ↔ l = [] := by
  cases l <;> simp [maxByKey]

/-- What `max_by_key` returns is an element, and no element has a greater key. -/
theorem maxByKey_spec {l : List α} {m : α} (h : maxByKey key l = some m) :
    m ∈ l ∧ ∀ y ∈ l, key y ≤ key m := by
  cases l with
  | nil => cases h
  | cons x xs =>
    cases h
    exact ⟨foldl_maxStep_mem key x xs, le_foldl_maxStep key x xs⟩

/-- The fold ends on the last element of greatest key: everything after it has a
smaller key. -/
theorem foldl_maxStep_last (x : α) (xs : List α) :
    ∃ pre post, x :: xs = pre ++ xs.foldl (maxStep key) x :: post ∧
      ∀ y ∈ post, key y < key (xs.foldl (maxStep key) x) := by
  induction xs generalizing x with
  | nil => exact ⟨[], [], rfl, by simp⟩
  | cons y ys ih =>
    obtain ⟨pre, post, heq, hlt⟩ := ih (maxStep key x y)
    rw [List.foldl_cons]
    cases pre with
    | nil =>
      obtain ⟨hm, hys⟩ := List.cons.inj heq
      by_cases hxy : key x ≤ key y
      · have hmy : ys.foldl (maxStep key) (maxStep key x y) = y := by rw [← hm, maxStep, if_pos hxy]
        refine ⟨[x], post, ?_, hlt⟩
        rw [← hys, hmy]
        rfl
      · have hmx : ys.foldl (maxStep key) (maxStep key x y) = x := by rw [← hm, maxStep, if_neg hxy]
        refine ⟨[], y :: post, by rw [← hys, hmx]; rfl, ?_⟩
        rw [hmx]
        exact List.forall_mem_cons.mpr ⟨Int.lt_of_not_ge hxy, hmx ▸ hlt⟩
    | cons z pre =>
      exact ⟨x :: y :: pre, post, congrArg (fun t => x :: y :: t) (List.cons.inj heq).2, hlt⟩

/-- `max_by_key` returns the last element of greatest key: no element before it has a
greater key, and every element after it a smaller one. -/
theorem maxByKey_last {l : List α} {m : α} (h : maxByKey key l = some m) :
    ∃ pre post, l = pre ++ m :: post ∧ (∀ y ∈ pre, key y ≤ key m) ∧ ∀ y ∈ post, key y < key m := by
  cases l with
  | nil => cases h
  | cons x xs =>
    cases h
    obtain ⟨pre, post, heq, hlt⟩ := foldl_maxStep_last key x xs
    exact ⟨pre, post, heq, fun y hy => le_foldl_maxStep key x xs y (heq ▸ List.mem_append_left _ hy),
      hlt⟩

end MaxByKey

namespace ProxyService

def new (routes : List Route) (timeoutSecs : Nat) : ProxyService := ⟨routes, timeoutSecs⟩

def findRoute (self : ProxyService) (path : String) : Option Route :=
  maxByKey (·.priority)
    (self.routes.filter fun r => startsWith path r.pathPrefix && r.upstream.isHealthy)

/-- The path `build_upstream_uri` appends: the request path, with the route's prefix
stripped when the route says so and the path has it. -/
def upstreamPath (route : Route) (original : Uri) : String :=
  if route.stripPrefix then (stripPrefix original.path route.pathPrefix).getD original.path
  else original.path

/-- `format!("http://{}:{}{}", ..)`, after its `http://`. -/
def upstreamUriString (route : Route) (original : Uri) : String :=
  route.upstream.host ++ ":" ++ toString route.upstream.port ++ upstreamPath route original

/-- `build_upstream_uri`; it reads nothing of the service. -/
def buildUpstreamUri (route : Route) (original : Uri) : Except ProxyError Uri :=
  (Uri.parseHttp (upstreamUriString route original)).mapError fun e => .requestError (toString e)

/-- The request `forward` hands to the client: the upstream URI, hop-by-hop headers
removed and `X-Forwarded-Proto: https` set. -/
def upstreamRequest (req : Request) (upstreamUri : Uri) : Request :=
  { req with
    uri := upstreamUri
    headers := ((req.headers.remove "host").remove "connection").insert "x-forwarded-proto" "https" }

/-- `forward`; `send timeout req` is the client under `tokio::time::timeout`. -/
def forward {Response : Type} (send : Nat → Request → Option (Except String Response))
    (self : ProxyService) (route : Route) (req : Request) : Except ProxyError Response := do
  let upstreamUri ← buildUpstreamUri route req.uri
  match send self.timeout (upstreamRequest req upstreamUri) with
  | none => throw .timeout
  | some (.error e) => throw (.connectionFailed e)
  | some (.ok response) => pure response

theorem findRoute_highest_priority (routes : List Route) (timeoutSecs : Nat) (p : String) :
    ((new routes timeoutSecs).findRoute p = none ↔
      ∀ r ∈ routes, ¬ (r.upstream.isHealthy ∧ startsWith p r.pathPrefix)) ∧
    ∀ r, (new routes timeoutSecs).findRoute p = some r →
      r ∈ routes ∧ r.upstream.isHealthy ∧ startsWith p r.pathPrefix ∧
      ∀ r₂ ∈ routes, r₂.upstream.isHealthy → startsWith p r₂.pathPrefix →
        r₂.priority ≤ r.priority := by
  refine ⟨?_, fun r h => ?_⟩
  · rw [findRoute, maxByKey_eq_none, List.filter_eq_nil_iff]
    simp [new, and_comm]
  · obtain ⟨hmem, hmax⟩ := maxByKey_spec _ h
    rw [List.mem_filter, Bool.and_eq_true] at hmem
    exact ⟨hmem.1, hmem.2.2, hmem.2.1, fun r₂ hr₂ hh hs =>
      hmax r₂ (List.mem_filter.mpr ⟨hr₂, by simp [hh, hs]⟩)⟩

/-- Of the healthy routes that match, in configuration order, `find_route` returns the
last one of greatest priority: a tie goes to the route configured later. -/
theorem findRoute_last_of_max {self : ProxyService} {p : String} {r : Route}
    (h : self.findRoute p = some r) :
    ∃ pre post, self.routes.filter (fun r => startsWith p r.pathPrefix && r.upstream.isHealthy) =
        pre ++ r :: post ∧
      (∀ r' ∈ pre, r'.priority ≤ r.priority) ∧ ∀ r' ∈ post, r'.priority < r.priority :=
  maxByKey_last _ h

theorem findRoute_tie_goes_to_later :
    ∃ pre post, ([⟨"/api", ⟨"10.0.0.1", 8080, true⟩, false, 0⟩,
        ⟨"/api", ⟨"10.0.0.2", 8080, true⟩, false, 0⟩] : List Route).filter
          (fun r => startsWith "/api/users" r.pathPrefix && r.upstream.isHealthy) =
        pre ++ ⟨"/api", ⟨"10.0.0.2", 8080, true⟩, false, 0⟩ :: post ∧
      (∀ r' ∈ pre, r'.priority ≤ 0) ∧ ∀ r' ∈ post, r'.priority < 0 :=
  @findRoute_last_of_max (new [⟨"/api", ⟨"10.0.0.1", 8080, true⟩, false, 0⟩,
    ⟨"/api", ⟨"10.0.0.2", 8080, true⟩, false, 0⟩] 30) "/api/users"
    ⟨"/api", ⟨"10.0.0.2", 8080, true⟩, false, 0⟩ rfl

theorem upstreamPath_strip {route : Route} {original : Uri} {rest : String}
    (hs : route.stripPrefix) (h : original.path = route.pathPrefix ++ rest) :
    upstreamPath route original = rest := by
  rw [upstreamPath, if_pos hs, h, stripPrefix_append]
  rfl

theorem upstreamPath_keep {route : Route} (hs : route.stripPrefix = false) (original : Uri) :
    upstreamPath route original = original.path := by
  simp [upstreamPath, hs]

/-- With a plain host, an origin path to append and a string within the parser's
limit, the upstream URI names the configured host and port and carries that path. -/
theorem buildUpstreamUri_of_originPath {route : Route} {original : Uri}
    (hhost : Uri.IsHostName route.upstream.host)
    (hpath : Uri.IsOriginPath (upstreamPath route original))
    (hlen : 7 + (upstreamUriString route original).utf8ByteSize ≤ Uri.maxLen) :
    ∃ v, buildUpstreamUri route original = .ok v ∧ v.scheme = some .http ∧
      v.host = some route.upstream.host ∧ v.port = some route.upstream.port ∧
      v.path = (if upstreamPath route original = "" then "/" else upstreamPath route original) ∧
      v.query = none := by
  rw [upstreamUriString] at hlen
  rw [buildUpstreamUri, upstreamUriString, Uri.parseHttp_hostPortPath hhost _ hpath,
    if_neg (Nat.not_lt.mpr hlen)]
  exact ⟨_, rfl, rfl, Uri.host_hostPort hhost .., Uri.port_hostPort .., Uri.path_of_scheme .., rfl⟩

theorem upstream_uri_of_api_route :
    ∃ v, buildUpstreamUri ⟨"/api", ⟨"127.0.0.1", 8080, true⟩, false, 0⟩
        ⟨none, "", "/api/users", some "id=1"⟩ = .ok v ∧ v.scheme = some .http ∧
      v.host = some "127.0.0.1" ∧ v.port = some 8080 ∧
      v.path = (if upstreamPath ⟨"/api", ⟨"127.0.0.1", 8080, true⟩, false, 0⟩
          ⟨none, "", "/api/users", some "id=1"⟩ = "" then "/"
        else upstreamPath ⟨"/api", ⟨"127.0.0.1", 8080, true⟩, false, 0⟩
          ⟨none, "", "/api/users", some "id=1"⟩) ∧
      v.query = none :=
  @buildUpstreamUri_of_originPath ⟨"/api", ⟨"127.0.0.1", 8080, true⟩, false, 0⟩
    ⟨none, "", "/api/users", some "id=1"⟩ (by decide) (by decide) (by decide)

/-- The request's query is not forwarded, and a path whose stripped rest starts with
`@` makes the configured host and port a user-info part: the URI names another host. -/
theorem upstream_uri_drops_query_and_follows_userinfo :
    (∃ v, buildUpstreamUri ⟨"/api", ⟨"127.0.0.1", 8080, true⟩, false, 0⟩
        ⟨none, "", "/api/users", some "id=1"⟩ = .ok v ∧ v.query = none) ∧
    (∃ v, buildUpstreamUri ⟨"/api", ⟨"127.0.0.1", 8080, true⟩, true, 0⟩
        ⟨none, "", "/api@evil.com/x", none⟩ = .ok v ∧
      v.host = some "evil.com" ∧ v.port = none) :=
  ⟨⟨_, rfl, rfl⟩, ⟨_, rfl, by decide, by decide⟩⟩

theorem buildUpstreamUri_eq_ok {route : Route} {original v : Uri} :
    buildUpstreamUri route original = .ok v ↔
      Uri.parseHttp (upstreamUriString route original) = .ok v := by
  unfold buildUpstreamUri
  cases Uri.parseHttp (upstreamUriString route original) <;> simp [Except.mapError]

/-- The path `build_upstream_uri` appends is made of path characters when the request's
is. -/
theorem upstreamPath_pathChars (route : Route) {original : Uri}
    (h : ∀ c ∈ original.rawPath.data, Uri.isPathChar c) :
    ∀ c ∈ (upstreamPath route original).data, Uri.isPathChar c := by
  have hpath := Uri.path_pathChars h
  unfold upstreamPath stripPrefix
  split_ifs
  · exact fun c hc => hpath c (List.mem_of_mem_drop hc)
  all_goals exact hpath

/-- `build_upstream_uri` never forwards a query: for a host with no `?` and a request
path of path characters, as the parser leaves every path, the upstream URI has none,
whatever the request's query. -/
theorem buildUpstreamUri_query_eq_none {route : Route} {original v : Uri}
    (hhost : '?' ∉ route.upstream.host.data)
    (hpath : ∀ c ∈ original.rawPath.data, Uri.isPathChar c)
    (h : buildUpstreamUri route original = .ok v) : v.query = none := by
  obtain ⟨-, -, frag, hs, -⟩ := Uri.parseHttp_ok (buildUpstreamUri_eq_ok.mp h)
  cases hq : v.query with
  | none => rfl
  | some q =>
    have hmem : '?' ∈ (upstreamUriString route original).data := by rw [hs, hq]; simp
    simp only [upstreamUriString, String.data_append, List.mem_append] at hmem
    rcases hmem with ((hh | hc) | hd) | hp
    · exact absurd hh hhost
    · exact absurd hc (by decide)
    · exact absurd (uint16_digits _ _ hd) (by decide)
    · exact absurd (upstreamPath_pathChars route hpath _ hp) (by decide)

theorem query_dropped_of_api_route :
    ∃ v, buildUpstreamUri ⟨"/api", ⟨"127.0.0.1", 8080, true⟩, false, 0⟩
        ⟨none, "", "/api/users", some "id=1"⟩ = .ok v ∧ v.query = none :=
  ⟨_, rfl, @buildUpstreamUri_query_eq_none ⟨"/api", ⟨"127.0.0.1", 8080, true⟩, false, 0⟩
    ⟨none, "", "/api/users", some "id=1"⟩ _ (by decide) (by decide) rfl⟩

/-- The upstream URI's authority is exactly the configured `host:port`, with no user
info and no other host or port, iff the appended path is empty or starts with `/`. -/
theorem buildUpstreamUri_authority_iff {route : Route} {original v : Uri}
    (hhost : Uri.IsHostName route.upstream.host)
    (hpath : ∀ c ∈ original.rawPath.data, Uri.isPathChar c)
    (h : buildUpstreamUri route original = .ok v) :
    v.authority = route.upstream.host ++ ":" ++ toString route.upstream.port ↔
      upstreamPath route original = "" ∨ startsWith (upstreamPath route original) "/" := by
  obtain ⟨-, hauth, -⟩ := Uri.parseHttp_ok (buildUpstreamUri_eq_ok.mp h)
  have hplain : ∀ c ∈ (route.upstream.host ++ ":" ++ toString route.upstream.port).data,
      (!Uri.isAuthorityEnd c) = true := by
    rw [Uri.hostPort_data]
    intro c hc
    simp only [List.mem_append, List.mem_cons] at hc
    rcases hc with hc | rfl | hc
    · simp [Uri.isAuthorityEnd_of_plain (Uri.isPlainAuthChar_of_hostName (hhost.2 c hc))]
    · decide
    · simp [Uri.isAuthorityEnd_of_plain (Uri.isPlainAuthChar_of_digit (uint16_digits _ c hc))]
  rw [upstreamUriString, String.data_append, List.takeWhile_append_of_pos hplain] at hauth
  rw [String.ext_iff, hauth, List.append_right_eq_self]
  have hchars := upstreamPath_pathChars route hpath
  generalize upstreamPath route original = P at hchars ⊢
  obtain ⟨l⟩ := P
  cases l with
  | nil => simp
  | cons c cs =>
    have hc := Uri.isAuthorityEnd_of_pathChar (hchars c (.head _))
    have hne : (⟨c :: cs⟩ : String) ≠ "" := fun h => List.cons_ne_nil c cs (congrArg String.data h)
    simp only [List.takeWhile_cons, hc, startsWith, hne, false_or]
    by_cases h' : c = '/'
    · simp [h']
    · simp [h', Ne.symm h']

theorem authority_follows_userinfo_path :
    ∃ v, buildUpstreamUri ⟨"/api", ⟨"127.0.0.1", 8080, true⟩, true, 0⟩
        ⟨none, "", "/api@evil.com/x", none⟩ = .ok v ∧
      (v.authority = "127.0.0.1" ++ ":" ++ toString (8080 : UInt16) ↔
        upstreamPath ⟨"/api", ⟨"127.0.0.1", 8080, true⟩, true, 0⟩ ⟨none, "", "/api@evil.com/x", none⟩ = "" ∨
          startsWith (upstreamPath ⟨"/api", ⟨"127.0.0.1", 8080, true⟩, true, 0⟩
            ⟨none, "", "/api@evil.com/x", none⟩) "/") :=
  ⟨_, rfl, @buildUpstreamUri_authority_iff ⟨"/api", ⟨"127.0.0.1", 8080, true⟩, true, 0⟩
    ⟨none, "", "/api@evil.com/x", none⟩ _ (by decide) (by decide) rfl⟩

/-- The client sees the upstream URI, no `host` or `connection` header, and
`x-forwarded-proto: https`; every other header is passed on. -/
theorem upstreamRequest_headers (req : Request) (v : Uri) (n : String) :
    (upstreamRequest req v).headers n =
      if n = "x-forwarded-proto" then ["https"]
      else if n = "connection" ∨ n = "host" then [] else req.headers n := by
  simp only [upstreamRequest, HeaderMap.insert, HeaderMap.remove, Function.update_apply]
  by_cases h₁ : n = "x-forwarded-proto" <;> by_cases h₂ : n = "connection" <;> simp [h₁, h₂]

/-- A response comes back only from the client, asked with the rewritten request. -/
theorem forward_ok {Response : Type} {send : Nat → Request → Option (Except String Response)}
    {self : ProxyService} {route : Route} {req : Request} {response : Response}
    (h : forward send self route req = .ok response) :
    ∃ v, buildUpstreamUri route req.uri = .ok v ∧
      send self.timeout (upstreamRequest req v) = some (.ok response) := by
  rw [forward] at h
  cases hb : buildUpstreamUri route req.uri with
  | error e => rw [hb] at h; cases h
  | ok v =>
    rw [hb, ok_bind] at h
    refine ⟨v, rfl, ?_⟩
    split at h <;> cases h
    assumption

/-- A URI that does not parse is reported before the client is called. -/
theorem forward_of_build_error {Response : Type} (send : Nat → Request → Option (Except String Response))
    (self : ProxyService) {route : Route} {req : Request} {e : ProxyError}
    (h : buildUpstreamUri route req.uri = .error e) : forward send self route req = .error e := by
  rw [forward, h]
  rfl

end ProxyService

end Qsgw
