import Qsgw.Decimal
import Mathlib.Data.String.Basic

/-!
# The `http::Uri` parser, on the strings the proxy builds

`build_upstream_uri` formats `http://{host}:{port}{path}` and parses it with the
`http` crate, which is outside the repository. That crate's `Uri::from_str` is
modelled here on the inputs it can receive from the code: strings that start with
`http://`. It checks the length, scans the authority up to the first `/`, `?` or `#`
(`Authority::parse`, with its bracket, colon, `@` and `%` bookkeeping), then splits
path from query and drops a fragment (`PathAndQuery::from_shared`). The accessors
`path`, `query`, `host` and `port_u16` read the parts back as the crate does. The
crate (version 1.5, which the workspace resolves) scans bytes; every character the
authority accepts is ASCII, and a non-ASCII character of the path or query is
accepted exactly as each of its UTF-8 bytes (all at or above `0x80`) is, so scanning
characters gives the same result.
Whatever `http://` string is parsed, the result is `WellFormed`: the authority runs to
its first `/`, `?` or `#`, and the string is given back by the parts (authority, path,
`?` and query), then the fragment that is dropped.
-/

namespace Qsgw

/-- `http::uri::InvalidUri`, by the kinds this parse can report. -/
inductive InvalidUri where
  | invalidUriChar | invalidAuthority | invalidFormat | tooLong
  deriving DecidableEq, Repr

/-- The `Display` text of each kind. -/
def InvalidUri.description : InvalidUri → String
  | .invalidUriChar => "invalid uri character"
  | .invalidAuthority => "invalid authority"
  | .invalidFormat => "invalid format"
  | .tooLong => "uri too long"

instance : ToString InvalidUri := ⟨InvalidUri.description⟩

inductive Scheme where
  | http | https
  deriving DecidableEq, Repr

/-- A parsed URI: scheme, authority text, and the path and query of `PathAndQuery`. -/
structure Uri where
  scheme : Option Scheme
  authority : String
  rawPath : String
  query : Option String
  deriving DecidableEq, Repr

namespace Uri

/-- `MAX_LEN`, the longest string the parser accepts. -/
def maxLen : Nat := 65534

/-- `URI_CHARS`: the characters the authority scan accepts. -/
def isUriChar (c : Char) : Bool :=
  let n := c.toNat
  n == 0x21 || n == 0x23 || n == 0x24 || (0x26 ≤ n && n ≤ 0x3B) || n == 0x3D ||
    (0x3F ≤ n && n ≤ 0x5B) || n == 0x5D || n == 0x5F || (0x61 ≤ n && n ≤ 0x7A) || n == 0x7E

/-- The characters `PathAndQuery::from_shared` accepts in a path: DEL is refused, the
bytes of a non-ASCII character are not. -/
def isPathChar (c : Char) : Bool :=
  let n := c.toNat
  n == 0x21 || (0x24 ≤ n && n ≤ 0x3B) || n == 0x3D || (0x40 ≤ n && n ≤ 0x5F) ||
    (0x61 ≤ n && n ≤ 0x7A) || n == 0x7C || n == 0x7E || c == '"' || c == '{' || c == '}' ||
    0x80 ≤ n

/-- The characters it accepts in a query. -/
def isQueryChar (c : Char) : Bool :=
  let n := c.toNat
  n == 0x21 || (0x24 ≤ n && n ≤ 0x3B) || n == 0x3D || (0x3F ≤ n && n ≤ 0x7E) || 0x80 ≤ n

/-- A character the authority scan steps over with no bookkeeping. -/
def isPlainAuthChar (c : Char) : Bool :=
  let n := c.toNat
  isUriChar c && n != 0x23 && n != 0x2F && n != 0x3A && n != 0x3F && n != 0x40 && n != 0x5B &&
    n != 0x5D

/-- The characters of a plain host name or IPv4 literal: letters, digits, `-` and `.`. -/
def isHostNameChar (c : Char) : Bool :=
  let n := c.toNat
  (0x30 ≤ n && n ≤ 0x39) || (0x41 ≤ n && n ≤ 0x5A) || (0x61 ≤ n && n ≤ 0x7A) || n == 0x2D ||
    n == 0x2E

/-- A plain host name or IPv4 literal. -/
def IsHostName (host : String) : Prop :=
  host.data ≠ [] ∧ ∀ c ∈ host.data, isHostNameChar c

instance decIsHostName (host : String) : Decidable (IsHostName host) :=
  inferInstanceAs (Decidable (_ ∧ _))

/-- A path as `Uri::path` returns it, to be appended after a port: empty or from `/`
on, and made of path characters. -/
def IsOriginPath (path : String) : Prop :=
  (path.data = [] ∨ ∃ cs, path.data = '/' :: cs) ∧ ∀ c ∈ path.data, isPathChar c

theorem isOriginPath_iff (path : String) :
    IsOriginPath path ↔ path.data.head?.all (· == '/') ∧ ∀ c ∈ path.data, isPathChar c := by
  rw [IsOriginPath]
  cases path.data with
  | nil => simp
  | cons c cs => by_cases hc : c = '/' <;> simp [hc]

instance decIsOriginPath (path : String) : Decidable (IsOriginPath path) :=
  decidable_of_iff _ (isOriginPath_iff path).symm

/-- The bookkeeping of `Authority::parse`'s loop. -/
structure AuthScan where
  colonCnt : Nat := 0
  startBracket : Bool := false
  endBracket : Bool := false
  hasPercent : Bool := false
  atSignPos : Option Nat := none
  deriving DecidableEq, Repr

/-- The loop of `Authority::parse` from index `i`: its state and the end of the
authority, at the first `/`, `?` or `#` or at the end of the input. -/
def scanAuthority (st : AuthScan) (i : Nat) : List Char → Except InvalidUri (AuthScan × Nat)
  | [] => .ok (st, i)
  | c :: cs =>
    if c = '/' ∨ c = '?' ∨ c = '#' then .ok (st, i)
    else if c = ':' then
      if 8 ≤ st.colonCnt then .error .invalidAuthority
      else scanAuthority { st with colonCnt := st.colonCnt + 1 } (i + 1) cs
    else if c = '[' then
      if st.hasPercent || st.startBracket then .error .invalidAuthority
      else scanAuthority { st with startBracket := true } (i + 1) cs
    else if c = ']' then
      if !st.startBracket || st.endBracket then .error .invalidAuthority
      else scanAuthority { st with endBracket := true, colonCnt := 0, hasPercent := false } (i + 1) cs
    else if c = '@' then
      scanAuthority { st with atSignPos := some i, colonCnt := 0, hasPercent := false } (i + 1) cs
    else if c = '%' then scanAuthority { st with hasPercent := true } (i + 1) cs
    else if isUriChar c then scanAuthority st (i + 1) cs
    else .error .invalidUriChar

/-- `Authority::parse`: the length of the authority at the start of `s`. -/
def parseAuthority (s : List Char) : Except InvalidUri Nat := do
  let (st, stop) ← scanAuthority {} 0 s
  if st.startBracket != st.endBracket then throw .invalidAuthority
  if 1 < st.colonCnt then throw .invalidAuthority
  if 0 < stop ∧ st.atSignPos = some (stop - 1) then throw .invalidAuthority
  if st.hasPercent then throw .invalidAuthority
  pure stop

/-- The query loop of `PathAndQuery::from_shared`, up to a fragment. -/
def scanQuery : List Char → Except InvalidUri (List Char)
  | [] => .ok []
  | c :: cs =>
    if c = '#' then .ok []
    else if isQueryChar c then (scanQuery cs).map (c :: ·)
    else .error .invalidUriChar

/-- The path loop of `PathAndQuery::from_shared`: the path, then the query after a
`?`; a fragment is dropped. -/
def scanPath : List Char → Except InvalidUri (List Char × Option (List Char))
  | [] => .ok ([], none)
  | c :: cs =>
    if c = '?' then (scanQuery cs).map fun q => ([], some q)
    else if c = '#' then .ok ([], none)
    else if isPathChar c then (scanPath cs).map fun pq => (c :: pq.1, pq.2)
    else .error .invalidUriChar

/-- `("http://" ++ rest).parse::<Uri>()`. -/
def parseHttp (rest : String) : Except InvalidUri Uri := do
  if maxLen < 7 + rest.utf8ByteSize then throw .tooLong
  let stop ← parseAuthority rest.data
  if stop = 0 then throw .invalidFormat
  let (path, query) ← scanPath (rest.data.drop stop)
  pure ⟨some .http, ⟨rest.data.take stop⟩, ⟨path⟩, query.map String.mk⟩

/-- `Uri::path`: `/` for an empty path once there is a scheme or a query. -/
def path (u : Uri) : String :=
  if u.rawPath.isEmpty then (if u.scheme.isSome || u.query.isSome then "/" else "") else u.rawPath

/-- `Authority::host`: after the last `@`, up to the first `:` or through the `]`
of a bracketed literal. -/
def hostOf (auth : List Char) : List Char :=
  let hostPort := (auth.reverse.takeWhile (· ≠ '@')).reverse
  match hostPort with
  | '[' :: _ => hostPort.take (hostPort.indexOf ']' + 1)
  | _ => hostPort.takeWhile (· ≠ ':')

/-- `Authority::port`: what follows the last `:`, when it parses as a port. -/
def portOf (auth : List Char) : Option UInt16 :=
  if ':' ∈ auth then parseU16 (auth.reverse.takeWhile (· ≠ ':')).reverse else none

/-- `Uri::host`: none without an authority. -/
def host (u : Uri) : Option String :=
  if u.authority.isEmpty then none else some ⟨hostOf u.authority.data⟩

/-- `Uri::port_u16`. -/
def port (u : Uri) : Option UInt16 :=
  if u.authority.isEmpty then none else portOf u.authority.data

theorem isPlainAuthChar_ne {c : Char} (h : isPlainAuthChar c) :
    ¬ (c = '/' ∨ c = '?' ∨ c = '#') ∧ c ≠ ':' ∧ c ≠ '[' ∧ c ≠ ']' ∧ c ≠ '@' ∧ c ≠ '%' ∧
      isUriChar c := by
  refine ⟨?_, ?_, ?_, ?_, ?_, ?_, by simp_all [isPlainAuthChar]⟩
  · rintro (rfl | rfl | rfl) <;> revert h <;> decide
  all_goals rintro rfl; revert h; decide

theorem isPlainAuthChar_of_digit {c : Char} (h : 48 ≤ c.toNat ∧ c.toNat < 58) :
    isPlainAuthChar c := by
  simp only [isPlainAuthChar, isUriChar]; simp; omega

theorem isPlainAuthChar_of_hostName {c : Char} (h : isHostNameChar c) : isPlainAuthChar c := by
  simp only [isHostNameChar] at h; simp only [isPlainAuthChar, isUriChar]; simp at h ⊢; omega

theorem scanAuthority_plain (st : AuthScan) (i : Nat) {cs : List Char}
    (h : ∀ c ∈ cs, isPlainAuthChar c) (rest : List Char) :
    scanAuthority st i (cs ++ rest) = scanAuthority st (i + cs.length) rest := by
  induction cs generalizing i with
  | nil => rfl
  | cons c cs ih =>
    obtain ⟨h1, h2, h3, h4, h5, h6, h7⟩ := isPlainAuthChar_ne (h c (.head _))
    rw [List.cons_append, scanAuthority, if_neg h1, if_neg h2, if_neg h3, if_neg h4, if_neg h5,
      if_neg h6, if_pos h7, ih _ (fun c hc => h c (.tail _ hc)), List.length_cons,
      Nat.add_assoc, Nat.add_comm 1]

theorem scanAuthority_stop (st : AuthScan) (i : Nat) {rest : List Char}
    (h : rest = [] ∨ ∃ cs, rest = '/' :: cs) : scanAuthority st i rest = .ok (st, i) := by
  rcases h with rfl | ⟨cs, rfl⟩ <;> simp [scanAuthority]

/-- `Authority::parse` of `host:port` followed by an origin path ends at the path. -/
theorem parseAuthority_hostPort {host : String} (hhost : IsHostName host) (p : UInt16)
    {rest : List Char} (hrest : rest = [] ∨ ∃ cs, rest = '/' :: cs) :
    parseAuthority (host.data ++ ':' :: ((toString p).data ++ rest)) =
      .ok (host.data.length + 1 + (toString p).data.length) := by
  rw [parseAuthority, scanAuthority_plain _ _ (fun c hc => isPlainAuthChar_of_hostName (hhost.2 c hc)),
    scanAuthority, if_neg (by decide), if_pos rfl, if_neg (by decide),
    scanAuthority_plain _ _ (fun c hc => isPlainAuthChar_of_digit (uint16_digits p c hc)),
    scanAuthority_stop _ _ hrest]
  simp only [ok_bind]
  simp
  rfl

/-- `PathAndQuery::from_shared` keeps a path of path characters whole, with no query. -/
theorem scanPath_pathChars {cs : List Char} (h : ∀ c ∈ cs, isPathChar c) :
    scanPath cs = .ok (cs, none) := by
  induction cs with
  | nil => rfl
  | cons c cs ih =>
    have hc := h c (.head _)
    have hq : c ≠ '?' := by rintro rfl; revert hc; decide
    have hf : c ≠ '#' := by rintro rfl; revert hc; decide
    rw [scanPath, if_neg hq, if_neg hf, if_pos hc, ih (fun c hc => h c (.tail _ hc))]
    rfl

/-- What `format!("http://{}:{}{}", host, port, path)` parses to, for a plain host and
an origin path. -/
theorem parseHttp_hostPortPath {host path : String} (hhost : IsHostName host) (p : UInt16)
    (hpath : IsOriginPath path) :
    parseHttp (host ++ ":" ++ toString p ++ path) =
      if maxLen < 7 + (host ++ ":" ++ toString p ++ path).utf8ByteSize then .error .tooLong
      else .ok ⟨some .http, host ++ ":" ++ toString p, path, none⟩ := by
  have hdata : (host ++ ":" ++ toString p ++ path).data =
      host.data ++ ':' :: ((toString p).data ++ path.data) := by simp
  unfold parseHttp
  split
  · rfl
  · have hsplit : host.data ++ ':' :: ((toString p).data ++ path.data) =
        (host.data ++ ':' :: (toString p).data) ++ path.data := by simp
    have hstop : host.data.length + 1 + (toString p).data.length =
        (host.data ++ ':' :: (toString p).data).length := by simp; omega
    rw [hdata, parseAuthority_hostPort hhost p hpath.1, ok_bind, hsplit, hstop, List.drop_left,
      List.take_left, scanPath_pathChars hpath.2]
    simpa using String.ext (by simp)

theorem hostName_ne {host : String} (hhost : IsHostName host) :
    ∀ c ∈ host.data, c ≠ '@' ∧ c ≠ ':' ∧ c ≠ '[' := fun c hc =>
  have h := isPlainAuthChar_ne (isPlainAuthChar_of_hostName (hhost.2 c hc))
  ⟨h.2.2.2.2.1, h.2.1, h.2.2.1⟩

theorem digits_ne (p : UInt16) : ∀ c ∈ (toString p).data, c ≠ '@' ∧ c ≠ ':' := fun c hc =>
  have h := isPlainAuthChar_ne (isPlainAuthChar_of_digit (uint16_digits p c hc))
  ⟨h.2.2.2.2.1, h.2.1⟩

theorem hostOf_hostPort {host : String} (hhost : IsHostName host) (p : UInt16) :
    hostOf (host.data ++ ':' :: (toString p).data) = host.data := by
  have hat : ((host.data ++ ':' :: (toString p).data).reverse.takeWhile (· ≠ '@')).reverse =
      host.data ++ ':' :: (toString p).data := by
    rw [List.takeWhile_eq_self_iff.mpr, List.reverse_reverse]
    intro c hc
    simp only [List.mem_reverse, List.mem_append, List.mem_cons] at hc
    rcases hc with hc | rfl | hc
    · simpa using (hostName_ne hhost c hc).1
    · decide
    · simpa using (digits_ne p c hc).1
  obtain ⟨c, cs, hcs⟩ := List.exists_cons_of_ne_nil hhost.1
  have hc : c ≠ '[' := (hostName_ne hhost c (hcs ▸ .head _)).2.2
  rw [hostOf, hat, hcs, List.cons_append]
  split
  next h => exact absurd (List.cons.inj h).1 hc
  next =>
    rw [← List.cons_append, ← hcs, List.takeWhile_append_of_pos (fun c hc => by
      simpa using (hostName_ne hhost c hc).2.1)]
    simp

theorem portOf_hostPort (host : String) (p : UInt16) :
    portOf (host.data ++ ':' :: (toString p).data) = some p := by
  have hcolon : ((host.data ++ ':' :: (toString p).data).reverse.takeWhile (· ≠ ':')).reverse =
      (toString p).data := by
    rw [List.reverse_append, List.reverse_cons, List.append_assoc, List.takeWhile_append_of_pos
      (fun c hc => by simpa using (digits_ne p c (List.mem_reverse.mp hc)).2)]
    simp
  rw [portOf, if_pos (by simp), hcolon, parseU16_toString]

theorem hostPort_data (host : String) (p : UInt16) :
    (host ++ ":" ++ toString p).data = host.data ++ ':' :: (toString p).data := by simp

theorem hostPort_isEmpty (host : String) (p : UInt16) :
    (host ++ ":" ++ toString p).isEmpty = false := by
  rw [Bool.eq_false_iff, ne_eq, String.isEmpty_iff]
  intro h
  simpa [hostPort_data] using congrArg String.data h

/-- `host()` of an authority written as `host:port` is the host. -/
theorem host_hostPort {host : String} (hhost : IsHostName host) (p : UInt16)
    (scheme : Option Scheme) (path : String) (query : Option String) :
    (⟨scheme, host ++ ":" ++ toString p, path, query⟩ : Uri).host = some host := by
  rw [Uri.host, hostPort_isEmpty, hostPort_data, hostOf_hostPort hhost]
  rfl

/-- `port_u16()` of an authority written as `host:port` is the port. -/
theorem port_hostPort (host : String) (p : UInt16)
    (scheme : Option Scheme) (path : String) (query : Option String) :
    (⟨scheme, host ++ ":" ++ toString p, path, query⟩ : Uri).port = some p := by
  rw [Uri.port, hostPort_isEmpty, hostPort_data, portOf_hostPort]
  rfl

theorem path_of_scheme (scheme : Scheme) (authority path : String) (query : Option String) :
    (⟨some scheme, authority, path, query⟩ : Uri).path = if path = "" then "/" else path := by
  simp [Uri.path, String.isEmpty_iff]

/-- The characters that end the authority. -/
def isAuthorityEnd (c : Char) : Bool := c == '/' || c == '?' || c == '#'

theorem isAuthorityEnd_of_plain {c : Char} (h : isPlainAuthChar c) : isAuthorityEnd c = false := by
  obtain ⟨hend, -⟩ := isPlainAuthChar_ne h
  simp only [not_or] at hend
  rw [isAuthorityEnd, beq_false_of_ne hend.1, beq_false_of_ne hend.2.1, beq_false_of_ne hend.2.2]
  rfl

/-- A path character ends the authority only if it is `/`. -/
theorem isAuthorityEnd_of_pathChar {c : Char} (h : isPathChar c) :
    isAuthorityEnd c = (c == '/') := by
  have hq : c ≠ '?' := by rintro rfl; revert h; decide
  have hf : c ≠ '#' := by rintro rfl; revert h; decide
  rw [isAuthorityEnd, beq_false_of_ne hq, beq_false_of_ne hf, Bool.or_false, Bool.or_false]

/-- A URI as a parse of an `http://` string leaves it: scheme `http`, a nonempty
authority of URI characters (and `%`) with no `/`, `?` or `#`, a path of path
characters and a query of query characters. -/
structure WellFormed (u : Uri) : Prop where
  scheme_http : u.scheme = some .http
  authority_nonempty : u.authority.data ≠ []
  authority_chars : ∀ c ∈ u.authority.data, (isUriChar c ∨ c = '%') ∧ isAuthorityEnd c = false
  path_chars : ∀ c ∈ u.rawPath.data, isPathChar c
  query_chars : ∀ q ∈ u.query, ∀ c ∈ q.data, isQueryChar c

/-- What may follow the query: nothing, or a fragment. -/
def IsFragment (frag : List Char) : Prop := frag = [] ∨ ∃ f, frag = '#' :: f

/-- The authority scan runs to the first `/`, `?` or `#`, over URI characters and `%`. -/
theorem scanAuthority_ok {st st' : AuthScan} {i stop : Nat} {l : List Char}
    (h : scanAuthority st i l = .ok (st', stop)) :
    stop = i + (l.takeWhile (!isAuthorityEnd ·)).length ∧
      ∀ c ∈ l.takeWhile (!isAuthorityEnd ·), isUriChar c ∨ c = '%' := by
  induction l generalizing st i with
  | nil => cases h; exact ⟨rfl, fun _ h => nomatch h⟩
  | cons c cs ih =>
    by_cases hc : c = '/' ∨ c = '?' ∨ c = '#'
    · rw [scanAuthority, if_pos hc] at h
      cases h
      have he : isAuthorityEnd c := by rcases hc with rfl | rfl | rfl <;> rfl
      rw [List.takeWhile_cons_of_neg (by rw [he]; decide)]
      exact ⟨rfl, fun _ h => nomatch h⟩
    · have he : isAuthorityEnd c = false := by
        simp only [not_or] at hc
        rw [isAuthorityEnd, beq_false_of_ne hc.1, beq_false_of_ne hc.2.1, beq_false_of_ne hc.2.2]
        rfl
      have hstep : (isUriChar c ∨ c = '%') ∧ ∃ st₁, scanAuthority st₁ (i + 1) cs = .ok (st', stop) := by
        rw [scanAuthority, if_neg hc] at h
        repeat' split at h
        all_goals first | cases h | (subst_vars; exact ⟨by decide, _, h⟩) | exact ⟨.inl ‹_›, _, h⟩
      obtain ⟨hchar, st₁, h₁⟩ := hstep
      obtain ⟨hlen, hchars⟩ := ih h₁
      rw [List.takeWhile_cons_of_pos (by rw [he]; rfl)]
      refine ⟨by rw [hlen, List.length_cons]; omega, fun d hd => ?_⟩
      rcases List.mem_cons.mp hd with rfl | hd
      · exact hchar
      · exact hchars d hd

theorem parseAuthority_ok {l : List Char} {stop : Nat} (h : parseAuthority l = .ok stop) :
    stop = (l.takeWhile (!isAuthorityEnd ·)).length ∧
      ∀ c ∈ l.takeWhile (!isAuthorityEnd ·), isUriChar c ∨ c = '%' := by
  unfold parseAuthority at h
  cases hs : scanAuthority {} 0 l with
  | error e => rw [hs] at h; cases h
  | ok r =>
    obtain ⟨st, stop'⟩ := r
    rw [hs, ok_bind] at h
    have hstop : stop' = stop := by
      dsimp only at h
      repeat' split at h
      all_goals cases h
      rfl
    obtain ⟨hlen, hchars⟩ := scanAuthority_ok hs
    exact ⟨by rw [← hstop, hlen, Nat.zero_add], hchars⟩

theorem scanQuery_ok {l q : List Char} (h : scanQuery l = .ok q) :
    (∀ c ∈ q, isQueryChar c) ∧ ∃ frag, l = q ++ frag ∧ IsFragment frag := by
  induction l generalizing q with
  | nil => cases h; exact ⟨by simp, [], rfl, .inl rfl⟩
  | cons c cs ih =>
    unfold scanQuery at h
    split_ifs at h with hf hq
    · cases h; exact ⟨by simp, _, rfl, .inr ⟨cs, by rw [hf]⟩⟩
    · cases hr : scanQuery cs with
      | error e => rw [hr] at h; cases h
      | ok q' =>
        rw [hr] at h; cases h
        obtain ⟨hchars, frag, hl, hfrag⟩ := ih hr
        exact ⟨List.forall_mem_cons.mpr ⟨hq, hchars⟩, frag, by rw [hl]; rfl, hfrag⟩

theorem scanPath_ok {l p : List Char} {q : Option (List Char)} (h : scanPath l = .ok (p, q)) :
    (∀ c ∈ p, isPathChar c) ∧ (∀ qs ∈ q, ∀ c ∈ qs, isQueryChar c) ∧
      ∃ frag, l = p ++ (q.map ('?' :: ·)).getD [] ++ frag ∧ IsFragment frag := by
  induction l generalizing p q with
  | nil => cases h; exact ⟨by simp, by simp, [], rfl, .inl rfl⟩
  | cons c cs ih =>
    unfold scanPath at h
    split_ifs at h with hq hf hp
    · cases hr : scanQuery cs with
      | error e => rw [hr] at h; cases h
      | ok q' =>
        rw [hr] at h; cases h
        obtain ⟨hchars, frag, hl, hfrag⟩ := scanQuery_ok hr
        exact ⟨by simp, by simpa using hchars, frag, by rw [hq, hl]; rfl, hfrag⟩
    · cases h; exact ⟨by simp, by simp, _, rfl, .inr ⟨cs, by rw [hf]⟩⟩
    · cases hr : scanPath cs with
      | error e => rw [hr] at h; cases h
      | ok pq =>
        rw [hr] at h; cases h
        obtain ⟨hchars, hquery, frag, hl, hfrag⟩ := ih hr
        exact ⟨List.forall_mem_cons.mpr ⟨hp, hchars⟩, hquery, frag, by rw [hl]; rfl, hfrag⟩

theorem take_length_takeWhile {α : Type} (p : α → Bool) (l : List α) :
    l.take (l.takeWhile p).length = l.takeWhile p := by
  induction l with
  | nil => rfl
  | cons a l ih => by_cases ha : p a <;> simp [List.takeWhile_cons, ha, ih]

/-- A parse of an `http://` string is well formed, its authority is the string up to the
first `/`, `?` or `#`, and the string is its authority, path, `?` and query, then at most
a fragment. -/
theorem parseHttp_ok {rest : String} {u : Uri} (h : parseHttp rest = .ok u) :
    u.WellFormed ∧ u.authority.data = rest.data.takeWhile (!isAuthorityEnd ·) ∧
      ∃ frag, rest.data = u.authority.data ++ u.rawPath.data ++
        (u.query.map fun q => '?' :: q.data).getD [] ++ frag ∧ IsFragment frag := by
  unfold parseHttp at h
  split_ifs at h
  · cases h
  cases ha : parseAuthority rest.data with
  | error e => rw [ha] at h; cases h
  | ok stop =>
    rw [ha, ok_bind] at h
    split_ifs at h with h0
    · cases h
    cases hp : scanPath (rest.data.drop stop) with
    | error e => rw [hp] at h; cases h
    | ok pq =>
      obtain ⟨path, query⟩ := pq
      rw [hp] at h
      cases h
      obtain ⟨hstop, hchars⟩ := parseAuthority_ok ha
      obtain ⟨hpath, hquery, frag, hl, hfrag⟩ := scanPath_ok hp
      have hauth : rest.data.take stop = rest.data.takeWhile (!isAuthorityEnd ·) := by
        rw [hstop, take_length_takeWhile]
      refine ⟨⟨rfl, fun he => h0 ?_, fun c hc => ?_, hpath, ?_⟩, hauth, frag, ?_, hfrag⟩
      · rw [hstop, ← hauth, show rest.data.take stop = [] from he, List.length_nil]
      · rw [show (⟨rest.data.take stop⟩ : String).data = _ from hauth] at hc
        exact ⟨hchars c hc, by simpa using List.mem_takeWhile_imp hc⟩
      · cases query with
        | none => simp
        | some q => simpa using hquery
      · conv_lhs => rw [← List.take_append_drop stop rest.data, hl]
        cases query <;> simp

/-- `Uri::path` is made of path characters when the stored path is. -/
theorem path_pathChars {u : Uri} (h : ∀ c ∈ u.rawPath.data, isPathChar c) :
    ∀ c ∈ u.path.data, isPathChar c := by
  unfold Uri.path
  split_ifs
  · intro c hc
    rw [List.mem_singleton.mp hc]
    decide
  · simp
  · exact h

end Uri

end Qsgw
