import DeliverySystem.DdlTokens
import DeliverySystem.FallibleRuns
import DeliverySystem.JsonText
import DeliverySystem.RemoteReads
import DeliverySystem.UrlTexts
import Mathlib.Data.List.Infix

/-!
# Reading page by page

The remote answers a collection in pages, each of which names the next one in a
header that the driver does not trust. However it answers, the reads of one
collection are few, never ask the same twice and ask for nothing but pages of
that collection; and what is returned are all its pages.
-/
namespace DeliverySystem.PageReads
open PythonValues CanonicalValues FallibleRuns UrlTexts DdlTokens EvidenceRecords RemoteReads
  IssueCommands
set_option autoImplicit false

def maxPagesPerCollection : ℕ := 100

def maxRequestsPerRead : ℕ := 512

def maxResponseBytes : ℕ := 4 * 1024 * 1024

def apiHost : String := "api.github.com"

abbrev Headers := List (String × String)

structure TransportResponse where
  status : Int
  headers : Headers
  body : ByteArray

/-- What the driver is given. The provider of tokens and the transport may answer by all that was
asked before; `none` is an answer that is no response. -/
structure Client where
  token : List String → Py (Option String)
  respond : List String → Py (Option TransportResponse)

/-- The state of a read: the requests that were counted, and those that were sent. -/
structure ReadState where
  requests : ℕ
  sent : List String

/-! ## Responses -/

section
variable [PythonLibrary]

/-- `_headers_named` -/
def headersNamed (headers : Headers) (name : String) : List String :=
  (headers.filter fun e => PythonLibrary.lower e.1 = PythonLibrary.lower name).map Prod.snd

/-- `_single_header` -/
def singleHeader (headers : Headers) (name : String) : Py (Option String) := do
  let values := headersNamed headers name
  refuseIf (1 < values.length) "driver_response_invalid"
  refuseIf (∃ value ∈ values, ',' ∈ value.toList) "driver_response_invalid"
  pure values.head?

/-- `json.loads` without a hook: the last entry of a key counts. -/
def plainPairs (pairs : Dict) : Option Value :=
  some (.dict (pairs.foldl (fun d e => RemoteSnapshots.Dict.set d e.1 e.2) []))

/-- `_json` -/
def json (response : TransportResponse) : Py Value := do
  let contentType ← singleHeader response.headers "Content-Type"
  refuseIf (¬"json".toList <:+: (PythonLibrary.lower (contentType.getD "")).toList)
    "driver_response_invalid"
  let text ← orRaise (String.fromUTF8? response.body) (.driverError "driver_response_invalid")
  orRaise (JsonText.loads plainPairs text) (.driverError "driver_response_invalid")

/-- `_status_error` -/
def statusError (status : Int) : String :=
  if status = 401 then "authentication_failed"
  else if status = 403 then "permission_denied"
  else if status = 404 then "remote_resource_not_found"
  else if status = 410 then "remote_resource_gone"
  else if status = 429 then "rate_limited"
  else if 500 ≤ status then "remote_transient_failure"
  else "driver_response_invalid"

/-- The error of a response that is no success. -/
def failedStatus (response : TransportResponse) : Py Unit :=
  if response.status < 400 then .error (.driverError "origin_redirect_forbidden")
  else if response.status = 403 then do
    let remaining ← singleHeader response.headers "X-RateLimit-Remaining"
    .error (.driverError (if remaining = some "0" then "rate_limited" else statusError 403))
  else .error (.driverError (statusError response.status))

/-- What `_get` makes of the answer of the transport. -/
def received (answer : Option TransportResponse) : Py (Value × Headers) := do
  let response ← orRaise answer (.driverError "driver_response_invalid")
  refuseIf (maxResponseBytes < response.body.size) "query_scope_incomplete"
  if response.status ≥ 300 then failedStatus response
  let data ← json response
  pure (data, response.headers)

/-! ## Requests -/

variable [NetlocLibrary]

/-- The check of `_get` that a path stays at the origin. -/
def atOrigin (path : String) : Py Unit := do
  let parsed ← orRaise (urlparse (apiOrigin ++ path).toList) (.valueError "Invalid URL")
  refuseIf (parsed.scheme ≠ "https".toList ∨ parsed.netloc ≠ apiHost.toList)
    "origin_redirect_forbidden"

/-- `_get` -/
def get (client : Client) (path : String) : Run ReadState Raised (Value × Headers) := do
  Run.ofExcept (atOrigin path)
  let s ← MonadState.get
  let _ ← Run.ofExcept (client.token s.sent)
  set { s with requests := s.requests + 1 }
  Run.ofExcept (refuseIf (maxRequestsPerRead < s.requests + 1) "query_scope_incomplete")
  set (ReadState.mk (s.requests + 1) (s.sent ++ [path]))
  let answer ← Run.ofExcept (client.respond (s.sent ++ [path]))
  Run.ofExcept (received answer)

/-! ## Links -/

variable [CharacterLibrary]

/-- `_LINK` at the start of a text: the URL, the relation and what follows. -/
def linkAt : List Char → Option ((List Char × List Char) × List Char)
  | '<' :: text => do
      let (url, rest) ← (text.takeWhile (· ≠ '>'), ·) <$> (text.dropWhile (· ≠ '>')).tail?
      let rest ← match rest.dropWhile CharacterLibrary.isspace with
        | ';' :: rest => some (rest.dropWhile CharacterLibrary.isspace)
        | _ => none
      let rest ← if "rel=\"".toList <+: rest then some (rest.drop 5) else none
      let (relation, rest) ← (rest.takeWhile (· ≠ '"'), ·) <$> (rest.dropWhile (· ≠ '"')).tail?
      if url = [] ∨ relation = [] then none else some ((url, relation), rest)
  | _ => none

/-- `_LINK.findall`; every round takes a character. -/
def findLinks : ℕ → List Char → List (List Char × List Char)
  | 0, _ => []
  | _ + 1, [] => []
  | fuel + 1, c :: text =>
      match linkAt (c :: text) with
      | some (link, rest) => link :: findLinks fuel rest
      | none => findLinks fuel text

/-- The header with the links; an empty one does not count. -/
def linkHeader (headers : Headers) : String :=
  (([headers.lookup "Link", headers.lookup "link", (headersNamed headers "Link").head?].filterMap
    id).find? (· ≠ "")).getD ""

/-- The URL of the next page; the last link of a relation counts. -/
def nextUrl (headers : Headers) : Option (List Char) :=
  ((findLinks (linkHeader headers).toList.length (linkHeader headers).toList).filter
    (·.2 = "next".toList)).getLast?.map Prod.fst

variable [IntegerLibrary]

/-- The number of a page, which has to be at least one. -/
def pageNumber (page : Option (List Char)) : Py Unit := do
  let digits ← orRaise (page.filter fun text => text ≠ [] ∧ text.all CharacterLibrary.isdigit)
    (.driverError "pagination_incomplete")
  let number ← orRaise (IntegerLibrary.ofText (String.ofList digits))
    (.valueError "invalid literal for int()")
  refuseIf (number < 1) "pagination_incomplete"

/-- The path of the next page of a collection, if there is one. -/
def nextPath (path : String) (headers : Headers) : Py (Option String) :=
  match nextUrl headers with
  | none => pure none
  | some url => do
      let parsed ← orRaise (urlparse url) (.valueError "Invalid URL")
      let initial ← orRaise (urlparse path.toList) (.valueError "Invalid URL")
      let initialPairs ← orRaise (parseQsl initial.query) (.driverError "pagination_incomplete")
      let nextPairs ← orRaise (parseQsl parsed.query) (.driverError "pagination_incomplete")
      refuseIf (parsed.fragment ≠ [] ∨ parsed.scheme ≠ "https".toList ∨
        parsed.netloc ≠ apiHost.toList ∨ parsed.path ≠ initial.path ∨
        ¬(initialPairs.map Prod.fst).Nodup ∨ ¬(nextPairs.map Prod.fst).Nodup ∨
        ∃ pair ∈ nextPairs, pair.1 = [] ∨ pair.2 = []) "pagination_incomplete"
      refuseIf (∃ key ∈ nextPairs.map Prod.fst,
        key ∉ initialPairs.map Prod.fst ∧ key ≠ "page".toList) "pagination_incomplete"
      refuseIf (∃ pair ∈ initialPairs, pair.1 ≠ "page".toList ∧
        nextPairs.lookup pair.1 ≠ some pair.2) "pagination_incomplete"
      pageNumber (nextPairs.lookup "page".toList)
      pure (some (String.ofList parsed.request))

/-! ## Collections -/

/-- A page is a list of objects. -/
def pageOf : Value → Option (List Dict)
  | .list items => items.mapM Value.mapping?
  | _ => none

/-- The pages from the current one on, in as many rounds. -/
def pagesFrom (client : Client) (path : String) (limit : Option ℕ) :
    ℕ → List String → List Dict → String → Run ReadState Raised (List Dict)
  | 0, _, _, _ => throw (.driverError "pagination_incomplete")
  | rounds + 1, seen, values, current => do
      Run.ofExcept (refuseIf (current ∈ seen) "pagination_incomplete")
      let (data, headers) ← get client current
      let page ← Run.ofExcept (orRaise (pageOf data) (.driverError "driver_response_invalid"))
      let values := values ++ page
      Run.ofExcept (refuseIf (∃ most ∈ limit, most < values.length) "query_scope_incomplete")
      let next ← Run.ofExcept (nextPath path headers)
      match next with
      | none => pure values
      | some next => pagesFrom client path limit rounds (current :: seen) values next

/-- `_collection` -/
def collection (client : Client) (path : String) (limit : Option ℕ) :
    Run ReadState Raised (List Dict) :=
  pagesFrom client path limit maxPagesPerCollection [] [] path

end

/-! ## What one request does -/

section
variable [PythonLibrary] [NetlocLibrary]

/-- What is answered to a request after these ones. -/
def Client.answer (client : Client) (sent : List String) (path : String) :
    Py (Value × Headers) := do
  atOrigin path
  let _ ← client.token sent
  let answer ← client.respond (sent ++ [path])
  received answer

/-- The state after one more request. -/
def ReadState.after (s : ReadState) (path : String) : ReadState :=
  ⟨s.requests + 1, s.sent ++ [path]⟩

theorem get_eq_ok {client : Client} {path : String} {s t : ReadState} {a : Value × Headers} :
    (get client path).start s = (.ok a, t) ↔
      client.answer s.sent path = .ok a ∧ s.requests < maxRequestsPerRead ∧ t = s.after path := by
  simp only [get, Client.answer, start_bind_eq_ok, start_ofExcept_eq_ok, start_get_eq_ok,
    start_set_eq_ok, fallible_bind_eq_ok, refuseIf_eq_ok]
  constructor
  · rintro ⟨_, _, ⟨horigin, rfl⟩, _, _, ⟨rfl, rfl⟩, _, _, ⟨htoken, rfl⟩, _, _, rfl, _, _,
      ⟨hbudget, rfl⟩, _, _, rfl, answer, _, ⟨hanswer, rfl⟩, hreceived, rfl⟩
    exact ⟨⟨_, horigin, _, htoken, answer, hanswer, hreceived⟩, by omega, rfl⟩
  · rintro ⟨⟨_, horigin, _, htoken, answer, hanswer, hreceived⟩, hbudget, rfl⟩
    exact ⟨_, _, ⟨horigin, rfl⟩, _, _, ⟨rfl, rfl⟩, _, _, ⟨htoken, rfl⟩, ⟨⟩, _, rfl, ⟨⟩, _,
      ⟨by omega, rfl⟩, ⟨⟩, _, rfl, answer, _, ⟨hanswer, rfl⟩, hreceived, rfl⟩

/-- A request is sent once or not at all, and never without being counted. -/
theorem get_sends (client : Client) (path : String) (s : ReadState) :
    Meets (· = s) (get client path)
      (fun _ t => s.requests < maxRequestsPerRead ∧ t = s.after path)
      (fun _ t => t.sent = s.sent ∧ s.requests ≤ t.requests ∨
        s.requests < maxRequestsPerRead ∧ t = s.after path) := by
  have hunsent : ∀ t : ReadState, t = s → t.sent = s.sent ∧ s.requests ≤ t.requests := by
    rintro _ rfl
    exact ⟨rfl, le_rfl⟩
  refine .bind (.ofExcept (fun _ _ _ h => h) fun _ t _ h => .inl (hunsent t h)) fun _ =>
    .bind_get ?_
  rintro s' rfl
  refine .bind (.ofExcept (fun _ _ _ h => h) fun _ t _ h => .inl (hunsent t h)) fun _ =>
    .bind (R := fun _ t => t = { s' with requests := s'.requests + 1 }) (.set rfl) fun _ =>
    .bind (R := fun _ _ => s'.requests < maxRequestsPerRead) (.ofExcept ?_ ?_) fun _ =>
    .bind (R := fun _ t => s'.requests < maxRequestsPerRead ∧ t = s'.after path)
      (fun _ h => ⟨h, rfl⟩) fun _ =>
    .bind (.ofExcept (fun _ _ _ h => h) fun _ _ _ h => .inr h) fun _ =>
    .ofExcept (fun _ _ _ h => h) fun _ _ _ h => .inr h
  · intro _ _ hbudget _
    have hwithin := refuseIf_eq_ok.mp hbudget
    omega
  · rintro _ _ _ rfl
    exact .inl ⟨rfl, Nat.le_succ _⟩

end

/-! ## The path of the next page -/

/-- With distinct keys an entry is what is found under its key. -/
theorem lookup_eq_some_iff_mem {pairs : List (List Char × List Char)}
    (h : (pairs.map Prod.fst).Nodup) {key value : List Char} :
    pairs.lookup key = some value ↔ (key, value) ∈ pairs := by
  induction pairs with
  | nil => simp
  | cons pair pairs ih =>
      obtain ⟨hnew, hrest⟩ := List.nodup_cons.mp h
      rw [List.lookup_cons, List.mem_cons]
      by_cases hkey : key = pair.1
      · have hout : (key, value) ∉ pairs := fun hmem =>
          hnew (hkey ▸ List.mem_map_of_mem (f := Prod.fst) hmem)
        subst hkey
        simp [hout, Prod.ext_iff, eq_comm]
      · have hother : (key, value) ≠ pair := fun heq => hkey (congrArg Prod.fst heq)
        rw [beq_eq_false_iff_ne.mpr hkey]
        simp [hother, ih hrest]

section
variable [PythonLibrary] [NetlocLibrary] [CharacterLibrary] [IntegerLibrary]

/-- A path asks for a page of the collection at the other path: it stays at the origin, and its
query differs from the query of the collection in the number of the page at most. -/
def PageOf (path q : String) : Prop :=
  ∃ initial page initialPairs pairs, urlparse path.toList = some initial ∧
    urlparse (apiOrigin ++ q).toList = some page ∧
    page.scheme = "https".toList ∧ page.netloc = apiHost.toList ∧ page.path = initial.path ∧
    page.params = [] ∧ page.fragment = [] ∧
    parseQsl initial.query = some initialPairs ∧ parseQsl page.query = some pairs ∧
    (pairs.map Prod.fst).Nodup ∧
    (∀ pair, pair.1 ≠ "page".toList → (pair ∈ pairs ↔ pair ∈ initialPairs)) ∧
    ∃ digits number, ("page".toList, digits) ∈ pairs ∧
      IntegerLibrary.ofText (String.ofList digits) = some number ∧ 1 ≤ number

omit [PythonLibrary] [NetlocLibrary] in
theorem pageNumber_eq_ok {page : Option (List Char)} (h : pageNumber page = .ok ()) :
    ∃ digits number, page = some digits ∧
      IntegerLibrary.ofText (String.ofList digits) = some number ∧ 1 ≤ number := by
  simp only [pageNumber, fallible_bind_eq_ok, orRaise_eq_ok, refuseIf_eq_ok] at h
  obtain ⟨digits, hdigits, number, hnumber, hpositive⟩ := h
  exact ⟨digits, number, (Option.filter_eq_some_iff.mp hdigits).1, hnumber, by omega⟩

theorem nextPath_pageOf {path q : String} {headers : Headers}
    (h : nextPath path headers = .ok (some q)) : PageOf path q := by
  rw [nextPath] at h
  split at h
  · cases h
  · rename_i url
    simp only [fallible_bind_eq_ok, orRaise_eq_ok, refuseIf_eq_ok, fallible_pure_eq_ok] at h
    obtain ⟨parsed, hparsed, initial, hinitial, initialPairs, hinitialPairs, pairs, hpairs, _,
      hshape, _, hknown, _, hkept, _, hnumber, hq⟩ := h
    obtain ⟨hfragment, hscheme, hhost, hpath, hinitialKeys, hkeys, -⟩ :
      parsed.fragment = [] ∧ parsed.scheme = "https".toList ∧ parsed.netloc = apiHost.toList ∧
        parsed.path = initial.path ∧ (initialPairs.map Prod.fst).Nodup ∧
        (pairs.map Prod.fst).Nodup ∧ _ := by simpa only [not_or, not_not] using hshape
    obtain rfl := Option.some.inj hq
    obtain ⟨hparts, haccepted⟩ := urlparse_parts hparsed hscheme (by rw [hhost]; decide)
    have hfound := urlparse_request hparts haccepted
    rw [hhost] at hfound
    have htext : (apiOrigin ++ String.ofList parsed.request).toList =
        "https://".toList ++ (apiHost.toList ++ parsed.request) := by
      rw [String.toList_append, String.toList_ofList]
      rfl
    obtain ⟨digits, number, hdigits, hvalue, hpositive⟩ := pageNumber_eq_ok hnumber
    rw [← htext] at hfound
    refine ⟨initial, _, initialPairs, pairs, hinitial, hfound, rfl, rfl, hpath, rfl, rfl,
      hinitialPairs, hpairs, hkeys, fun pair hother => ⟨fun hmem => ?_, fun hmem => ?_⟩,
      digits, number, (lookup_eq_some_iff_mem hkeys).mp hdigits, hvalue, hpositive⟩
    · have hkey : pair.1 ∈ initialPairs.map Prod.fst := by
        by_contra hnew
        exact hknown ⟨pair.1, List.mem_map_of_mem hmem, hnew, hother⟩
      obtain ⟨entry, hentry, hsame⟩ := List.mem_map.mp hkey
      have hlookup : pairs.lookup entry.1 = some entry.2 := by
        by_contra hlost
        exact hkept ⟨entry, hentry, hsame ▸ hother, hlost⟩
      have hpair := (lookup_eq_some_iff_mem hkeys).mpr hmem
      rw [← hsame, hlookup] at hpair
      rw [show pair = entry from Prod.ext hsame.symm (Option.some.inj hpair).symm]
      exact hentry
    · have hlookup : pairs.lookup pair.1 = some pair.2 := by
        by_contra hlost
        exact hkept ⟨pair, hmem, hother, hlost⟩
      exact (lookup_eq_some_iff_mem hkeys).mp hlookup

end

/-! ## The pages of a collection -/

section
variable [PythonLibrary] [NetlocLibrary] [CharacterLibrary] [IntegerLibrary]

/-- The pages from the current one to one that names no next one: what is asked, and what is
answered. -/
inductive Pages (client : Client) (path : String) :
    List String → String → List String → List (List Dict) → Prop
  | last {sent : List String} {current : String} {data : Value} {headers : Headers}
      {page : List Dict} : client.answer sent current = .ok (data, headers) →
      pageOf data = some page → nextPath path headers = .ok none →
      Pages client path sent current [current] [page]
  | next {sent ps : List String} {current q : String} {data : Value} {headers : Headers}
      {page : List Dict} {pages : List (List Dict)} :
      client.answer sent current = .ok (data, headers) → pageOf data = some page →
      nextPath path headers = .ok (some q) → Pages client path (sent ++ [current]) q ps pages →
      Pages client path sent current (current :: ps) (page :: pages)

/-- The state after these requests. -/
def ReadState.afterAll (s : ReadState) (ps : List String) : ReadState :=
  ⟨s.requests + ps.length, s.sent ++ ps⟩

omit [PythonLibrary] [NetlocLibrary] [CharacterLibrary] [IntegerLibrary] in
theorem ReadState.after_afterAll (s : ReadState) (q : String) (ps : List String) :
    (s.after q).afterAll ps = s.afterAll (q :: ps) := by
  simp only [ReadState.after, ReadState.afterAll, List.append_assoc, List.singleton_append,
    List.length_cons, ReadState.mk.injEq, and_true]
  omega

/-- The rounds that are left return what is on the pages that are left, if they suffice. -/
theorem pagesFrom_eq_ok {client : Client} {path : String} {limit : Option ℕ} (rounds : ℕ) :
    ∀ {seen : List String} {values result : List Dict} {current : String} {s t : ReadState},
      (pagesFrom client path limit rounds seen values current).start s = (.ok result, t) ↔
        ∃ ps pages, Pages client path s.sent current ps pages ∧ ps.length ≤ rounds ∧ ps.Nodup ∧
          (∀ q ∈ ps, q ∉ seen) ∧ result = values ++ pages.flatten ∧
          (∀ most ∈ limit, result.length ≤ most) ∧
          s.requests + ps.length ≤ maxRequestsPerRead ∧ t = s.afterAll ps := by
  induction rounds with
  | zero =>
      intro seen values result current s t
      refine ⟨fun h => absurd (Prod.mk.inj h).1 (by simp), ?_⟩
      rintro ⟨ps, pages, hpages, hlength, -⟩
      cases hpages <;> cases hlength
  | succ rounds ih =>
      intro seen values result current s t
      simp only [pagesFrom, start_bind_eq_ok, start_ofExcept_eq_ok, get_eq_ok, orRaise_eq_ok,
        refuseIf_eq_ok]
      constructor
      · rintro ⟨_, _, ⟨hnew, rfl⟩, ⟨data, headers⟩, _, ⟨hanswer, hbudget, rfl⟩, page, _,
          ⟨hpage, rfl⟩, _, _, ⟨hlimit, rfl⟩, next, _, ⟨hnext, rfl⟩, hrest⟩
        cases next with
        | none =>
            obtain ⟨rfl, rfl⟩ := start_pure_eq_ok.mp hrest
            refine ⟨_, _, .last hanswer hpage hnext, by simp, by simp, by simpa using hnew,
              by simp, fun most hmost => ?_, hbudget, rfl⟩
            by_contra hmore
            exact hlimit ⟨most, hmost, Nat.lt_of_not_le hmore⟩
        | some q =>
            obtain ⟨ps, pages, hpages, hrounds, hnodup, hunseen, rfl, hmost, hwithin, rfl⟩ :=
              ih.mp hrest
            refine ⟨_, _, .next hanswer hpage hnext hpages, Nat.succ_le_succ hrounds,
              List.nodup_cons.mpr ⟨fun hmem => hunseen current hmem List.mem_cons_self, hnodup⟩,
              fun p hp => ?_, by simp, hmost, ?_, s.after_afterAll current ps⟩
            · rcases List.mem_cons.mp hp with rfl | hp
              · exact hnew
              · exact fun hseen => hunseen p hp (List.mem_cons_of_mem _ hseen)
            · simp only [ReadState.after] at hwithin
              simp only [List.length_cons]
              omega
      · rintro ⟨ps, pages, hpages, hrounds, hnodup, hunseen, rfl, hmost, hwithin, rfl⟩
        cases hpages with
        | @last _ _ data headers page hanswer hpage hnext =>
            refine ⟨⟨⟩, s, ⟨hunseen current List.mem_cons_self, rfl⟩, (data, headers), _,
              ⟨hanswer, hwithin, rfl⟩, page, _, ⟨hpage, rfl⟩, ⟨⟩, _, ⟨?_, rfl⟩, none, _,
              ⟨hnext, rfl⟩, start_pure_eq_ok.mpr ⟨by simp, rfl⟩⟩
            rintro ⟨most, hlimit, hmore⟩
            have hall := hmost most hlimit
            simp only [List.flatten_cons, List.flatten_nil, List.append_nil] at hall
            omega
        | @next _ ps _ q data headers page pages hanswer hpage hnext hpages =>
            obtain ⟨hcurrent, hnodup⟩ := List.nodup_cons.mp hnodup
            simp only [List.length_cons] at hrounds hwithin
            refine ⟨⟨⟩, s, ⟨hunseen current List.mem_cons_self, rfl⟩, (data, headers), _,
              ⟨hanswer, by omega, rfl⟩, page, _, ⟨hpage, rfl⟩, ⟨⟩, _, ⟨?_, rfl⟩, some q, _,
              ⟨hnext, rfl⟩, ih.mpr ⟨ps, pages, hpages, by omega, hnodup, fun p hp hseen => ?_,
                by simp, by simpa using hmost, ?_, (s.after_afterAll current ps).symm⟩⟩
            · rintro ⟨most, hlimit, hmore⟩
              have hall := hmost most hlimit
              simp only [List.flatten_cons, List.length_append] at hall hmore
              omega
            · rcases List.mem_cons.mp hseen with rfl | hseen
              · exact hcurrent hp
              · exact hunseen p (List.mem_cons_of_mem _ hp) hseen
            · simp only [ReadState.after]
              omega

/-- The requests that a read of a collection has sent: not many, none twice, each for a page of
the collection, and all of them counted. -/
def Sent (path : String) (rounds : ℕ) (seen : List String) (s t : ReadState) : Prop :=
  ∃ ps, t.sent = s.sent ++ ps ∧ ps.length ≤ rounds ∧ ps.Nodup ∧ (∀ q ∈ ps, q ∉ seen) ∧
    (∀ q ∈ ps, q = path ∨ PageOf path q) ∧ s.requests + ps.length ≤ t.requests ∧
    (ps ≠ [] → s.requests + ps.length ≤ maxRequestsPerRead)

omit [PythonLibrary] [CharacterLibrary] in
theorem Sent.none {path : String} {rounds : ℕ} {seen : List String} {s t : ReadState}
    (hsent : t.sent = s.sent) (hcounted : s.requests ≤ t.requests) : Sent path rounds seen s t :=
  ⟨[], by rw [hsent, List.append_nil], Nat.zero_le _, List.nodup_nil, nofun, nofun, hcounted,
    fun h => absurd rfl h⟩

omit [PythonLibrary] [CharacterLibrary] in
/-- A request, and then what the remaining rounds send. -/
theorem Sent.cons {path current : String} {rounds : ℕ} {seen : List String} {s t : ReadState}
    (hcurrent : current = path ∨ PageOf path current) (hnew : current ∉ seen)
    (hbudget : s.requests < maxRequestsPerRead)
    (h : Sent path rounds (current :: seen) (s.after current) t) :
    Sent path (rounds + 1) seen s t := by
  obtain ⟨ps, hsent, hrounds, hnodup, hunseen, hpages, hcounted, hwithin⟩ := h
  simp only [ReadState.after] at hsent hcounted hwithin
  refine ⟨current :: ps, by simp [hsent], Nat.succ_le_succ hrounds,
    List.nodup_cons.mpr ⟨fun hmem => hunseen current hmem List.mem_cons_self, hnodup⟩, ?_, ?_, ?_,
    fun _ => ?_⟩
  · intro q hq
    rcases List.mem_cons.mp hq with rfl | hq
    · exact hnew
    · exact fun hseen => hunseen q hq (List.mem_cons_of_mem _ hseen)
  · intro q hq
    rcases List.mem_cons.mp hq with rfl | hq
    · exact hcurrent
    · exact hpages q hq
  · simp only [List.length_cons]
    omega
  · cases ps with
    | nil => exact hbudget
    | cons q ps =>
        have hmore := hwithin (by simp)
        simp only [List.length_cons] at hmore ⊢
        omega

/-- However they end, the rounds that are left send no more than their pages. -/
theorem pagesFrom_sends (client : Client) (path : String) (limit : Option ℕ) (rounds : ℕ) :
    ∀ (seen : List String) (values : List Dict) (current : String) (s : ReadState),
      (current = path ∨ PageOf path current) →
      Meets (· = s) (pagesFrom client path limit rounds seen values current)
        (fun _ => Sent path rounds seen s) (fun _ => Sent path rounds seen s) := by
  induction rounds with
  | zero =>
      rintro seen values current s - _ rfl
      exact .none rfl le_rfl
  | succ rounds ih =>
      intro seen values current s hcurrent
      refine .bind (R := fun _ t => t = s ∧ current ∉ seen) (.ofExcept ?_ ?_) fun _ => .each ?_
      · exact fun _ t hnew ht => ⟨ht, refuseIf_eq_ok.mp hnew⟩
      · rintro _ _ _ rfl
        exact .none rfl le_rfl
      · rintro _ ⟨hs, hnew⟩
        rw [hs]
        -- once it is sent, the request is the first of those that the rounds send
        have hone : ∀ t, s.requests < maxRequestsPerRead ∧ t = s.after current →
            Sent path (rounds + 1) seen s t := by
          rintro _ ⟨hbudget, rfl⟩
          exact .cons hcurrent hnew hbudget (.none rfl le_rfl)
        refine .bind ((get_sends client current s).weaken (fun _ => id) (fun _ _ => id)
          fun _ t h => ?_) fun response =>
          .bind (.ofExcept (fun _ _ _ h => h) fun _ t _ => hone t) fun page =>
          .bind (.ofExcept (fun _ _ _ h => h) fun _ t _ => hone t) fun _ =>
          .bind (R := fun next t => (s.requests < maxRequestsPerRead ∧ t = s.after current) ∧
            ∀ q ∈ next, PageOf path q) (.ofExcept ?_ fun _ t _ => hone t) fun next => ?_
        · exact h.elim (fun h => .none h.1 h.2) (hone t)
        · rintro next t hnext h
          refine ⟨h, fun q hq => ?_⟩
          obtain rfl := Option.mem_def.mp hq
          exact nextPath_pageOf hnext
        · cases next with
          | none => exact .pure fun t h => hone t h.1
          | some q =>
              refine .each ?_
              rintro _ ⟨⟨hbudget, rfl⟩, hq⟩
              exact (ih _ _ q _ (.inr (hq q rfl))).weaken (fun _ => id)
                (fun _ _ => .cons hcurrent hnew hbudget) fun _ _ => .cons hcurrent hnew hbudget

/-- A read of a collection sends at most a hundred requests, none twice, each to the origin for a
page of that collection, and never more than its budget; it returns exactly when the pages that are
named one after the other end within these bounds, and then returns all of what is on them. -/
theorem collection_safe (client : Client) (path : String) (limit : Option ℕ) (s t : ReadState)
    (values : List Dict) :
    Sent path maxPagesPerCollection [] s ((collection client path limit).start s).2 ∧
      ((collection client path limit).start s = (.ok values, t) ↔
        ∃ ps pages, Pages client path s.sent path ps pages ∧ ps.length ≤ maxPagesPerCollection ∧
          ps.Nodup ∧ values = pages.flatten ∧ (∀ most ∈ limit, values.length ≤ most) ∧
          s.requests + ps.length ≤ maxRequestsPerRead ∧ t = s.afterAll ps) := by
  refine ⟨(pagesFrom_sends client path limit _ [] [] path s (.inl rfl)).leaves rfl, ?_⟩
  rw [collection, pagesFrom_eq_ok]
  simp only [List.not_mem_nil, not_false_eq_true, implies_true, true_and, List.nil_append]

end

end DeliverySystem.PageReads
