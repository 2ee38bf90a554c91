import Mathlib.Data.List.TakeWhile
import Mathlib.Tactic.Common

/-!
# Texts of URLs

A URL is taken apart as the parser of the standard library does it, and so is
its query. What was taken apart can be put together again: the parts that are
joined are the parts that are found.
-/
namespace DeliverySystem.UrlTexts
set_option autoImplicit false

/-! ## Percent encoding -/

/-- What is known of a character that has begun. -/
structure Utf8State where
  needed : ℕ
  code : ℕ
  lower : ℕ
  upper : ℕ

def Utf8State.initial : Utf8State := ⟨0, 0, 0x80, 0xbf⟩

def replacement : Char := Char.ofNat 0xfffd

/-- A byte at the start of a character. -/
def startByte (b : ℕ) : Utf8State × List Char :=
  if b < 0x80 then (.initial, [Char.ofNat b])
  else if 0xc2 ≤ b ∧ b ≤ 0xdf then (⟨1, b - 0xc0, 0x80, 0xbf⟩, [])
  else if 0xe0 ≤ b ∧ b ≤ 0xef then
    (⟨2, b - 0xe0, if b = 0xe0 then 0xa0 else 0x80, if b = 0xed then 0x9f else 0xbf⟩, [])
  else if 0xf0 ≤ b ∧ b ≤ 0xf4 then
    (⟨3, b - 0xf0, if b = 0xf0 then 0x90 else 0x80, if b = 0xf4 then 0x8f else 0xbf⟩, [])
  else (.initial, [replacement])

def nextByte (s : Utf8State) (b : ℕ) : Utf8State × List Char :=
  if s.needed = 0 then startByte b
  else if s.lower ≤ b ∧ b ≤ s.upper then
    let code := s.code * 64 + (b - 0x80)
    if s.needed = 1 then (.initial, [Char.ofNat code]) else (⟨s.needed - 1, code, 0x80, 0xbf⟩, [])
  else
    let (s', found) := startByte b
    (s', replacement :: found)

def decodeFrom (s : Utf8State) : List ℕ → List Char
  | [] => if s.needed = 0 then [] else [replacement]
  | b :: rest =>
      let (s', found) := nextByte s b
      found ++ decodeFrom s' rest

/-- `bytes.decode("utf-8", "replace")` -/
def decodeReplace (bytes : List ℕ) : List Char := decodeFrom .initial bytes

def hexDigit? (c : Char) : Option ℕ :=
  if '0' ≤ c ∧ c ≤ '9' then some (c.toNat - 48)
  else if 'a' ≤ c ∧ c ≤ 'f' then some (c.toNat - 87)
  else if 'A' ≤ c ∧ c ≤ 'F' then some (c.toNat - 55)
  else none

/-- `unquote_to_bytes` of a text of ASCII characters. -/
def unquoteBytes : List Char → List ℕ
  | '%' :: a :: b :: rest =>
      match hexDigit? a, hexDigit? b with
      | some high, some low => (high * 16 + low) :: unquoteBytes rest
      | _, _ => '%'.toNat :: unquoteBytes (a :: b :: rest)
  | c :: rest => c.toNat :: unquoteBytes rest
  | [] => []

/-- `unquote`: every stretch of ASCII characters is decoded on its own. -/
def unquoteFrom : ℕ → List Char → List Char
  | 0, text => text
  | fuel + 1, text =>
      decodeReplace (unquoteBytes (text.takeWhile fun c => c.toNat < 128)) ++
        match text.dropWhile fun c => c.toNat < 128 with
        | [] => []
        | c :: rest => c :: unquoteFrom fuel rest

def unquote (text : List Char) : List Char := unquoteFrom (text.length + 1) text

/-! ## Queries -/

/-- The part before the first separator, and what follows it if it is there. -/
def partition (separator : Char) (text : List Char) : List Char × Option (List Char) :=
  (text.takeWhile (· ≠ separator), (text.dropWhile (· ≠ separator)).tail?)

def queryText (text : List Char) : List Char :=
  unquote (text.map fun c => if c = '+' then ' ' else c)

def queryField (field : List Char) : Option (List Char × List Char) :=
  match partition '=' field with
  | (name, some value) => some (queryText name, queryText value)
  | (_, none) => none

/-- `parse_qsl(query, keep_blank_values=True, strict_parsing=True)`; `none` where it raises. -/
def parseQsl (query : List Char) : Option (List (List Char × List Char)) :=
  if query = [] then some [] else (query.splitOn '&').mapM queryField

/-! ## URLs -/

/-- What the parser refuses as a network location: wrong brackets, or characters that a
normalization turns into separators. -/
class NetlocLibrary where
  refused : List Char → Bool

structure Url where
  scheme : List Char
  netloc : List Char
  path : List Char
  params : List Char
  query : List Char
  fragment : List Char
deriving DecidableEq

def schemeCharacter (c : Char) : Bool := c.isAlphanum || c ∈ ['+', '-', '.']

/-- The scheme of a URL, and what follows it. -/
def splitScheme (url : List Char) : List Char × List Char :=
  match partition ':' url with
  | (head, some rest) =>
      if (head.head?.any Char.isAlpha && head.all schemeCharacter) = true then
        (head.map Char.toLower, rest)
      else ([], url)
  | (_, none) => ([], url)

def netlocEnds (c : Char) : Bool := c ∈ ['/', '?', '#']

def splitNetloc : List Char → List Char × List Char
  | '/' :: '/' :: rest => (rest.takeWhile (!netlocEnds ·), rest.dropWhile (!netlocEnds ·))
  | url => ([], url)

/-- A part that begins with a separator. -/
def splitAt (separator : Char) (url : List Char) : List Char × List Char :=
  let (before, after) := partition separator url
  (before, after.getD [])

/-- The last segment of a path is what follows the last slash. -/
def lastSegment (path : List Char) : List Char := (path.reverse.takeWhile (· ≠ '/')).reverse

/-- What stands before the last segment. -/
def directory (path : List Char) : List Char := (path.reverse.dropWhile (· ≠ '/')).reverse

/-- `_splitparams` -/
def splitParams (path : List Char) : List Char × List Char :=
  let (segment, params) := splitAt ';' (lastSegment path)
  (directory path ++ segment, params)

def usesParams : List String :=
  ["", "ftp", "hdl", "prospero", "http", "imap", "https", "shttp", "rtsp", "rtspu", "sip", "sips",
    "mms", "sftp", "tel"]

/-- The characters that are removed from a URL before anything else. -/
def cleaned (text : List Char) : List Char :=
  (text.dropWhile fun c => c.toNat ≤ 0x20).filter fun c => c ∉ ['\t', '\r', '\n']

section
variable [NetlocLibrary]

/-- `urlparse`; `none` where it raises. -/
def urlparse (text : List Char) : Option Url :=
  let (scheme, url) := splitScheme (cleaned text)
  let (netloc, url) := splitNetloc url
  let (url, fragment) := splitAt '#' url
  let (path, query) := splitAt '?' url
  if NetlocLibrary.refused netloc then none
  else
    let (path, params) := if String.ofList scheme ∈ usesParams then splitParams path else (path, [])
    some ⟨scheme, netloc, path, params, query, fragment⟩

end

/-! ## What is found of joined parts -/

theorem partition_join {separator : Char} {before after : List Char} (h : separator ∉ before) :
    partition separator (before ++ separator :: after) = (before, some after) := by
  have hbefore : ∀ c ∈ before, decide (c ≠ separator) = true := by
    intro c hc
    refine decide_eq_true ?_
    rintro rfl
    exact h hc
  rw [partition, List.takeWhile_append_of_pos hbefore, List.dropWhile_append_of_pos hbefore]
  simp

theorem partition_absent {separator : Char} {text : List Char} (h : separator ∉ text) :
    partition separator text = (text, none) := by
  have htext : ∀ c ∈ text, decide (c ≠ separator) = true := by
    intro c hc
    refine decide_eq_true ?_
    rintro rfl
    exact h hc
  rw [partition, List.takeWhile_eq_self_iff.mpr htext, List.dropWhile_eq_nil_iff.mpr htext]
  rfl

/-- The first part of a partition does not have the separator. -/
theorem not_mem_partition (separator : Char) (text : List Char) :
    separator ∉ (partition separator text).1 := by
  intro hmem
  have hne := List.mem_takeWhile_imp hmem
  simp at hne

theorem splitAt_fst_subset (separator : Char) (text : List Char) :
    ∀ c ∈ (splitAt separator text).1, c ∈ text := by
  intro c hc
  exact (List.takeWhile_prefix _).subset hc

theorem splitAt_snd_subset (separator : Char) (text : List Char) :
    ∀ c ∈ (splitAt separator text).2, c ∈ text := by
  intro c hc
  have hdrop : c ∈ text.dropWhile (· ≠ separator) := by
    rw [splitAt, partition] at hc
    cases hrest : text.dropWhile (· ≠ separator) with
    | nil =>
        rw [hrest] at hc
        cases hc
    | cons d rest =>
        rw [hrest] at hc
        exact List.mem_cons_of_mem d hc
  exact (List.dropWhile_suffix _).subset hdrop

theorem splitAt_join {separator : Char} {before after : List Char} (h : separator ∉ before) :
    splitAt separator (before ++ separator :: after) = (before, after) := by
  rw [splitAt, partition_join h]
  rfl

theorem splitAt_absent {separator : Char} {text : List Char} (h : separator ∉ text) :
    splitAt separator text = (text, []) := by
  rw [splitAt, partition_absent h]
  rfl

theorem directory_append_lastSegment (path : List Char) :
    directory path ++ lastSegment path = path := by
  rw [directory, lastSegment, ← List.reverse_append, List.takeWhile_append_dropWhile,
    List.reverse_reverse]

/-- A path that is empty or ends with a slash. -/
def Ended (path : List Char) : Prop := path.reverse = [] ∨ ∃ rest, path.reverse = '/' :: rest

theorem directory_ended (path : List Char) : Ended (directory path) := by
  rw [Ended, directory, List.reverse_reverse]
  cases hrest : path.reverse.dropWhile (· ≠ '/') with
  | nil => exact .inl rfl
  | cons c rest =>
      have hhead := List.head?_dropWhile_not (fun c => decide (c ≠ '/')) path.reverse
      rw [hrest] at hhead
      simp only [List.head?_cons, ne_eq, decide_not, Bool.not_eq_false', decide_eq_true_eq] at hhead
      exact .inr ⟨rest, by rw [hhead]⟩

/-- A part without a slash is the last segment after a directory. -/
theorem lastSegment_join {path segment : List Char} (hpath : Ended path) (h : '/' ∉ segment) :
    lastSegment (path ++ segment) = segment ∧ directory (path ++ segment) = path := by
  have hsegment : ∀ c ∈ segment.reverse, decide (c ≠ '/') = true := by
    intro c hc
    refine decide_eq_true ?_
    rintro rfl
    exact h (List.mem_reverse.mp hc)
  have hended : path.reverse.takeWhile (fun c => decide (c ≠ '/')) = [] ∧
      path.reverse.dropWhile (fun c => decide (c ≠ '/')) = path.reverse := by
    rcases hpath with hnil | ⟨rest, hrest⟩
    · rw [hnil]
      exact ⟨rfl, rfl⟩
    · rw [hrest]
      exact ⟨List.takeWhile_cons_of_neg (by simp), List.dropWhile_cons_of_neg (by simp)⟩
  rw [lastSegment, directory, List.reverse_append, List.takeWhile_append_of_pos hsegment,
    List.dropWhile_append_of_pos hsegment, hended.1, hended.2]
  simp

/-! ## What is found of joined URLs -/

theorem splitScheme_subset (url : List Char) : ∀ c ∈ (splitScheme url).2, c ∈ url := by
  intro c hc
  rw [splitScheme] at hc
  split at hc
  · rename_i head rest hpartition
    split at hc
    · have hrest : c ∈ (splitAt ':' url).2 := by
        rw [splitAt, hpartition]
        exact hc
      exact splitAt_snd_subset ':' url c hrest
    · exact hc
  · exact hc

/-- What follows a network location is empty or begins with what ends it. -/
theorem splitNetloc_spec {url : List Char} (h : (splitNetloc url).1 ≠ []) :
    (∀ c ∈ (splitNetloc url).1, netlocEnds c = false ∧ c ∈ url) ∧
      (∀ c ∈ (splitNetloc url).2, c ∈ url) ∧
      ∀ c ∈ (splitNetloc url).2.head?, netlocEnds c = true := by
  revert h
  unfold splitNetloc
  split
  · rename_i rest
    intro _
    refine ⟨fun c hc => ⟨?_, ?_⟩, fun c hc => ?_, fun c hc => ?_⟩
    · simpa using List.mem_takeWhile_imp hc
    · exact List.mem_cons_of_mem _ (List.mem_cons_of_mem _ ((List.takeWhile_prefix _).subset hc))
    · exact List.mem_cons_of_mem _ (List.mem_cons_of_mem _ ((List.dropWhile_suffix _).subset hc))
    · have hhead := List.head?_dropWhile_not (fun c => !netlocEnds c) rest
      rw [Option.mem_def.mp hc] at hhead
      simpa using hhead
  · exact fun h => absurd rfl h

theorem mem_splitParams (path : List Char) : ∀ c ∈ (splitParams path).1, c ∈ path := by
  intro c hc
  rw [← directory_append_lastSegment path, List.mem_append]
  rcases List.mem_append.mp hc with hc | hc
  · exact .inl hc
  · exact .inr (splitAt_fst_subset ';' _ c hc)

theorem lastSegment_no_slash (path : List Char) : '/' ∉ lastSegment path := by
  intro hmem
  have hne := List.mem_takeWhile_imp (List.mem_reverse.mp hmem)
  simp at hne

/-- What is left of a path has no parameters. -/
theorem splitParams_fst (path : List Char) :
    splitParams (splitParams path).1 = ((splitParams path).1, []) := by
  have hslash : '/' ∉ (splitAt ';' (lastSegment path)).1 := fun hmem =>
    lastSegment_no_slash path (splitAt_fst_subset ';' _ _ hmem)
  obtain ⟨hsegment, hdirectory⟩ := lastSegment_join (directory_ended path) hslash
  have hjoined : (splitParams path).1 = directory path ++ (splitAt ';' (lastSegment path)).1 := rfl
  have habsent := splitAt_absent (not_mem_partition ';' (lastSegment path))
  rw [hjoined, splitParams, hsegment, hdirectory]
  exact congrArg (fun parts => (directory path ++ parts.1, parts.2)) habsent

/-- What is left of a path begins as the path does. -/
theorem splitParams_begins {path : List Char} (h : path = [] ∨ ∃ rest, path = '/' :: rest) :
    (splitParams path).1 = [] ∨ ∃ rest, (splitParams path).1 = '/' :: rest := by
  rcases h with rfl | ⟨rest, rfl⟩
  · exact .inl rfl
  · right
    have hjoined := directory_append_lastSegment ('/' :: rest)
    cases hdirectory : directory ('/' :: rest) with
    | nil =>
        rw [hdirectory, List.nil_append] at hjoined
        refine absurd ?_ (lastSegment_no_slash ('/' :: rest))
        rw [hjoined]
        exact List.mem_cons_self
    | cons c before =>
        rw [hdirectory, List.cons_append, List.cons.injEq] at hjoined
        exact ⟨before ++ (splitAt ';' (lastSegment ('/' :: rest))).1, by
          rw [splitParams, hdirectory, hjoined.1]; rfl⟩

theorem cleaned_free {text : List Char} {c : Char} (h : c ∈ cleaned text) :
    c ∉ ['\t', '\r', '\n'] := by
  simpa using (List.mem_filter.mp h).2

/-- A path after a network location is empty or begins with a slash. -/
theorem path_begins {url : List Char} (h : ∀ c ∈ url.head?, netlocEnds c = true) :
    (splitAt '?' (splitAt '#' url).1).1 = [] ∨
      ∃ rest, (splitAt '?' (splitAt '#' url).1).1 = '/' :: rest := by
  cases url with
  | nil => exact .inl rfl
  | cons c rest =>
      have hc : c = '/' ∨ c = '?' ∨ c = '#' := by simpa [netlocEnds] using h c rfl
      rcases hc with rfl | rfl | rfl
      · exact .inr ⟨_, rfl⟩
      · exact .inl rfl
      · exact .inl rfl

/-- The parts of a URL that can be joined and found again. -/
structure Parts (url : Url) : Prop where
  netloc : ∀ c ∈ url.netloc, netlocEnds c = false
  path : url.path = [] ∨ ∃ rest, url.path = '/' :: rest
  pathFree : '?' ∉ url.path ∧ '#' ∉ url.path
  queryFree : '#' ∉ url.query
  noParams : splitParams url.path = (url.path, [])
  clean : ∀ c ∈ url.netloc ++ url.path ++ url.query, c ∉ ['\t', '\r', '\n']

/-- A path with its query. -/
def Url.request (url : Url) : List Char :=
  url.path ++ if url.query = [] then [] else '?' :: url.query

theorem splitNetloc_request {url : Url} (h : Parts url) :
    splitNetloc ('/' :: '/' :: (url.netloc ++ url.request)) = (url.netloc, url.request) := by
  have hnetloc : ∀ c ∈ url.netloc, (!netlocEnds c) = true := fun c hc => by simp [h.netloc c hc]
  have hrequest : url.request = [] ∨ ∃ c rest, url.request = c :: rest ∧ netlocEnds c = true := by
    rw [Url.request]
    rcases h.path with hpath | ⟨rest, hpath⟩
    · rw [hpath]
      split
      · exact .inl rfl
      · exact .inr ⟨_, _, rfl, by decide⟩
    · exact .inr ⟨'/', _, by rw [hpath, List.cons_append], by decide⟩
  rw [splitNetloc, List.takeWhile_append_of_pos hnetloc, List.dropWhile_append_of_pos hnetloc]
  rcases hrequest with hrequest | ⟨c, rest, hrequest, hc⟩
  · rw [hrequest, List.takeWhile_nil, List.dropWhile_nil, List.append_nil]
  · rw [hrequest, List.takeWhile_cons_of_neg (by simp [hc]), List.dropWhile_cons_of_neg (by simp [hc]),
      List.append_nil]

theorem splitAt_request {url : Url} (h : Parts url) :
    splitAt '#' url.request = (url.request, []) ∧
      splitAt '?' url.request = (url.path, url.query) := by
  have hfragment : '#' ∉ url.request := by
    rw [Url.request]
    split
    · simpa using h.pathFree.2
    · simpa using ⟨h.pathFree.2, h.queryFree⟩
  refine ⟨splitAt_absent hfragment, ?_⟩
  rw [Url.request]
  split
  · rename_i hquery
    rw [hquery, List.append_nil]
    exact splitAt_absent h.pathFree.1
  · exact splitAt_join h.pathFree.1

theorem cleaned_request {url : Url} (h : Parts url) :
    cleaned ("https://".toList ++ (url.netloc ++ url.request)) =
      "https://".toList ++ (url.netloc ++ url.request) := by
  have hbegins : ("https://".toList ++ (url.netloc ++ url.request)).dropWhile
      (fun c => decide (c.toNat ≤ 0x20)) = "https://".toList ++ (url.netloc ++ url.request) :=
    List.dropWhile_cons_of_neg (by decide)
  rw [cleaned, hbegins, List.filter_eq_self]
  intro c hc
  refine decide_eq_true ?_
  have hscheme : "https://".toList.all (fun c => c ∉ ['\t', '\r', '\n']) = true := by decide
  rcases List.mem_append.mp hc with hc | hc
  · exact of_decide_eq_true (List.all_eq_true.mp hscheme c hc)
  · rcases List.mem_append.mp hc with hnetloc | hrequest
    · exact h.clean c (List.mem_append_left _ (List.mem_append_left _ hnetloc))
    · rw [Url.request] at hrequest
      rcases List.mem_append.mp hrequest with hpath | hquery
      · exact h.clean c (List.mem_append_left _ (List.mem_append_right _ hpath))
      · split at hquery
        · cases hquery
        · rcases List.mem_cons.mp hquery with rfl | hquery
          · decide
          · exact h.clean c (List.mem_append_right _ hquery)

section
variable [NetlocLibrary]

theorem urlparse_parts {text : List Char} {url : Url} (h : urlparse text = some url)
    (hscheme : url.scheme = "https".toList) (hnetloc : url.netloc ≠ []) :
    Parts url ∧ NetlocLibrary.refused url.netloc = false := by
  obtain ⟨scheme, netloc, path, params, query, fragment⟩ := url
  obtain rfl : scheme = "https".toList := hscheme
  rw [urlparse] at h
  dsimp only at h
  split_ifs at h with hrefused huses
  · obtain ⟨-, rfl, rfl, -, rfl, -⟩ := Url.mk.inj (Option.some.inj h)
    obtain ⟨hends, hrest, hhead⟩ := splitNetloc_spec hnetloc
    have hbegins := path_begins hhead
    have hclean : ∀ c ∈ (splitScheme (cleaned text)).2, c ∉ ['\t', '\r', '\n'] :=
      fun c hc => cleaned_free (splitScheme_subset _ c hc)
    have hpath : ∀ c ∈ (splitAt '?' (splitAt '#' (splitNetloc (splitScheme (cleaned text)).2).2).1).1,
        c ∈ (splitNetloc (splitScheme (cleaned text)).2).2 := fun c hc =>
      splitAt_fst_subset '#' _ c (splitAt_fst_subset '?' _ c hc)
    refine ⟨⟨fun c hc => (hends c hc).1, splitParams_begins hbegins, ⟨?_, ?_⟩, ?_,
      splitParams_fst _, ?_⟩, by simpa using hrefused⟩
    · exact fun hmem => not_mem_partition '?' _ (mem_splitParams _ _ hmem)
    · exact fun hmem => not_mem_partition '#' _
        (splitAt_fst_subset '?' _ _ (mem_splitParams _ _ hmem))
    · exact fun hmem => not_mem_partition '#' _ (splitAt_snd_subset '?' _ _ hmem)
    · intro c hc
      rcases List.mem_append.mp hc with hc | hc
      · rcases List.mem_append.mp hc with hc | hc
        · exact hclean c (hends c hc).2
        · exact hclean c (hrest c (hpath c (mem_splitParams _ c hc)))
      · exact hclean c (hrest c (splitAt_fst_subset '#' _ c (splitAt_snd_subset '?' _ c hc)))
  · obtain ⟨hscheme, -⟩ := Url.mk.inj (Option.some.inj h)
    rw [hscheme] at huses
    exact absurd (by decide) huses

/-- A path with its query at a host is found again. -/
theorem urlparse_request {url : Url} (h : Parts url)
    (haccepted : NetlocLibrary.refused url.netloc = false) :
    urlparse ("https://".toList ++ (url.netloc ++ url.request)) =
      some ⟨"https".toList, url.netloc, url.path, [], url.query, []⟩ := by
  have hscheme : splitScheme ("https://".toList ++ (url.netloc ++ url.request)) =
      ("https".toList, '/' :: '/' :: (url.netloc ++ url.request)) := by
    have hpartition : partition ':' ("https://".toList ++ (url.netloc ++ url.request)) =
        ("https".toList, some ('/' :: '/' :: (url.netloc ++ url.request))) :=
      partition_join (show ':' ∉ "https".toList by decide)
    rw [splitScheme, hpartition]
    rfl
  obtain ⟨hfragment, hquery⟩ := splitAt_request h
  rw [urlparse, cleaned_request h, hscheme]
  dsimp only
  rw [splitNetloc_request h]
  dsimp only
  rw [hfragment, hquery]
  dsimp only
  rw [haccepted, h.noParams]
  rfl

end

end DeliverySystem.UrlTexts
