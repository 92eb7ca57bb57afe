/-
# Proofs.Pages — a listing is what stands along the chain of its pages

A server that answers each address in one way settles a listing before it begins. `Serves` says
that there is a page at an address, `Follows` that it names the next one, and `Chain` that the
addresses from one on end: with a page that names none, or with what is no page at all.

Fetching goes along the chain (`fetchPages_of_chain`): one request for each address, and the
records of all pages, or the fault of the last address. No address is asked for twice
(`Chain.nodup_targets`): an address that came back would be followed by what followed it before.
-/
import InventorySync.Http.Listing
import Mathlib.Data.List.Forall2
import Mathlib.Data.List.Nodup

namespace InventorySync.Http

set_option autoImplicit false

open Json (Codec)

variable {α : Type}

/-! ## Replies -/

namespace Reply

/-- Not a page: the status is no success, or the body does not decode. -/
def IsBad (codec : Codec α) (r : Reply) : Prop :=
  r.status.isSuccess = false ∨ ∀ page, (Page.codec codec).decode (Client.bodyText r) ≠ .ok page

/-- The status stands for faults of this kind. -/
def Reports (r : Reply) : Fault → Prop
  | .notFound _ => r.status.code = 404
  | .authentication _ => r.status.code = 401 ∨ r.status.code = 403
  | .api _ => r.status.code ≠ 404 ∧ r.status.code ≠ 401 ∧ r.status.code ≠ 403
  | _ => False

end Reply

namespace Client

theorem reports_statusFault (method : Method) (path : String) (r : Reply) :
    r.Reports (statusFault method path r) := by
  rw [statusFault]
  split
  next missing => exact missing
  next present =>
    split
    next refused => exact refused
    next known => exact ⟨present, not_or.1 known⟩

theorem readPage_eq_ok_iff {c : Client} {codec : Codec α} {url : String} {r : Reply}
    {page : Page α} : c.readPage codec url r = .ok page ↔
      r.status.isSuccess = true ∧ (Page.codec codec).decode (bodyText r) = .ok page := by
  by_cases success : r.status.isSuccess = true
  · cases read : (Page.codec codec).decode (bodyText r) <;>
      simp [readPage, success, read, Except.mapError]
  · simp [readPage, success]

theorem bad_of_readPage {c : Client} {codec : Codec α} {url : String} {r : Reply} {f : Fault}
    (refused : c.readPage codec url r = .error f) : r.IsBad codec ∧ r.Reports f := by
  by_cases success : r.status.isSuccess = true
  · have codes : 200 ≤ r.status.code ∧ r.status.code < 300 := by
      simpa [Status.isSuccess] using success
    cases read : (Page.codec codec).decode (bodyText r) with
    | ok page => simp [readPage, success, read, Except.mapError] at refused
    | error fault =>
        obtain rfl : c.pageFault fault (bodyText r) = f := by
          simpa [readPage, success, read, Except.mapError] using refused
        refine ⟨.inr fun page => read ▸ nofun, ?_⟩
        change r.status.code ≠ 404 ∧ r.status.code ≠ 401 ∧ r.status.code ≠ 403
        omega
  · obtain rfl : statusFault .get url r = f := by simpa [readPage, success] using refused
    exact ⟨.inl (eq_false_of_ne_true success), reports_statusFault .get url r⟩

/-! ## One request -/

/-- Where the request for an address goes, if it can be sent: to that address, less its
fragment. -/
def target? (c : Client) (url : String) : Option Url :=
  if c.authorization.toList.all isHeaderChar then (Url.parse? url).map Url.sent else none

theorem fragment_target {c : Client} {url : String} {u : Url} (there : c.target? url = some u) :
    u.fragment = none := by
  unfold target? at there
  split at there
  · obtain ⟨v, -, rfl⟩ := Option.map_eq_some_iff.1 there
    rfl
  · cases there

/-- Why the request for an address cannot be sent. -/
def refusal (url : String) : TransportFault :=
  match Url.parse? url with
  | none => (Url.foreign? url).elim .unbuildable .foreign
  | some _ => .unbuildable

/-- The request for a page. -/
def pageRequest (c : Client) (u : Url) : Request where
  method := .get
  url := u
  authorization := c.authorization
  accept := "application/json"
  contentType := none
  body := none

variable (c : Client) (codec : Codec α) (replies : Url → Reply)

/-- The answer to the request for an address. -/
def answered (url : String) : Except TransportFault Reply :=
  match c.target? url with
  | some u => .ok (replies u)
  | none => .error (refusal url)

/-- What comes of asking for the page at an address. -/
def pageAt (url : String) : Except Fault (Page α) :=
  match c.answered replies url with
  | .ok r => c.readPage codec url r
  | .error t => .error (.transport t)

/-- A session that has asked for pages at these addresses. -/
def visited (urls : List String) (s : Session Unit) : Session Unit :=
  { s with
    answered := s.answered ++ (urls.filterMap c.target?).map c.pageRequest
    notes := s.notes ++ urls.map fun url => Log.debug ("Fetching page: " ++ url) }

theorem visited_visited (urls urls' : List String) (s : Session Unit) :
    c.visited urls' (c.visited urls s) = c.visited (urls ++ urls') s := by
  simp only [visited, List.filterMap_append, List.map_append, List.append_assoc]

theorem send_get (url : String) (s : Session Unit) :
    (c.send (.fixed replies) .get url none).run s = pure (c.answered replies url,
      { s with answered := s.answered ++ ([url].filterMap c.target?).map c.pageRequest }) := by
  cases parsed : Url.parse? url with
  | none =>
      have nowhere : c.target? url = none := by simp [target?, parsed]
      rw [List.filterMap_cons_none nowhere, answered, nowhere, refusal, send, parsed]
      simp only [List.filterMap_nil, List.map_nil, List.append_nil]
      rfl
  | some u =>
      by_cases sendable : c.authorization.toList.all isHeaderChar = true
      · have there : c.target? url = some u.sent := by simp [target?, parsed, sendable]
        rw [List.filterMap_cons_some there, answered, there, send, parsed]
        simp only [sendable, if_true]
        rfl
      · have nowhere : c.target? url = none := by simp [target?, sendable]
        rw [List.filterMap_cons_none nowhere, answered, nowhere, refusal, send, parsed]
        simp only [sendable, List.filterMap_nil, List.map_nil, List.append_nil]
        rfl

/-- One page, and what is asked for after it. -/
theorem fetchPages_succ (n : Nat) (url : String) (found : List α) (s : Session Unit) :
    (c.fetchPages (.fixed replies) codec (n + 1) url found).run s =
      match c.pageAt codec replies url with
      | .error f => (some (.error f), c.visited [url] s)
      | .ok page =>
        match page.next with
        | none => (some (.ok (found ++ page.results)), c.visited [url] s)
        | some next => (c.fetchPages (.fixed replies) codec n (c.buildUrl next)
            (found ++ page.results)).run (c.visited [url] s) := by
  simp only [fetchPages, Session.note, Session.noteAll, StateT.run_bind, StateT.run_modify,
    send_get, pure_bind, pageAt]
  cases c.answered replies url with
  | error t => rfl
  | ok r =>
      dsimp only
      cases c.readPage codec url r with
      | error f => rfl
      | ok page =>
          dsimp only
          cases page.next <;> rfl

/-! ## The chain -/

/-- There is a page at an address. -/
def Serves (url : String) (page : Page α) : Prop :=
  ∃ u, c.target? url = some u ∧ (replies u).status.isSuccess = true ∧
    (Page.codec codec).decode (bodyText (replies u)) = .ok page

/-- The page at an address names the next one: by an address of its own, or by a path. -/
def Follows (url url' : String) : Prop :=
  ∃ page next, c.Serves codec replies url page ∧ page.next = some next ∧
    url' = if "http".toList <+: next.toList then next else c.baseUrl ++ next

/-- The addresses from one on, up to one that none follows: its page names none, or it is none. -/
inductive Chain : String → List String → Prop
  | last {url : String} (ends : ∀ url', ¬ c.Follows codec replies url url') : Chain url [url]
  | cons {url url' : String} {urls : List String} (follows : c.Follows codec replies url url')
      (chain : Chain url' urls) : Chain url (url :: urls)

theorem buildUrl_eq (path : String) :
    c.buildUrl path = if "http".toList <+: path.toList then path else c.baseUrl ++ path := by
  rw [buildUrl]
  exact if_congr List.isPrefixOf_iff_prefix rfl rfl

variable {c codec replies} {url url' : String} {urls : List String} {page page' : Page α}

theorem pageAt_eq_ok_iff : c.pageAt codec replies url = .ok page ↔ c.Serves codec replies url page := by
  cases there : c.target? url with
  | none => simp [pageAt, answered, Serves, there]
  | some u => simp [pageAt, answered, Serves, there, readPage_eq_ok_iff]

theorem follows_iff : c.Follows codec replies url url' ↔ ∃ page next,
    c.pageAt codec replies url = .ok page ∧ page.next = some next ∧ url' = c.buildUrl next := by
  simp only [Follows, pageAt_eq_ok_iff, buildUrl_eq]

/-- Where a page names none, none follows. -/
theorem not_follows_of_next (read : c.pageAt codec replies url = .ok page)
    (last : page.next = none) : ¬ c.Follows codec replies url url' := by
  rintro follows
  obtain ⟨page', next, read', names, -⟩ := follows_iff.1 follows
  cases read.symm.trans read'
  cases last.symm.trans names

theorem not_follows_of_error {f : Fault} (refused : c.pageAt codec replies url = .error f) :
    ¬ c.Follows codec replies url url' := by
  intro follows
  obtain ⟨page, next, read, -⟩ := follows_iff.1 follows
  cases refused.symm.trans read

theorem Follows.unique {v v' : String} (follows : c.Follows codec replies url v)
    (follows' : c.Follows codec replies url v') : v = v' := by
  obtain ⟨page, next, read, names, rfl⟩ := follows_iff.1 follows
  obtain ⟨page', next', read', names', rfl⟩ := follows_iff.1 follows'
  cases read.symm.trans read'
  cases names.symm.trans names'
  rfl

/-- Two texts for one address are followed by the same. -/
theorem Follows.congr {v : String} (same : c.target? url = c.target? url')
    (follows : c.Follows codec replies url v) : c.Follows codec replies url' v := by
  obtain ⟨page, next, ⟨u, there, good⟩, names⟩ := follows
  exact ⟨page, next, ⟨u, same ▸ there, good⟩, names⟩

namespace Chain

theorem exists_cons (chain : c.Chain codec replies url urls) : ∃ rest, urls = url :: rest := by
  cases chain with
  | last _ => exact ⟨[], rfl⟩
  | cons _ _ => exact ⟨_, rfl⟩

theorem tail (chain : c.Chain codec replies url (url :: urls))
    (follows : c.Follows codec replies url url') : c.Chain codec replies url' urls := by
  cases chain with
  | last ends => exact (ends url' follows).elim
  | cons first rest => exact first.unique follows ▸ rest

theorem unique {urls' : List String} (chain : c.Chain codec replies url urls)
    (chain' : c.Chain codec replies url urls') : urls = urls' := by
  induction chain generalizing urls' with
  | last ends =>
      cases chain' with
      | last _ => rfl
      | cons follows _ => exact (ends _ follows).elim
  | cons follows _ ih =>
      obtain ⟨rest, rfl⟩ := chain'.exists_cons
      rw [ih (chain'.tail follows)]

/-- From each address of a chain on, the rest is a chain. -/
theorem exists_of_mem (chain : c.Chain codec replies url urls) (member : url' ∈ urls) :
    ∃ rest, c.Chain codec replies url' rest ∧ rest.length ≤ urls.length := by
  induction chain with
  | last ends =>
      obtain rfl := List.mem_singleton.1 member
      exact ⟨_, .last ends, Nat.le_refl _⟩
  | cons follows chain ih =>
      obtain rfl | later := List.mem_cons.1 member
      · exact ⟨_, .cons follows chain, Nat.le_refl _⟩
      · obtain ⟨rest, onward, short⟩ := ih later
        exact ⟨rest, onward, Nat.le_succ_of_le short⟩

/-- **No address of a chain is asked for twice.** -/
theorem nodup_targets (chain : c.Chain codec replies url urls) :
    (urls.filterMap c.target?).Nodup := by
  induction chain with
  | @last url ends =>
      cases there : c.target? url <;> simp [there]
  | @cons url url' urls follows chain ih =>
      obtain ⟨page, next, ⟨u, there, good⟩, names⟩ := id follows
      rw [List.filterMap_cons_some there]
      refine List.nodup_cons.2 ⟨fun back => ?_, ih⟩
      -- What is followed by the rest of the chain cannot be in it.
      obtain ⟨v, member, again⟩ := List.mem_filterMap.1 back
      obtain ⟨rest, onward, short⟩ := chain.exists_of_mem member
      obtain ⟨later, rfl⟩ := onward.exists_cons
      have tail := onward.tail (follows.congr (there.trans again.symm))
      rw [← chain.unique tail, List.length_cons] at short
      omega

end Chain

/-! ## Fetching -/

variable (c codec replies) in
/-- The records of the pages at these addresses, or the first fault. -/
def gathered : List String → Except Fault (List α)
  | [] => .ok []
  | url :: urls =>
    match c.pageAt codec replies url with
    | .error f => .error f
    | .ok page => (gathered urls).map (page.results ++ ·)

theorem gathered_cons (read : c.pageAt codec replies url = .ok page) (urls : List String) :
    c.gathered codec replies (url :: urls) =
      (c.gathered codec replies urls).map (page.results ++ ·) := by
  rw [gathered, read]

theorem gathered_of_error {f : Fault} (refused : c.pageAt codec replies url = .error f)
    (urls : List String) : c.gathered codec replies (url :: urls) = .error f := by
  rw [gathered, refused]

/-- Fetching goes along the chain, and ends where it ends. -/
theorem fetchPages_of_chain (chain : c.Chain codec replies url urls) {n : Nat}
    (enough : urls.length ≤ n) (found : List α) (s : Session Unit) :
    (c.fetchPages (.fixed replies) codec n url found).run s =
      (some ((c.gathered codec replies urls).map (found ++ ·)), c.visited urls s) := by
  induction chain generalizing n found s with
  | @last url ends =>
      obtain _ | n := n
      · simp at enough
      rw [fetchPages_succ]
      cases read : c.pageAt codec replies url with
      | error f => rw [gathered_of_error read, Except.map]
      | ok page =>
          have last : page.next = none := by
            cases names : page.next with
            | none => rfl
            | some next => exact (ends _ (follows_iff.2 ⟨page, next, read, names, rfl⟩)).elim
          rw [gathered_cons read, gathered]
          simp only [last, Except.map, List.append_nil]
  | @cons url url' urls follows chain ih =>
      obtain _ | n := n
      · simp at enough
      obtain ⟨page, next, read, names, rfl⟩ := follows_iff.1 follows
      rw [fetchPages_succ, gathered_cons read]
      simp only [read, names]
      rw [ih (Nat.le_of_succ_le_succ enough), visited_visited]
      cases c.gathered codec replies urls with
      | error f => rfl
      | ok records => simp only [Except.map, List.append_assoc, List.singleton_append]

/-- A listing that has ended has gone along a chain. -/
theorem exists_chain_of_fetchPages {n : Nat} {found : List α} {s : Session Unit}
    {result : Except Fault (List α)}
    (ended : ((c.fetchPages (.fixed replies) codec n url found).run s).1 = some result) :
    ∃ urls, c.Chain codec replies url urls ∧ urls.length ≤ n := by
  induction n generalizing url found s with
  | zero => cases ended
  | succ n ih =>
      rw [fetchPages_succ] at ended
      cases read : c.pageAt codec replies url with
      | error f => exact ⟨[url], .last fun _ => not_follows_of_error read, by simp⟩
      | ok page =>
          cases names : page.next with
          | none => exact ⟨[url], .last fun _ => not_follows_of_next read names, by simp⟩
          | some next =>
              simp only [read, names] at ended
              obtain ⟨urls, chain, short⟩ := ih ended
              have follows := follows_iff.2 ⟨page, next, read, names, rfl⟩
              exact ⟨url :: urls, .cons follows chain, Nat.succ_le_succ short⟩

/-- Either there is a page at every address of a chain, or at all but the last. -/
theorem Chain.gathered_cases (chain : c.Chain codec replies url urls) :
    (∃ pages, List.Forall₂ (c.Serves codec replies) urls pages ∧
      c.gathered codec replies urls = .ok (pages.flatMap (·.results))) ∨
    ∃ before last f, urls = before ++ [last] ∧
      (∀ url ∈ before, ∃ page, c.Serves codec replies url page) ∧
      c.pageAt codec replies last = .error f ∧ c.gathered codec replies urls = .error f := by
  induction chain with
  | @last url ends =>
      cases read : c.pageAt codec replies url with
      | error f => exact .inr ⟨[], url, f, rfl, by simp, read, gathered_of_error read _⟩
      | ok page =>
          refine .inl ⟨[page], .cons (pageAt_eq_ok_iff.1 read) .nil, ?_⟩
          rw [gathered_cons read, gathered, List.flatMap_singleton, Except.map, List.append_nil]
  | @cons url url' urls follows chain ih =>
      obtain ⟨page, next, read, names, rfl⟩ := follows_iff.1 follows
      rw [gathered_cons read]
      have served := pageAt_eq_ok_iff.1 read
      obtain ⟨pages, all, records⟩ | ⟨before, last, f, rfl, first, refused, fault⟩ := ih
      · refine .inl ⟨page :: pages, .cons served all, ?_⟩
        rw [records, List.flatMap_cons, Except.map]
      · refine .inr ⟨url :: before, last, f, rfl, ?_, refused, by rw [fault, Except.map]⟩
        rintro v member
        obtain rfl | later := List.mem_cons.1 member
        · exact ⟨page, served⟩
        · exact first v later

/-! ## A listing -/

variable (c codec replies)

/-- A server has these records from an address on, in whatever pages. -/
def Splits (url : String) (urls : List String) (records : List α) : Prop :=
  c.Chain codec replies url urls ∧
    ∃ pages, List.Forall₂ (c.Serves codec replies) urls pages ∧
      pages.flatMap (·.results) = records

/-- The last of these addresses has no page, and this is the fault of its reply. -/
def Fails (urls : List String) (f : Fault) : Prop :=
  ∃ before last u, urls = before ++ [last] ∧
    (∀ url ∈ before, ∃ page, c.Serves codec replies url page) ∧ c.target? last = some u ∧
    (replies u).IsBad codec ∧ (replies u).Reports f ∧ c.readPage codec last (replies u) = .error f

variable {c codec replies}

theorem gathered_of_pages {pages : List (Page α)}
    (served : List.Forall₂ (c.Serves codec replies) urls pages) :
    c.gathered codec replies urls = .ok (pages.flatMap (·.results)) := by
  induction served with
  | nil => rfl
  | cons read _ ih => rw [gathered_cons (pageAt_eq_ok_iff.2 read), ih, List.flatMap_cons, Except.map]

theorem fetchPages_of_splits {records : List α} (splits : c.Splits codec replies url urls records)
    {n : Nat} (enough : urls.length ≤ n) (s : Session Unit) :
    ((c.fetchPages (.fixed replies) codec n url []).run s).1 = some (.ok records) := by
  obtain ⟨chain, pages, served, rfl⟩ := splits
  rw [fetchPages_of_chain chain enough, gathered_of_pages served]
  rfl

theorem fails_of_pageAt {before : List String} {last : String} {f : Fault} {u : Url}
    (first : ∀ url ∈ before, ∃ page, c.Serves codec replies url page)
    (there : c.target? last = some u) (refused : c.pageAt codec replies last = .error f) :
    c.Fails codec replies (before ++ [last]) f := by
  rw [pageAt, answered, there] at refused
  obtain ⟨bad, reports⟩ := bad_of_readPage refused
  exact ⟨before, last, u, rfl, first, there, bad, reports, refused⟩

/-- The path of a listing is no address, so it goes after the base address. -/
theorem buildUrl_listingPath (c : Client) (endpoint : String) (q : Query) :
    c.buildUrl (listingPath endpoint q) = c.baseUrl ++ listingPath endpoint q := by
  rw [buildUrl_eq, if_neg]
  rintro ⟨rest, same⟩
  simp [listingPath] at same

theorem filterMap_targets {targets : List Url} (sent : urls.map c.target? = targets.map some) :
    urls.filterMap c.target? = targets := by
  have same : (urls.map c.target?).filterMap id = (targets.map some).filterMap id :=
    congrArg (List.filterMap id) sent
  simpa [List.filterMap_map] using same

/-- **A listing asks for the addresses of its chain**, each once and in order, and for nothing
after them. It gives the records of all pages in order, or the fault of the last address if that
has no page; and it gives the same whatever pages the records are split into. -/
theorem list_along_chain (c : Client) (codec : Codec α) (replies : Url → Reply) (endpoint : String)
    (q : Query) {urls : List String}
    (chain : c.Chain codec replies (c.baseUrl ++ listingPath endpoint q) urls) {targets : List Url}
    (sent : urls.map c.target? = targets.map some) {n : Nat} (enough : urls.length ≤ n)
    (s : Session Unit) :
    let first := c.baseUrl ++ listingPath endpoint q
    let ran := (c.list (.fixed replies) n endpoint q codec).run s
    ran.2.answered = s.answered ++ targets.map c.pageRequest ∧ targets.Nodup ∧
      ((∃ records, c.Splits codec replies first urls records ∧ ran.1 = some (.ok records)) ∨
        ∃ f, c.Fails codec replies urls f ∧ ran.1 = some (.error f)) ∧
      ∀ replies' urls' records n' s', c.Splits codec replies first urls records →
        c.Splits codec replies' first urls' records → urls'.length ≤ n' →
        ((c.list (.fixed replies') n' endpoint q codec).run s').1 = ran.1 := by
  intro first ran
  have same : ran = (some ((c.gathered codec replies urls).map ([] ++ ·)), c.visited urls s) := by
    simp only [ran, list, buildUrl_listingPath]
    exact fetchPages_of_chain chain enough [] s
  have targets_eq := filterMap_targets sent
  refine ⟨?_, targets_eq ▸ chain.nodup_targets, ?_, ?_⟩
  · rw [same, visited, targets_eq]
  · rw [same]
    obtain ⟨pages, served, records⟩ | ⟨before, last, f, rfl, served, refused, fault⟩ :=
      chain.gathered_cases
    · exact .inl ⟨_, ⟨chain, pages, served, rfl⟩, by rw [records]; rfl⟩
    · have listed : c.target? last ∈ targets.map some :=
        sent ▸ List.mem_map_of_mem (List.mem_append_right before List.mem_cons_self)
      obtain ⟨u, -, there⟩ := List.mem_map.1 listed
      exact .inr ⟨f, fails_of_pageAt served there.symm refused, by rw [fault]; rfl⟩
  · intro replies' urls' records n' s' splits splits' enough'
    simp only [ran, list, buildUrl_listingPath]
    rw [fetchPages_of_splits splits enough, fetchPages_of_splits splits' enough']

/-! ## Two pages -/

def sampleClient : Client := .new "http://n" "t"

/-- A server with these texts at these addresses, and nothing elsewhere. -/
def site (rows : List (Url × String)) (u : Url) : Reply :=
  match rows.lookup u with
  | some body => ⟨⟨200⟩, body.toList.flatMap String.utf8EncodeChar⟩
  | none => ⟨⟨404⟩, []⟩

/-- A platform as text. -/
def platformText (id : String) : String :=
  "\x7b\"id\":" ++ id ++ ",\"url\":\"\",\"display\":\"\",\"name\":\"a\",\"slug\":\"\"\x7d"

/-- Where platforms of one name are listed, and a second page. -/
def pageUrls : List Url :=
  [⟨"http", "n", none, "/api/dcim/platforms/", some "name=a", none⟩,
    ⟨"http", "n", none, "/p", none, none⟩]

/-- Two platforms, one on each of two pages. -/
def twoPages : Url → Reply :=
  site (pageUrls.zip
    ["\x7b\"count\":2,\"next\":\"/p\",\"results\":[" ++ platformText "7" ++ "]\x7d",
      "\x7b\"count\":2,\"results\":[" ++ platformText "8" ++ "]\x7d"])

/-- The same two on one page. -/
def onePage : Url → Reply :=
  site (pageUrls.zip
    ["\x7b\"count\":2,\"results\":[" ++ platformText "7" ++ "," ++ platformText "8" ++ "]\x7d"])

def platforms : List CatalogEntry := [⟨7, "", "", "a", ""⟩, ⟨8, "", "", "a", ""⟩]

theorem pageAt_of_toOption (read : (c.pageAt codec replies url).toOption = some page) :
    c.pageAt codec replies url = .ok page := by
  cases result : c.pageAt codec replies url with
  | error f =>
      rw [result] at read
      cases read
  | ok page' =>
      rw [result] at read
      exact congrArg Except.ok (Option.some.inj read)

/-- A page that names none is a chain of its own. -/
theorem Chain.single (read : c.pageAt codec replies url = .ok page) (last : page.next = none) :
    c.Chain codec replies url [url] :=
  .last fun _ => not_follows_of_next read last

theorem twoPages_splits :
    sampleClient.Splits CatalogEntry.codec twoPages "http://n/api/dcim/platforms/?name=a"
      ["http://n/api/dcim/platforms/?name=a", "http://n/p"] platforms := by
  have one : sampleClient.pageAt CatalogEntry.codec twoPages
      "http://n/api/dcim/platforms/?name=a" =
        .ok ⟨2, some "/p", none, [⟨7, "", "", "a", ""⟩]⟩ :=
    pageAt_of_toOption (by decide +kernel)
  have two : sampleClient.pageAt CatalogEntry.codec twoPages "http://n/p" =
      .ok ⟨2, none, none, [⟨8, "", "", "a", ""⟩]⟩ :=
    pageAt_of_toOption (by decide +kernel)
  exact ⟨.cons (follows_iff.2 ⟨_, _, one, rfl, rfl⟩) (.single two rfl),
    _, .cons (pageAt_eq_ok_iff.1 one) (.cons (pageAt_eq_ok_iff.1 two) .nil), rfl⟩

theorem onePage_splits :
    sampleClient.Splits CatalogEntry.codec onePage "http://n/api/dcim/platforms/?name=a"
      ["http://n/api/dcim/platforms/?name=a"] platforms := by
  have both : sampleClient.pageAt CatalogEntry.codec onePage
      "http://n/api/dcim/platforms/?name=a" = .ok ⟨2, none, none, platforms⟩ :=
    pageAt_of_toOption (by decide +kernel)
  exact ⟨.single both rfl, _, .cons (pageAt_eq_ok_iff.1 both) .nil, rfl⟩

/-- A listing of these platforms, and what is left of the session. -/
def listingOf (replies : Url → Reply) (pages : Nat) :
    Option (Except Fault (List CatalogEntry)) × Session Unit :=
  (sampleClient.list (.fixed replies) pages "dcim/platforms" ⟨[("name", "a")]⟩
    CatalogEntry.codec).run (.start ())

/-- From two pages both platforms are listed, with one request for each page; and from one page
that holds both, the listing is the same. -/
theorem list_along_chain_two_pages :
    let first := "http://n/api/dcim/platforms/?name=a"
    let urls := [first, "http://n/p"]
    sampleClient.Chain CatalogEntry.codec twoPages first urls ∧
      urls.map sampleClient.target? = pageUrls.map some ∧
      sampleClient.Splits CatalogEntry.codec twoPages first urls platforms ∧
      sampleClient.Splits CatalogEntry.codec onePage first [first] platforms ∧
      (listingOf twoPages 2).2.answered.map (·.url) = pageUrls ∧
      (listingOf twoPages 2).1 = some (.ok platforms) ∧
      (listingOf onePage 1).1 = (listingOf twoPages 2).1 := by
  intro first urls
  have path : sampleClient.baseUrl ++ listingPath "dcim/platforms" ⟨[("name", "a")]⟩ = first := by
    decide +kernel
  have sent : urls.map sampleClient.target? = pageUrls.map some := by decide +kernel
  have both : (listingOf twoPages 2).1 = some (.ok platforms) := by
    simp only [listingOf, list, buildUrl_listingPath, path]
    exact fetchPages_of_splits twoPages_splits (Nat.le_refl 2) (.start ())
  have listed := list_along_chain sampleClient CatalogEntry.codec twoPages "dcim/platforms"
    ⟨[("name", "a")]⟩ (path ▸ twoPages_splits.1) sent (Nat.le_refl 2) (.start ())
  rw [path] at listed
  obtain ⟨asked, -, -, same⟩ := listed
  refine ⟨twoPages_splits.1, sent, twoPages_splits, onePage_splits, ?_, both,
    same onePage [first] platforms 1 (.start ()) twoPages_splits onePage_splits (Nat.le_refl 1)⟩
  rw [listingOf, asked]
  rfl

end Client

end InventorySync.Http
