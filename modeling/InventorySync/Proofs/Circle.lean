/-
# Proofs.Circle — a listing ends unless its pages lead into a circle

Nothing in a listing counts its pages, so whether it ends is up to the addresses that the pages
name. On a server with pages at finitely many addresses there are two cases. Either the addresses
from the first one on are a chain, and then the listing ends after a request for each of them; or
they never end, and then one that was asked for comes back (`exists_circle`) and the listing asks
for the same pages over and over. `Circles` says so without a word about requests, and
`listing_ends_iff` that it decides. Texts that differ in their fragments only lead to one address,
since no request carries a fragment.

A page that names itself is the smallest circle (`circle_never_ends`).
-/
import InventorySync.Proofs.Pages
import Mathlib.Data.Fintype.Pigeonhole
import Mathlib.Logic.Relation
import Mathlib.Order.WellFounded

namespace InventorySync.Http.Client

set_option autoImplicit false

open Json (Codec)

variable {α : Type} {c : Client} {codec : Codec α} {replies : Url → Reply} {known : List Url}
  {url url' : String} {urls : List String}

/-- At every address but these, the server has nothing. It is never asked for a fragment, so only
the addresses without one count. -/
def HasOnly (replies : Url → Reply) (known : List Url) : Prop :=
  ∀ u : Url, u.fragment = none → u ∉ known → (replies u).status.isSuccess = false

variable (c codec replies) in
/-- The pages from an address on lead to one from which they lead back to it. -/
def Circles (url : String) : Prop :=
  ∃ v, Relation.ReflTransGen (c.Follows codec replies) url v ∧
    Relation.TransGen (c.Follows codec replies) v v

/-! ## A chain leads into no circle -/

theorem Chain.exists_of_transGen (leads : Relation.TransGen (c.Follows codec replies) url url')
    (chain : c.Chain codec replies url urls) :
    ∃ rest, c.Chain codec replies url' rest ∧ rest.length < urls.length := by
  have step : ∀ {url url' urls}, c.Follows codec replies url url' →
      c.Chain codec replies url urls →
      ∃ rest, c.Chain codec replies url' rest ∧ rest.length < urls.length := by
    intro url url' urls follows chain
    obtain ⟨rest, rfl⟩ := chain.exists_cons
    exact ⟨rest, chain.tail follows, Nat.lt_succ_self _⟩
  induction leads with
  | single follows => exact step follows chain
  | tail _ follows ih =>
      obtain ⟨rest, further, shorter⟩ := ih
      obtain ⟨last, final, shortest⟩ := step follows further
      exact ⟨last, final, Nat.lt_trans shortest shorter⟩

theorem Chain.not_circles (chain : c.Chain codec replies url urls) :
    ¬ c.Circles codec replies url := by
  rintro ⟨v, leads, back⟩
  obtain ⟨rest, onward⟩ : ∃ rest, c.Chain codec replies v rest := by
    obtain rfl | leads := Relation.reflTransGen_iff_eq_or_transGen.1 leads
    · exact ⟨urls, chain⟩
    · obtain ⟨rest, onward, -⟩ := chain.exists_of_transGen leads
      exact ⟨rest, onward⟩
  obtain ⟨again, from', shorter⟩ := onward.exists_of_transGen back
  rw [onward.unique from'] at shorter
  exact Nat.lt_irrefl _ shorter

/-! ## What is no chain leads into one -/

theorem exists_chain_of_acc (ends : Acc (fun v u => c.Follows codec replies u v) url) :
    ∃ urls, c.Chain codec replies url urls := by
  induction ends with
  | intro url _ ih =>
      by_cases more : ∃ v, c.Follows codec replies url v
      · obtain ⟨v, follows⟩ := more
        obtain ⟨urls, chain⟩ := ih v follows
        exact ⟨url :: urls, .cons follows chain⟩
      · exact ⟨[url], .last (not_exists.1 more)⟩

theorem Follows.exists_known (only : HasOnly replies known)
    (follows : c.Follows codec replies url url') : ∃ u ∈ known, c.target? url = some u := by
  obtain ⟨page, next, ⟨u, there, success, -⟩, -⟩ := follows
  refine ⟨u, ?_, there⟩
  by_contra unknown
  rw [only u (fragment_target there) unknown] at success
  cases success

/-- Addresses that follow each other for ever lead from one to the next. -/
theorem transGen_of_lt {place : Nat → String} (on : ∀ n, c.Follows codec replies (place n) (place (n + 1)))
    {i j : Nat} (lt : i < j) : Relation.TransGen (c.Follows codec replies) (place i) (place j) := by
  induction j, lt using Nat.le_induction with
  | base => exact .single (on i)
  | succ j _ ih => exact ih.tail (on j)

/-- Of endlessly many addresses with a page, two are the same, and so are those after them. -/
theorem exists_circle (only : HasOnly replies known) {place : Nat → String}
    (on : ∀ n, c.Follows codec replies (place n) (place (n + 1))) : c.Circles codec replies (place 0) := by
  choose target listed there using fun n => (on n).exists_known only
  obtain ⟨i, j, ne, same⟩ := Finite.exists_ne_map_eq_of_infinite
    fun n => (⟨target n, listed n⟩ : {u // u ∈ known})
  wlog lt : i < j generalizing i j
  · exact this j i ne.symm same.symm (by omega)
  have same : c.target? (place i) = c.target? (place j) := by
    rw [there, there, Subtype.mk.inj same]
  have meets : place (i + 1) = place (j + 1) := ((on i).congr same).unique (on j)
  refine ⟨place (i + 1), (transGen_of_lt on i.succ_pos).to_reflTransGen, ?_⟩
  have leads := transGen_of_lt on (Nat.succ_lt_succ lt)
  rwa [← meets] at leads

theorem exists_chain_iff (only : HasOnly replies known) :
    (∃ urls, c.Chain codec replies url urls) ↔ ¬ c.Circles codec replies url := by
  constructor
  · rintro ⟨urls, chain⟩
    exact chain.not_circles
  · intro straight
    refine exists_chain_of_acc ?_
    by_contra endless
    obtain ⟨place, rfl, on⟩ := not_acc_iff_exists_descending_chain.1 endless
    exact straight (exists_circle only on)

/-! ## Requests -/

/-- Every address of a chain but the last is followed by one. -/
theorem Chain.exists_append (chain : c.Chain codec replies url urls) :
    ∃ before last, urls = before ++ [last] ∧
      ∀ v ∈ before, ∃ v', c.Follows codec replies v v' := by
  induction chain with
  | @last url _ => exact ⟨[], url, rfl, by simp⟩
  | @cons url url' _ follows _ ih =>
      obtain ⟨before, last, rfl, followed⟩ := ih
      exact ⟨url :: before, last, rfl, List.forall_mem_cons.2 ⟨⟨url', follows⟩, followed⟩⟩

theorem Chain.length_targets_le (only : HasOnly replies known)
    (chain : c.Chain codec replies url urls) :
    (urls.filterMap c.target?).length ≤ known.length + 1 := by
  have distinct := chain.nodup_targets
  obtain ⟨before, last, rfl, followed⟩ := chain.exists_append
  rw [List.filterMap_append] at distinct ⊢
  have listed : before.filterMap c.target? ⊆ known := by
    intro u member
    obtain ⟨v, earlier, there⟩ := List.mem_filterMap.1 member
    obtain ⟨v', follows⟩ := followed v earlier
    obtain ⟨u', listed, there'⟩ := follows.exists_known only
    exact Option.some.inj (there.symm.trans there') ▸ listed
  have few := (List.subperm_of_subset distinct.of_append_left listed).length_le
  have one : ([last].filterMap c.target?).length ≤ 1 := List.length_filterMap_le c.target? [last]
  rw [List.length_append]
  omega

/-- A listing that has not ended has made a request for each of its pages. -/
theorem length_answered_of_none {n : Nat} {found : List α} {s : Session Unit}
    (more : ((c.fetchPages (.fixed replies) codec n url found).run s).1 = none) :
    ((c.fetchPages (.fixed replies) codec n url found).run s).2.answered.length =
      s.answered.length + n := by
  induction n generalizing url found s with
  | zero => rfl
  | succ n ih =>
      rw [fetchPages_succ] at more ⊢
      cases read : c.pageAt codec replies url with
      | error f =>
          rw [read] at more
          cases more
      | ok page =>
          obtain ⟨u, there, -⟩ := pageAt_eq_ok_iff.1 read
          cases names : page.next with
          | none =>
              simp only [read, names] at more
              cases more
          | some next =>
              simp only [read, names] at more ⊢
              rw [ih more, visited, List.filterMap_cons_some there]
              simp only [List.filterMap_nil, List.map_cons, List.map_nil, List.length_append,
                List.length_singleton]
              omega

/-- **A listing ends unless its pages lead into a circle**, on every server that has something at
finitely many addresses. If it ends it has asked for no address twice; if it does not it goes on
asking, whatever the number of its pages. -/
theorem listing_ends_iff (only : HasOnly replies known) (c : Client) (codec : Codec α)
    (url : String) (s : Session Unit) :
    let ran (n : Nat) := (c.fetchPages (.fixed replies) codec n url []).run s
    ((∃ n result, (ran n).1 = some result) ↔ ¬ c.Circles codec replies url) ∧
      (∀ n result, (ran n).1 = some result → ∃ made, (ran n).2.answered = s.answered ++ made ∧
        (made.map (·.url)).Nodup ∧ made.length ≤ known.length + 1) ∧
      ∀ n, (ran n).1 = none → (ran n).2.answered.length = s.answered.length + n := by
  intro ran
  refine ⟨?_, fun n result ended => ?_, fun n => length_answered_of_none⟩
  · rw [← exists_chain_iff only]
    constructor
    · rintro ⟨n, result, ended⟩
      obtain ⟨urls, chain, -⟩ := exists_chain_of_fetchPages ended
      exact ⟨urls, chain⟩
    · rintro ⟨urls, chain⟩
      exact ⟨urls.length, _, congrArg Prod.fst (fetchPages_of_chain chain (Nat.le_refl _) [] s)⟩
  · obtain ⟨urls, chain, enough⟩ := exists_chain_of_fetchPages ended
    have requests : (((urls.filterMap c.target?).map c.pageRequest).map (·.url)) =
        urls.filterMap c.target? := by
      rw [List.map_map]
      exact List.map_id _
    refine ⟨(urls.filterMap c.target?).map c.pageRequest, ?_, ?_, ?_⟩
    · simp only [ran, fetchPages_of_chain chain enough, visited]
    · rw [requests]
      exact chain.nodup_targets
    · rw [List.length_map]
      exact chain.length_targets_le only

/-! ## Servers with a few texts -/

theorem site_hasOnly (rows : List (Url × String)) : HasOnly (site rows) (rows.map (·.1)) := by
  intro u _ absent
  have nothing : rows.lookup u = none := by
    refine List.lookup_eq_none_iff.2 fun row member => ?_
    have ne : u ≠ row.1 := fun same => absent (same ▸ List.mem_map_of_mem member)
    exact bne_iff_ne.2 ne
  simp [site, nothing, Status.isSuccess]

theorem listing_ends_two_pages :
    HasOnly twoPages pageUrls ∧
      ¬ sampleClient.Circles CatalogEntry.codec twoPages "http://n/api/dcim/platforms/?name=a" := by
  have only : HasOnly twoPages pageUrls := site_hasOnly _
  have ends := listing_ends_iff only sampleClient CatalogEntry.codec
    "http://n/api/dcim/platforms/?name=a" (.start ())
  exact ⟨only, ends.1.1 ⟨2, _, fetchPages_of_splits twoPages_splits (Nat.le_refl 2) (.start ())⟩⟩

/-- A server with one page, which names itself. -/
def ring : Url → Reply :=
  site [(⟨"http", "n", none, "/p", none, none⟩,
    "\x7b\"count\":0,\"next\":\"/p\",\"results\":[]\x7d")]

/-- A server has one page and nothing else, and a listing that begins there never ends: with any
number of pages it has asked for that page as often, and has no result. -/
theorem circle_never_ends :
    HasOnly ring [⟨"http", "n", none, "/p", none, none⟩] ∧ ∀ n,
      let ran := (sampleClient.fetchPages (.fixed ring) CatalogEntry.codec n "http://n/p" []).run
        (.start ())
      ran.1 = none ∧ ran.2.answered.length = n := by
  have itself : sampleClient.pageAt CatalogEntry.codec ring "http://n/p" =
      .ok ⟨0, some "/p", none, []⟩ := pageAt_of_toOption (by decide +kernel)
  have follows := follows_iff.2 ⟨_, _, itself, rfl, rfl⟩
  refine ⟨site_hasOnly _, fun n => ?_⟩
  intro ran
  have endless : ran.1 = none := by
    by_contra ended
    obtain ⟨result, ended⟩ := Option.ne_none_iff_exists'.1 ended
    obtain ⟨urls, chain, -⟩ := exists_chain_of_fetchPages ended
    exact chain.not_circles ⟨_, .refl, .single follows⟩
  exact ⟨endless, (length_answered_of_none endless).trans (Nat.zero_add n)⟩

end InventorySync.Http.Client
