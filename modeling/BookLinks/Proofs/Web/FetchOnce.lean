import BookLinks.Proofs.Run.Accounting
/-!
# Each target is fetched at most once

A web check sends requests only when it fetches its URL: when the URL is not excluded, web
links are followed, its scheme is HTTP, and it has a normal form for which the cache holds no
fresh entry at the session's clock. A fetch sends the tries of one request for the URL, at least
one and at most one more than the retries. Everything else a check does, building headers,
warning, reading and storing the cache, sends nothing.

A check of a book runs one such check for each web group, in order, each from the session the
ones before it left, and the URLs of the groups have distinct normal forms. So within one run no
normal form is fetched twice, and across runs that share a session a normal form is fetched
again only once its entry has gone stale.
-/

namespace BookLinks.Web

/-! ### Running checks -/

theorem run_get_bind {α : Type} (f : Session → CheckM α) (s : Session) :
    ((get >>= f : CheckM α).run.run s) = ((f s).run.run s) := rfl

theorem run_modify_bind {α : Type} (g : Session → Session) (f : PUnit → CheckM α) (s : Session) :
    ((modify g >>= f : CheckM α).run.run s) = ((f ⟨⟩).run.run (g s)) := rfl

theorem run_set_bind {α : Type} (t : Session) (f : PUnit → CheckM α) (s : Session) :
    ((set t >>= f : CheckM α).run.run s) = ((f ⟨⟩).run.run t) := rfl

theorem run_bind {α β : Type} (x : CheckM α) (f : α → CheckM β) (s : Session) :
    ((x >>= f).run.run s) = match (x.run.run s) with
      | (.ok a, s') => (f a).run.run s'
      | (.error e, s') => (.error e, s') := by
  simp [ExceptT.run_bind]
  rcases x.run.run s with ⟨_ | _, _⟩ <;> rfl

/-! ### Computations that send nothing -/

/-- A computation that succeeds from every session and sends no request. -/
def Quiet {α : Type} (m : CheckM α) : Prop :=
  ∀ s, ∃ a s', m.run.run s = (.ok a, s') ∧ s'.requests = s.requests

namespace Quiet

variable {α β : Type}

theorem pure (a : α) : Quiet (Pure.pure a : CheckM α) :=
  fun s => ⟨a, s, rfl, rfl⟩

theorem modify {g : Session → Session} (hg : ∀ s, (g s).requests = s.requests) :
    Quiet (modify g : CheckM PUnit) :=
  fun s => ⟨⟨⟩, g s, rfl, hg s⟩

theorem bind {m : CheckM α} {f : α → CheckM β} (hm : Quiet m) (hf : ∀ a, Quiet (f a)) :
    Quiet (m >>= f) := by
  intro s
  obtain ⟨a, s₁, hrun, hreq⟩ := hm s
  obtain ⟨b, s₂, hrun', hreq'⟩ := hf a s₁
  refine ⟨b, s₂, ?_, hreq'.trans hreq⟩
  rw [run_bind, hrun]
  exact hrun'

theorem foldlM {f : β → α → CheckM β} (hf : ∀ b a, Quiet (f b a)) :
    ∀ (l : List α) (b : β), Quiet (l.foldlM f b)
  | [], b => pure b
  | a :: l, b => by
    rw [List.foldlM_cons]
    exact (hf b a).bind fun b' => foldlM hf l b'

end Quiet

theorem warn_quiet (message : String) : Quiet (warn message) :=
  Quiet.modify fun _ => rfl

/-! ### The cache -/

namespace OutcomeCache

/-- Whether the cache holds a fresh entry for a key at time `now`: its entry was stored less
than the timeout before. -/
def holdsFresh (c : OutcomeCache) (key : String) (now : Float) (timeout : Seconds) : Bool :=
  match c.entries.lookup key with
  | none => false
  | some e => !timeout.reachedBy (now - e.timestamp)

theorem lookup_isSome (c : OutcomeCache) (key : String) (now : Float) (timeout : Seconds) :
    (c.lookup key now timeout).1.isSome = c.holdsFresh key now timeout := by
  unfold lookup holdsFresh
  cases c.entries.lookup key with
  | none => rfl
  | some e => cases h : timeout.reachedBy (now - e.timestamp) <;> simp [h]

end OutcomeCache

namespace WebChecker

/-! ### What a check sends -/

theorem buildHeaders_quiet (w : WebChecker) (url : String) : Quiet (w.buildHeaders url) := by
  unfold buildHeaders
  refine Quiet.foldlM (fun hs h => ?_) _ _
  split
  · exact Quiet.pure _
  · exact (warn_quiet _).bind fun _ => Quiet.pure _

theorem send_requests (w : WebChecker) (r : FetchRequest) (s : Session) :
    ((w.send r).run.run s).2.requests = s.requests ++ [w.client.sent r] := by
  unfold send
  rw [run_get_bind]
  cases h : w.client.reply (s.script.next r.url).1 <;> simp [h] <;> rfl

theorem attemptFrom_requests (w : WebChecker) (r : FetchRequest) (last : Nat) :
    ∀ fuel attempt o s, ∃ k ≤ fuel, (0 < fuel → 0 < k) ∧
      ((w.attemptFrom r last fuel attempt o).run.run s).2.requests =
        s.requests ++ List.replicate k (w.client.sent r)
  | 0, _, _, s => ⟨0, Nat.le_refl _, fun h => h, by simp [attemptFrom]; rfl⟩
  | fuel + 1, attempt, o, s => by
    unfold attemptFrom
    rw [run_bind]
    have hsend := send_requests w r s
    rcases hs : (w.send r).run.run s with ⟨res, s₁⟩
    rw [hs] at hsend
    have hnow : ∀ {β : Type} (x : β),
        ((pure x : CheckM β).run.run s₁).2.requests = s.requests ++ [w.client.sent r] :=
      fun _ => hsend
    have hlater : ∀ g : Session → Session, (∀ t, (g t).requests = t.requests) →
        ∀ attempt' o', ∃ k ≤ fuel + 1, (0 < fuel + 1 → 0 < k) ∧
          ((modify g >>= fun _ => w.attemptFrom r last fuel attempt' o' : CheckM Outcome).run.run
            s₁).2.requests = s.requests ++ List.replicate k (w.client.sent r) := by
      intro g hg attempt' o'
      obtain ⟨k, hk, -, hreq⟩ := attemptFrom_requests w r last fuel attempt' o' (g s₁)
      refine ⟨k + 1, by omega, fun _ => by omega, ?_⟩
      rw [run_modify_bind, hreq, hg, hsend, List.replicate_succ, List.append_assoc]
      rfl
    cases res with
    | error e => exact ⟨1, by omega, fun _ => by omega, hsend⟩
    | ok reply =>
      cases reply with
      | status code =>
        dsimp only
        split
        · exact ⟨1, by omega, fun _ => by omega, hnow _⟩
        simp only [pure_bind]
        split
        · exact ⟨1, by omega, fun _ => by omega, hnow _⟩
        · apply hlater; exact fun _ => rfl
      | transportFailure m =>
        simp only [pure_bind]
        split
        · exact ⟨1, by omega, fun _ => by omega, hnow _⟩
        · apply hlater; exact fun _ => rfl
      | fault f => exact ⟨1, by omega, fun _ => by omega, hsend⟩

theorem fetch_requests (w : WebChecker) (url : String) (s : Session) :
    ∃ headers k, 0 < k ∧ k ≤ w.settings.maxRetries + 1 ∧
      ((w.fetch url).run.run s).2.requests = s.requests ++
        List.replicate k (w.client.sent ⟨url, headers, w.settings.requestTimeout, "GET"⟩) := by
  unfold fetch
  rw [run_bind]
  obtain ⟨headers, s₁, hrun, hreq⟩ := buildHeaders_quiet w url s
  rw [hrun]
  obtain ⟨k, hk, hpos, htries⟩ := attemptFrom_requests w ⟨url, headers, w.settings.requestTimeout, "GET"⟩
    (w.settings.maxRetries + 1) (w.settings.maxRetries + 1) 1
    (Outcome.error "transport failure: no attempt made") s₁
  exact ⟨headers, k, hpos (by omega), hk, by rw [← hreq]; exact htries⟩

theorem cached_requests (key : String) (timeout : Seconds) (compute : CheckM Outcome)
    (s : Session) :
    ((cached key timeout compute).run.run s).2.requests =
      if s.cache.holdsFresh key s.clock timeout then s.requests
      else (compute.run.run { s with cache := (s.cache.lookup key s.clock timeout).2 }).2.requests := by
  unfold cached
  rw [run_get_bind, ← OutcomeCache.lookup_isSome]
  rcases s.cache.lookup key s.clock timeout with ⟨found, cache⟩
  dsimp only
  rw [run_set_bind]
  cases found with
  | some e => rfl
  | none =>
    dsimp only
    rw [run_bind]
    rcases compute.run.run { s with cache } with ⟨_ | o, s₁⟩ <;> rfl

/-- Whether a check of a URL from a session goes to the web: the URL is not excluded, web links
are followed, its scheme is HTTP, and it has a normal form for which the cache holds no fresh
entry at the session's clock. -/
def fetches (w : WebChecker) (url : String) (s : Session) : Bool :=
  !w.settings.shouldSkip url && w.settings.followWebLinks && Link.isWebScheme url &&
    match Url.normalize url with
    | .ok key => !s.cache.holdsFresh key s.clock (.whole w.settings.cacheTimeout)
    | .error _ => false

/-- The tries of one fetch of a URL: the same request for it, at least once and at most once
more than the retries. -/
def IsFetch (w : WebChecker) (url : String) (rs : List FetchRequest) : Prop :=
  ∃ headers k, 0 < k ∧ k ≤ w.settings.maxRetries + 1 ∧
    rs = List.replicate k (w.client.sent ⟨url, headers, w.settings.requestTimeout, "GET"⟩)

theorem check_requests (w : WebChecker) (url : String) (s : Session) :
    ∃ rs, ((w.check url).run.run s).2.requests = s.requests ++ rs ∧
      if w.fetches url s then w.IsFetch url rs else rs = [] := by
  unfold check fetches
  cases hskip : w.settings.shouldSkip url
  case true => exact ⟨[], by rw [List.append_nil]; rfl, by simp⟩
  cases hfollow : w.settings.followWebLinks
  case false => exact ⟨[], by rw [List.append_nil]; rfl, by simp⟩
  cases hscheme : Link.isWebScheme url
  case false => exact ⟨[], by rw [List.append_nil]; rfl, by simp⟩
  cases hkey : Url.normalize url with
  | error e => exact ⟨[], by rw [List.append_nil]; rfl, by simp⟩
  | ok key =>
    simp only [Bool.not_true, Bool.not_false, Bool.false_eq_true, if_false, Bool.true_and, pure_bind]
    rw [run_bind]
    have hc := cached_requests key (.whole w.settings.cacheTimeout) (w.fetch url) s
    rcases hrun : (cached key (.whole w.settings.cacheTimeout) (w.fetch url)).run.run s
      with ⟨res, s₁⟩
    rw [hrun] at hc
    cases hfresh : s.cache.holdsFresh key s.clock (.whole w.settings.cacheTimeout)
    · obtain ⟨headers, k, hpos, hk, hfetch⟩ := fetch_requests w url
        { s with cache := (s.cache.lookup key s.clock (.whole w.settings.cacheTimeout)).2 }
      rw [hfresh, if_neg Bool.false_ne_true] at hc
      refine ⟨_, ?_, by simp only [Bool.not_false, if_true]; exact ⟨headers, k, hpos, hk, rfl⟩⟩
      cases res <;> exact hc.trans hfetch
    · rw [hfresh, if_pos rfl] at hc
      refine ⟨[], ?_, by simp⟩
      cases res <;> exact hc.trans (List.append_nil _).symm

/-- The requests a check of a URL sends from a session. -/
def sentBy (w : WebChecker) (url : String) (s : Session) : List FetchRequest :=
  ((w.check url).run.run s).2.requests.drop s.requests.length

theorem check_sentBy (w : WebChecker) (url : String) (s : Session) :
    ((w.check url).run.run s).2.requests = s.requests ++ w.sentBy url s ∧
      if w.fetches url s then w.IsFetch url (w.sentBy url s) else w.sentBy url s = [] := by
  obtain ⟨rs, hrs, hspec⟩ := check_requests w url s
  have hsent : w.sentBy url s = rs := by rw [sentBy, hrs, List.drop_left]
  rw [hsent]
  exact ⟨hrs, hspec⟩

/-- URLs checked one after another from a session, each with the session its check starts from:
the one the checks before it left. -/
def starts (w : WebChecker) : List String → Session → List (String × Session)
  | [], _ => []
  | url :: urls, s => (url, s) :: w.starts urls ((w.check url).run.run s).2

theorem map_fst_starts (w : WebChecker) :
    ∀ (urls : List String) (s : Session), (w.starts urls s).map (·.1) = urls
  | [], _ => rfl
  | url :: urls, _ => congrArg (url :: ·) (map_fst_starts w urls _)

end WebChecker

end BookLinks.Web

namespace BookLinks.BookCheck

open BookLinks.Book BookLinks.Report BookLinks.Web

/-! ### What a check of a book sends -/

theorem webVerdicts_requests (c : BookCheck) :
    ∀ (groups : List (String × String)) (s : Session),
      ((c.webVerdicts groups).run s).2.requests =
        s.requests ++ (c.web.starts (groups.map (·.2)) s).flatMap fun p => c.web.sentBy p.1 p.2
  | [], _ => (List.append_nil _).symm
  | g :: gs, s => by
    rw [webVerdicts_cons]
    dsimp only
    rw [webVerdicts_requests c gs, (c.web.check_sentBy g.2 s).1, List.map_cons,
      WebChecker.starts, List.flatMap_cons, List.append_assoc]

theorem normalize_of_mem_webGroups {c : BookCheck} {docs : List Document} {g : String × String}
    (hg : g ∈ c.webGroups docs) : Url.normalize g.2 = .ok g.1 := by
  have hmem := List.mem_of_find?_eq_some ((c.webGroups_first docs).2 g hg)
  obtain ⟨x, -, hx⟩ := List.mem_filterMap.1 hmem
  unfold webUrl at hx
  split at hx
  · rename_i url _
    cases hn : Url.normalize url with
    | error e => simp [hn, Except.toOption] at hx
    | ok key =>
      simp only [hn, Except.toOption, Option.map_some, Option.some.injEq] at hx
      rw [← hx]
      exact hn
  · cases hx

theorem checkLinks_requests_of_gather_ok {c : BookCheck} {docs : List Document} {g : Gathered}
    (hg : c.gather docs = .ok g) (s : Session) :
    ((c.checkLinks docs).run s).2.requests = ((c.checkWeb g).run s).2.requests := by
  unfold checkLinks
  rw [hg]
  rfl

/-- A check of a book that gives a report checks the URL of each web group once, in order, each
from the session the checks before it left. Each check sends nothing unless it fetches, and a
fetch is the tries of one request for its URL, made only when the URL passes the exclusions, web
links are followed, its scheme is HTTP and the cache holds no fresh entry for its normal form.
The URLs checked have distinct normal forms, so no normal form is fetched twice in one run. -/
theorem run_fetches_each_target_at_most_once (c : BookCheck) (docs : List Document)
    (s : Session) (r : Report) (h : ((c.run docs).run s).1 = .ok r) :
    ((c.run docs).run s).2.requests = s.requests ++
        (c.web.starts ((c.webGroups docs).map (·.2)) s).flatMap (fun p => c.web.sentBy p.1 p.2) ∧
      (∀ p ∈ c.web.starts ((c.webGroups docs).map (·.2)) s,
        if c.web.fetches p.1 p.2 then c.web.IsFetch p.1 (c.web.sentBy p.1 p.2)
        else c.web.sentBy p.1 p.2 = []) ∧
      ((c.web.starts ((c.webGroups docs).map (·.2)) s).map fun p => Url.normalize p.1).Nodup := by
  obtain ⟨g, hg, -⟩ := run_eq_ok h
  refine ⟨?_, fun p _ => (c.web.check_sentBy p.1 p.2).2, ?_⟩
  · simp only [run_of_prepare_ok (run_eq_ok_iff.1 h).1]
    rw [checkLinks_requests_of_gather_ok hg, (checkWeb_of_gather hg s).1, webVerdicts_requests]
  · -- the groups have distinct keys, and each URL normalises to its group's key
    have hmap : (c.web.starts ((c.webGroups docs).map (·.2)) s).map (fun p => Url.normalize p.1) =
        ((c.webGroups docs).map (·.1)).map (Except.ok : String → Except Url.UrlError String) := by
      rw [← Function.comp_def Url.normalize Prod.fst, ← List.map_map, WebChecker.map_fst_starts,
        List.map_map, List.map_map]
      exact List.map_congr_left fun g hg => normalize_of_mem_webGroups hg
    have hkeys := (c.webGroups_first docs).1
    rw [hmap, List.Nodup, List.pairwise_map]
    rw [List.Nodup] at hkeys
    exact hkeys.imp fun hne heq => hne (Except.ok.inj heq)

theorem run_fetches_page_targets_at_most_once :
    ∃ r, ((plainCheck.run [webPage]).run default).1 = .ok r ∧
      ((plainCheck.run [webPage]).run default).2.requests = (default : Session).requests ++
          (plainCheck.web.starts ((plainCheck.webGroups [webPage]).map (·.2)) default).flatMap
            (fun p => plainCheck.web.sentBy p.1 p.2) ∧
        (∀ p ∈ plainCheck.web.starts ((plainCheck.webGroups [webPage]).map (·.2)) default,
          if plainCheck.web.fetches p.1 p.2 then plainCheck.web.IsFetch p.1 (plainCheck.web.sentBy p.1 p.2)
          else plainCheck.web.sentBy p.1 p.2 = []) ∧
        ((plainCheck.web.starts ((plainCheck.webGroups [webPage]).map (·.2)) default).map
          fun p => Url.normalize p.1).Nodup := by
  obtain ⟨r, hr⟩ := run_webPage_ok
  exact ⟨r, hr, run_fetches_each_target_at_most_once _ _ _ r hr⟩

end BookLinks.BookCheck
