import BookLinks.Proofs.Web.FetchOnce
import BookLinks.Proofs.Web.Expiry
import BookLinks.Proofs.Link.Reserialise
import Mathlib
/-!
# Retries of a web check

A fetch sends one request for its URL again and again until a reply that is not worth asking
again, or until its attempts run out: one more than the retries. A status of 429 or of 500 and
above and a transport failure are asked again, each after a pause of the backoff times the
number of the attempt that failed. The last reply decides the outcome: a 2xx status is valid,
any other status or a transport failure is an error that names it, and a failure the client
does not handle stops the check.

The main statement follows a check of a URL that goes to the web, whatever the answers the
script holds for it: the request is sent exactly `min (retries + 1) j` times, `j` being the
number of the first reply not asked again, the pauses are the backoff times `1, 2, …`, and the
outcome of the last reply is stored under the URL's normal form, or nothing is stored when the
check stops.
-/
namespace BookLinks.Web

/-! ### The answers a script gives -/

namespace Script

/-- The answer to the request for a URL `i` requests from now, the next one being the `0`-th. -/
def answerAt (s : Script) (url : String) (i : Nat) : Response :=
  match s.answers.lookup url with
  | some (r :: rs) => ((r :: rs)[min ((s.served.lookup url).getD 0 + i) rs.length]?).getD r
  | _ => s.fallback

theorem next_fst (s : Script) (url : String) : (s.next url).1 = s.answerAt url 0 := rfl

theorem answerAt_next (s : Script) (url : String) (i : Nat) :
    (s.next url).2.answerAt url i = s.answerAt url (i + 1) := by
  simp only [answerAt, next, List.lookup_cons_self, Option.getD_some]
  rw [Nat.add_right_comm, Nat.add_assoc]

end Script

/-! ### Replies -/

namespace Reply

/-- Whether a check asks again after this reply: a status of 429 or of 500 and above, or a
transport failure. -/
def retried : Reply → Bool
  | .status code => WebChecker.retryable code
  | .transportFailure _ => true
  | .fault _ => false

/-- What a check gives when this is its last reply: valid for a 2xx status, an error that names
any other status or the transport failure, and a stop for a failure the client does not
handle. -/
def verdict : Reply → Except CheckFault Outcome
  | .status code =>
    if 200 ≤ code ∧ code < 300 then .ok Outcome.valid
    else .ok (Outcome.error ("HTTP status " ++ toString code))
  | .transportFailure m => .ok (Outcome.error ("transport failure: " ++ m))
  | .fault f => .error (.client f)

end Reply

namespace WebChecker

theorem retryable_of_success {code : Int} (h : 200 ≤ code ∧ code < 300) :
    retryable code = false := by
  unfold retryable
  simp only [Bool.or_eq_false_iff, beq_eq_false_iff_ne, decide_eq_false_iff_not]
  omega

/-- The reply a checker makes of the answer to the request for a URL `i` requests from now. -/
def replyAt (w : WebChecker) (s : Session) (url : String) (i : Nat) : Reply :=
  w.client.reply (s.script.answerAt url i)

/-- The session after a request is sent: the script moved on by one answer for its URL, and the
request recorded. -/
def afterSend (w : WebChecker) (r : FetchRequest) (s : Session) : Session :=
  { s with script := (s.script.next r.url).2, requests := s.requests ++ [w.client.sent r] }

def afterPause (d : Float) (s : Session) : Session := { s with sleeps := s.sleeps ++ [d] }

@[simp] theorem afterSend_requests (w : WebChecker) (r : FetchRequest) (s : Session) :
    (w.afterSend r s).requests = s.requests ++ [w.client.sent r] := rfl

@[simp] theorem afterSend_sleeps (w : WebChecker) (r : FetchRequest) (s : Session) :
    (w.afterSend r s).sleeps = s.sleeps := rfl

@[simp] theorem afterSend_cache (w : WebChecker) (r : FetchRequest) (s : Session) :
    (w.afterSend r s).cache = s.cache := rfl

@[simp] theorem afterSend_clock (w : WebChecker) (r : FetchRequest) (s : Session) :
    (w.afterSend r s).clock = s.clock := rfl

@[simp] theorem afterPause_requests (d : Float) (s : Session) :
    (afterPause d s).requests = s.requests := rfl

@[simp] theorem afterPause_sleeps (d : Float) (s : Session) :
    (afterPause d s).sleeps = s.sleeps ++ [d] := rfl

@[simp] theorem afterPause_cache (d : Float) (s : Session) : (afterPause d s).cache = s.cache := rfl

@[simp] theorem afterPause_clock (d : Float) (s : Session) : (afterPause d s).clock = s.clock := rfl

@[simp] theorem replyAt_afterSend (w : WebChecker) (r : FetchRequest) (s : Session) (i : Nat) :
    w.replyAt (w.afterSend r s) r.url i = w.replyAt s r.url (i + 1) := by
  simp only [replyAt, afterSend, Script.answerAt_next]

@[simp] theorem replyAt_afterPause (w : WebChecker) (d : Float) (s : Session) (url : String)
    (i : Nat) : w.replyAt (afterPause d s) url i = w.replyAt s url i := rfl

theorem send_run (w : WebChecker) (r : FetchRequest) (s : Session) :
    (w.send r).run.run s =
      ((match w.replyAt s r.url 0 with
        | .fault f => .error (.client f)
        | reply => .ok reply), w.afterSend r s) := by
  unfold send replyAt afterSend
  rw [run_get_bind, ← Script.next_fst]
  rcases s.script.next r.url with ⟨answer, script⟩
  dsimp only
  rw [run_set_bind]
  cases w.client.reply answer <;> rfl

/-! ### The attempts of a fetch -/

/-- How the attempts of a fetch, `fuel` of them left from attempt number `attempt` on, ran
from session `s` to the result `res` and session `t`, sending `k` requests: every reply but
the last was asked again, the last one was not unless the attempts ran out, it decides the
result, and a pause of the backoff times the attempt's number followed each reply asked again.
The cache and the clock are left as they were. -/
structure Tries (w : WebChecker) (r : FetchRequest) (fuel attempt : Nat) (s : Session)
    (res : Except CheckFault Outcome) (t : Session) (k : Nat) : Prop where
  pos : 0 < k
  le : k ≤ fuel
  retried : ∀ i, i + 1 < k → (w.replyAt s r.url i).retried
  stops : k < fuel → (w.replyAt s r.url (k - 1)).retried = false
  result : res = (w.replyAt s r.url (k - 1)).verdict
  requests : t.requests = s.requests ++ List.replicate k (w.client.sent r)
  sleeps : t.sleeps = s.sleeps ++
    (List.range' attempt (k - 1)).map fun n => w.settings.retryBackoff * Float.ofNat n
  cache : t.cache = s.cache
  clock : t.clock = s.clock

theorem Tries.single {w : WebChecker} {r : FetchRequest} {fuel attempt : Nat} {s : Session}
    (hfuel : 0 < fuel) (hstop : 1 < fuel → (w.replyAt s r.url 0).retried = false) :
    Tries w r fuel attempt s (w.replyAt s r.url 0).verdict (w.afterSend r s) 1 where
  pos := Nat.one_pos
  le := hfuel
  retried i hi := absurd hi (by omega)
  stops := hstop
  result := rfl
  requests := rfl
  sleeps := by simp
  cache := rfl
  clock := rfl

theorem Tries.retry {w : WebChecker} {r : FetchRequest} {fuel attempt : Nat} {s : Session}
    {res : Except CheckFault Outcome} {t : Session} {k : Nat}
    (hretry : (w.replyAt s r.url 0).retried)
    (hrest : Tries w r fuel (attempt + 1)
      (afterPause (w.settings.retryBackoff * Float.ofNat attempt) (w.afterSend r s)) res t k) :
    Tries w r (fuel + 1) attempt s res t (k + 1) := by
  have hnext : ∀ i, w.replyAt (afterPause (w.settings.retryBackoff * Float.ofNat attempt)
      (w.afterSend r s)) r.url i = w.replyAt s r.url (i + 1) := fun i => by
    simp
  obtain ⟨k', rfl⟩ : ∃ k', k = k' + 1 := ⟨k - 1, by have := hrest.pos; omega⟩
  refine ⟨Nat.succ_pos _, by have := hrest.le; omega, fun i hi => ?_, fun hk => ?_, ?_, ?_, ?_,
    hrest.cache, hrest.clock⟩
  · cases i with
    | zero => exact hretry
    | succ i => rw [← hnext]; exact hrest.retried i (by omega)
  · rw [Nat.add_sub_cancel, ← Nat.sub_add_cancel (Nat.le_refl k'), ← hnext]
    simpa using hrest.stops (by omega)
  · rw [hrest.result, hnext]
    rfl
  · simp [hrest.requests, List.replicate_succ]
  · simp [hrest.sleeps, List.range'_succ]

theorem attemptFrom_tries (w : WebChecker) (r : FetchRequest) (last : Nat) :
    ∀ fuel attempt o s, 0 < fuel → attempt + fuel = last + 1 →
      ∃ k, Tries w r fuel attempt s ((w.attemptFrom r last fuel attempt o).run.run s).1
        ((w.attemptFrom r last fuel attempt o).run.run s).2 k
  | fuel + 1, attempt, o, s, _, hlast => by
    unfold attemptFrom
    rw [run_bind, send_run]
    have hend : ∀ res, (w.replyAt s r.url 0).verdict = res →
        (0 < fuel → (w.replyAt s r.url 0).retried = false) →
        ∃ k, Tries w r (fuel + 1) attempt s res (w.afterSend r s) k := fun res hres hstop =>
      ⟨1, hres ▸ @Tries.single w r (fuel + 1) attempt s (Nat.succ_pos fuel)
        fun h => hstop (by omega)⟩
    have hmore : (w.replyAt s r.url 0).retried → 0 < fuel → ∀ o' t,
        t = afterPause (w.settings.retryBackoff * Float.ofNat attempt) (w.afterSend r s) →
        ∃ k, Tries w r (fuel + 1) attempt s ((w.attemptFrom r last fuel (attempt + 1) o').run.run t).1
          ((w.attemptFrom r last fuel (attempt + 1) o').run.run t).2 k := by
      rintro hretry hfuel o' t rfl
      obtain ⟨k, hk⟩ := attemptFrom_tries w r last fuel (attempt + 1) o' _ hfuel (by omega)
      exact ⟨k + 1, Tries.retry hretry hk⟩
    have hlastAttempt : (attempt == last) = (fuel == 0) := by
      rw [Bool.eq_iff_iff, beq_iff_eq, beq_iff_eq]
      omega
    cases hρ : w.replyAt s r.url 0 with
    | status code =>
      dsimp only
      split
      · next hok =>
        exact hend _ (by rw [hρ, Reply.verdict, if_pos hok]; rfl)
          fun _ => by rw [hρ]; exact retryable_of_success hok
      · next hok =>
        simp only [pure_bind, hlastAttempt]
        split
        · next hstop =>
          exact hend _ (by rw [hρ, Reply.verdict, if_neg hok]; rfl)
            fun hf => by simpa [hρ, Reply.retried, Nat.pos_iff_ne_zero.1 hf] using hstop
        · next hgo =>
          rw [run_modify_bind]
          simp only [Bool.or_eq_true, Bool.not_eq_true', beq_iff_eq, not_or] at hgo
          exact hmore (by rw [hρ]; exact Bool.of_not_eq_false hgo.1) (Nat.pos_of_ne_zero hgo.2) _ _ rfl
    | transportFailure m =>
      simp only [pure_bind, hlastAttempt]
      split
      · next hstop =>
        exact hend _ (by rw [hρ]; rfl) fun hf => by simp [Nat.pos_iff_ne_zero.1 hf] at hstop
      · next hgo =>
        rw [run_modify_bind]
        simp only [Bool.not_true, Bool.false_or, beq_iff_eq] at hgo
        exact hmore (by rw [hρ]; rfl) (Nat.pos_of_ne_zero hgo) _ _ rfl
    | fault f => exact hend _ (by rw [hρ]; rfl) fun _ => by rw [hρ]; rfl

theorem Tries.of_logs {w : WebChecker} {r : FetchRequest} {fuel attempt : Nat} {s : Session}
    {logs : List LogRecord} {res : Except CheckFault Outcome} {t : Session} {k : Nat}
    (h : Tries w r fuel attempt { s with logs } res t k) : Tries w r fuel attempt s res t k :=
  ⟨h.pos, h.le, h.retried, h.stops, h.result, h.requests, h.sleeps, h.cache, h.clock⟩

/-! ### Headers change only the log -/

/-- A computation that succeeds from every session and changes nothing but the log. -/
def OnlyLogs {α : Type} (m : CheckM α) : Prop :=
  ∀ s, ∃ a logs, m.run.run s = (.ok a, { s with logs })

namespace OnlyLogs

variable {α β : Type}

theorem pure (a : α) : OnlyLogs (Pure.pure a : CheckM α) :=
  fun s => ⟨a, s.logs, rfl⟩

theorem bind {m : CheckM α} {f : α → CheckM β} (hm : OnlyLogs m) (hf : ∀ a, OnlyLogs (f a)) :
    OnlyLogs (m >>= f) := by
  intro s
  obtain ⟨a, logs, hrun⟩ := hm s
  obtain ⟨b, logs', hrun'⟩ := hf a { s with logs }
  exact ⟨b, logs', by rw [run_bind, hrun]; exact hrun'⟩

theorem foldlM {f : β → α → CheckM β} (hf : ∀ b a, OnlyLogs (f b a)) :
    ∀ (l : List α) (b : β), OnlyLogs (l.foldlM f b)
  | [], b => pure b
  | a :: l, b => by
    rw [List.foldlM_cons]
    exact (hf b a).bind fun b' => foldlM hf l b'

end OnlyLogs

theorem warn_onlyLogs (message : String) : OnlyLogs (warn message) :=
  fun _ => ⟨⟨⟩, _, rfl⟩

theorem buildHeaders_onlyLogs (w : WebChecker) (url : String) : OnlyLogs (w.buildHeaders url) := by
  unfold buildHeaders
  refine OnlyLogs.foldlM (fun hs h => ?_) _ _
  split
  · exact OnlyLogs.pure _
  · exact (warn_onlyLogs _).bind fun _ => OnlyLogs.pure _

/-! ### A check that goes to the web -/

theorem fetch_tries (w : WebChecker) (url : String) (s : Session) :
    ∃ headers k, Tries w ⟨url, headers, w.settings.requestTimeout, "GET"⟩
      (w.settings.maxRetries + 1) 1 s ((w.fetch url).run.run s).1 ((w.fetch url).run.run s).2 k := by
  unfold fetch
  rw [run_bind]
  obtain ⟨headers, logs, hrun⟩ := buildHeaders_onlyLogs w url s
  rw [hrun]
  obtain ⟨k, hk⟩ := attemptFrom_tries w ⟨url, headers, w.settings.requestTimeout, "GET"⟩
    (w.settings.maxRetries + 1) (w.settings.maxRetries + 1) 1
    (Outcome.error "transport failure: no attempt made") { s with logs } (Nat.succ_pos _)
    (Nat.add_comm _ _)
  exact ⟨headers, k, hk.of_logs⟩

theorem cached_run_of_stale (key : String) (timeout : Seconds) (compute : CheckM Outcome)
    (s : Session) (h : s.cache.holdsFresh key s.clock timeout = false) :
    (cached key timeout compute).run.run s =
      match compute.run.run { s with cache := (s.cache.lookup key s.clock timeout).2 } with
      | (.ok o, t) => (.ok (o, false), { t with cache := (t.cache.store key o t.clock).2 })
      | (.error e, t) => (.error e, t) := by
  have hnone : (s.cache.lookup key s.clock timeout).1 = none := by
    rw [← Option.not_isSome_iff_eq_none, OutcomeCache.lookup_isSome, h]
    decide
  unfold cached
  rw [run_get_bind]
  rcases hl : s.cache.lookup key s.clock timeout with ⟨found, cache⟩
  rw [hl] at hnone
  cases hnone
  dsimp only
  rw [run_set_bind, run_bind]
  rcases compute.run.run { s with cache } with ⟨_ | o, t⟩ <;> rfl

theorem check_run_of_web {w : WebChecker} {url key : String} (s : Session)
    (hskip : w.settings.shouldSkip url = false) (hfollow : w.settings.followWebLinks = true)
    (hscheme : Link.isWebScheme url = true) (hkey : Url.normalize url = .ok key) :
    (w.check url).run.run s =
      match (cached key (.whole w.settings.cacheTimeout) (w.fetch url)).run.run s with
      | (.ok (o, _), t) => (.ok o, t)
      | (.error e, t) => (.error e, t) := by
  unfold check
  simp only [hskip, hfollow, hscheme, hkey, Bool.not_true, Bool.false_eq_true, if_false,
    pure_bind]
  rw [run_bind]
  rcases (cached key (.whole w.settings.cacheTimeout) (w.fetch url)).run.run s with
    ⟨_ | ⟨o, _⟩, t⟩ <;> rfl

/-- A check of a URL that goes to the web, with no fresh entry in the cache for its normal form,
sends the request for it `k` times, `k` being the number of the first reply not asked again or
one more than the retries, whichever is less; it pauses the backoff times `1, 2, …, k - 1`
between them; it gives what the last reply decides; and it stores that outcome at the session's
clock under the normal form, or leaves no entry for it when the check stops. -/
theorem check_retries_until_settled (w : WebChecker) (url key : String) (s : Session)
    (hskip : w.settings.shouldSkip url = false) (hfollow : w.settings.followWebLinks = true)
    (hscheme : Link.isWebScheme url = true) (hkey : Url.normalize url = .ok key)
    (hstale : s.cache.holdsFresh key s.clock (.whole w.settings.cacheTimeout) = false) :
    ∃ headers k, 0 < k ∧ k ≤ w.settings.maxRetries + 1 ∧
      (∀ i, i + 1 < k → (w.replyAt s url i).retried) ∧
      (k ≤ w.settings.maxRetries → (w.replyAt s url (k - 1)).retried = false) ∧
      ((w.check url).run.run s).2.requests = s.requests ++
        List.replicate k (w.client.sent ⟨url, headers, w.settings.requestTimeout, "GET"⟩) ∧
      ((w.check url).run.run s).2.sleeps = s.sleeps ++
        (List.range' 1 (k - 1)).map (fun n => w.settings.retryBackoff * Float.ofNat n) ∧
      ((w.check url).run.run s).1 = (w.replyAt s url (k - 1)).verdict ∧
      ((w.check url).run.run s).2.cache.entries.lookup key =
        ((w.check url).run.run s).1.toOption.map fun o => ⟨o.isValid, o.reason, s.clock⟩ := by
  -- the fetch runs from the session the cache's lookup left, which drops a stale entry
  let s₁ := { s with cache := (s.cache.lookup key s.clock (.whole w.settings.cacheTimeout)).2 }
  have hnone : (s.cache.lookup key s.clock (.whole w.settings.cacheTimeout)).1 = none := by
    rw [← Option.not_isSome_iff_eq_none, OutcomeCache.lookup_isSome, hstale]
    decide
  obtain ⟨headers, k, hk⟩ := fetch_tries w url s₁
  refine ⟨headers, k, hk.pos, hk.le, hk.retried, fun hle => hk.stops (by omega), ?_⟩
  rw [check_run_of_web s hskip hfollow hscheme hkey,
    cached_run_of_stale key _ (w.fetch url) s hstale]
  rcases hrun : (w.fetch url).run.run s₁ with ⟨res, t⟩
  rw [hrun] at hk
  cases res with
  | ok o =>
    refine ⟨hk.requests, hk.sleeps, hk.result, ?_⟩
    have hclock : t.clock = s.clock := hk.clock
    rw [OutcomeCache.store_entries_lookup, if_pos rfl, hclock]
    rfl
  | error e =>
    refine ⟨hk.requests, hk.sleeps, hk.result, ?_⟩
    rw [hk.cache]
    exact OutcomeCache.lookup_entries_lookup_of_none hnone

/-- A checker that follows web links, with the default two retries. -/
def followingChecker : WebChecker := ⟨{ followWebLinks := true }, [], .given⟩

/-- A session with an empty cache in which the page `https://e.com/x` fails twice before a
client error. -/
def flakySession : Session :=
  { cache := {}, clock := 1000000,
    script := { answers := [("https://e.com/x", [.transport "reset", .status 503, .status 404])] } }

theorem check_retries_flaky_page :
    followingChecker.settings.shouldSkip "https://e.com/x" = false ∧
      followingChecker.settings.followWebLinks = true ∧
      Link.isWebScheme "https://e.com/x" = true ∧
      Url.normalize "https://e.com/x" = .ok "https://e.com/x" ∧
      flakySession.cache.holdsFresh "https://e.com/x" flakySession.clock
        (.whole followingChecker.settings.cacheTimeout) = false ∧
    ∃ headers k, 0 < k ∧ k ≤ followingChecker.settings.maxRetries + 1 ∧
      (∀ i, i + 1 < k → (followingChecker.replyAt flakySession "https://e.com/x" i).retried) ∧
      (k ≤ followingChecker.settings.maxRetries →
        (followingChecker.replyAt flakySession "https://e.com/x" (k - 1)).retried = false) ∧
      ((followingChecker.check "https://e.com/x").run.run flakySession).2.requests =
        flakySession.requests ++ List.replicate k (followingChecker.client.sent
          ⟨"https://e.com/x", headers, followingChecker.settings.requestTimeout, "GET"⟩) ∧
      ((followingChecker.check "https://e.com/x").run.run flakySession).2.sleeps =
        flakySession.sleeps ++ (List.range' 1 (k - 1)).map
          (fun n => followingChecker.settings.retryBackoff * Float.ofNat n) ∧
      ((followingChecker.check "https://e.com/x").run.run flakySession).1 =
        (followingChecker.replyAt flakySession "https://e.com/x" (k - 1)).verdict ∧
      ((followingChecker.check "https://e.com/x").run.run flakySession).2.cache.entries.lookup
          "https://e.com/x" =
        ((followingChecker.check "https://e.com/x").run.run flakySession).1.toOption.map
          fun o => ⟨o.isValid, o.reason, flakySession.clock⟩ := by
  have hskip : followingChecker.settings.shouldSkip "https://e.com/x" = false := rfl
  have hscheme : Link.isWebScheme "https://e.com/x" = true := by decide +kernel
  have hkey : Url.normalize "https://e.com/x" = .ok "https://e.com/x" :=
    Link.eq_ok_of_toOption (by decide +kernel)
  exact ⟨hskip, rfl, hscheme, hkey, rfl,
    check_retries_until_settled _ _ _ _ hskip rfl hscheme hkey rfl⟩

end WebChecker

end BookLinks.Web
