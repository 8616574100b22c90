import BookLinks.Run
import Mathlib.Data.List.Basic
/-!
# Gathering the links of a book

The local pass of a book check reads every link of every document once, in document then scan
order, and keeps account of each: a link settled in place is checked, a failed check becomes an
anomaly that names its document, and a web link joins the group of its URL's normal form.
`groupByKey` says what the groups are: each key once, in the order keys first appear, with the
links of that key in their order. `gather_accounts` is the invariant of the whole pass.
-/

namespace BookLinks

theorem bind_eq_ok {ε α β : Type} {x : Except ε α} {f : α → Except ε β} {b : β}
    (h : x >>= f = .ok b) : ∃ a, x = .ok a ∧ f a = .ok b := by
  cases x with
  | error e => cases h
  | ok a => exact ⟨a, rfl, h⟩

/-! ### Grouping by key -/

section Grouping

variable {α β : Type}

/-- Entries grouped by key: each key once, in the order keys first appear, with the values of
its entries in their order. -/
def groupByKey (entries : List (String × α)) : List (String × List α) :=
  (entries.map (·.1)).eraseDups.map fun k => (k, (entries.filter (·.1 == k)).map (·.2))

theorem nodup_eraseDups {γ : Type} [BEq γ] [LawfulBEq γ] : ∀ l : List γ, l.eraseDups.Nodup
  | [] => by simp
  | a :: as => by
    rw [List.eraseDups_cons, List.nodup_cons]
    exact ⟨by simp, nodup_eraseDups (as.filter fun b => !b == a)⟩
termination_by l => l.length
decreasing_by
  simp only [List.length_cons]
  exact Nat.lt_succ_of_le (List.length_filter_le _ _)

theorem keys_groupByKey (entries : List (String × α)) :
    (groupByKey entries).map (·.1) = (entries.map (·.1)).eraseDups := by
  simp [groupByKey, Function.comp_def]

theorem nodup_keys_groupByKey (entries : List (String × α)) :
    ((groupByKey entries).map (·.1)).Nodup := by
  rw [keys_groupByKey]
  exact nodup_eraseDups _

theorem any_groupByKey (entries : List (String × α)) (key : String) :
    (groupByKey entries).any (·.1 == key) = entries.any (·.1 == key) := by
  rw [Bool.eq_iff_iff]
  simp [groupByKey]

theorem ne_nil_of_mem_groupByKey {entries : List (String × α)} {g : String × List α}
    (h : g ∈ groupByKey entries) : g.2 ≠ [] := by
  simp only [groupByKey, List.mem_map] at h
  obtain ⟨k, hk, rfl⟩ := h
  obtain ⟨e, he, rfl⟩ := List.mem_map.1 (List.mem_eraseDups.1 hk)
  simp only [ne_eq, List.map_eq_nil_iff, List.filter_eq_nil_iff, not_forall]
  exact ⟨e, he, by simp⟩

theorem groupByKey_map_snd (entries : List (String × α)) (f : α → β) :
    groupByKey (entries.map fun e => (e.1, f e.2)) =
      (groupByKey entries).map fun g => (g.1, g.2.map f) := by
  simp [groupByKey, List.filter_map, Function.comp_def]

theorem groupByKey_append_singleton (entries : List (String × α)) (key : String) (a : α) :
    groupByKey (entries ++ [(key, a)]) =
      if (groupByKey entries).any (·.1 == key) then
        (groupByKey entries).map fun (k, vs) => if k == key then (k, vs ++ [a]) else (k, vs)
      else groupByKey entries ++ [(key, [a])] := by
  have hgroup : ∀ k, ((entries ++ [(key, a)]).filter (·.1 == k)).map (·.2) =
      if k == key then (entries.filter (·.1 == k)).map (·.2) ++ [a]
      else (entries.filter (·.1 == k)).map (·.2) := by
    intro k
    by_cases hk : k = key
    · subst hk
      simp
    · simp [List.filter_append, Ne.symm hk, hk]
  rw [any_groupByKey]
  unfold groupByKey
  rw [List.map_append, List.eraseDups_append]
  simp only [List.map_cons, List.map_nil]
  split
  · -- the key is there already: no new group, and its group takes the value
    rename_i hany
    have hmem : key ∈ entries.map (·.1) := by simpa using hany
    have hnew : [key].removeAll (entries.map (·.1)) = [] := by simp [List.removeAll, hmem]
    rw [hnew, List.eraseDups_nil, List.append_nil, List.map_map]
    apply List.map_congr_left
    intro k _
    rw [hgroup k]
    by_cases hk : k = key <;> simp [hk]
  · -- a new key: a last group of the value alone, the others as they were
    rename_i hany
    have hmem : key ∉ entries.map (·.1) := by simpa using hany
    have hnew : [key].removeAll (entries.map (·.1)) = [key] := by simp [List.removeAll, hmem]
    have hnone : (entries.filter (·.1 == key)).map (·.2) = [] := by
      simp only [List.map_eq_nil_iff, List.filter_eq_nil_iff, beq_iff_eq]
      intro e he hek
      exact hmem (hek ▸ List.mem_map_of_mem he)
    rw [hnew, List.eraseDups_cons, List.filter_nil, List.eraseDups_nil, List.map_append]
    simp only [List.map_cons, List.map_nil, hgroup key, beq_self_eq_true, ↓reduceIte, hnone,
      List.nil_append]
    congr 1
    apply List.map_congr_left
    intro k hk
    have hne : k ≠ key := fun h => hmem (h ▸ List.mem_eraseDups.1 hk)
    rw [hgroup k, if_neg (by simpa using hne)]

theorem perm_flatMap_cons_at {ks : List String} (hks : ks.Nodup) {k₀ : String} (hk : k₀ ∈ ks)
    (x : β) (f : String → List β) :
    (ks.flatMap fun k => if k₀ == k then x :: f k else f k).Perm (x :: ks.flatMap f) := by
  induction ks with
  | nil => simp at hk
  | cons k ks ih =>
    rw [List.nodup_cons] at hks
    by_cases hkk : k₀ = k
    · subst hkk
      have hrest : (ks.flatMap fun k => if k₀ == k then x :: f k else f k) = ks.flatMap f := by
        apply List.flatMap_congr
        intro k hk'
        have : k₀ ≠ k := fun h => hks.1 (h ▸ hk')
        simp [this]
      rw [List.flatMap_cons, List.flatMap_cons, if_pos (beq_self_eq_true k₀), hrest,
        List.cons_append]
    · have hk' : k₀ ∈ ks := by simpa [hkk] using hk
      rw [List.flatMap_cons, List.flatMap_cons, if_neg (by simpa using hkk)]
      exact ((ih hks.2 hk').append_left (f k)).trans List.perm_middle

theorem perm_flatMap_filter {ks : List String} (hks : ks.Nodup) :
    ∀ (entries : List (String × α)), (∀ e ∈ entries, e.1 ∈ ks) →
      (ks.flatMap fun k => entries.filter (·.1 == k)).Perm entries
  | [], _ => by simp
  | e :: rest, hin => by
    simp only [List.filter_cons]
    exact (perm_flatMap_cons_at hks (hin e (by simp)) e _).trans
      ((perm_flatMap_filter hks rest fun e' he' => hin e' (by simp [he'])).cons e)

theorem perm_flatMap_groupByKey (entries : List (String × α)) :
    ((groupByKey entries).flatMap fun g => g.2.map (g.1, ·)).Perm entries := by
  have hkey : ∀ k, ((entries.filter (·.1 == k)).map (·.2)).map (k, ·) =
      entries.filter (·.1 == k) := by
    intro k
    rw [List.map_map]
    conv => rhs; rw [← List.map_id (entries.filter (·.1 == k))]
    apply List.map_congr_left
    intro e he
    have : e.1 = k := by simpa using (List.mem_filter.1 he).2
    simp [← this]
  simp only [groupByKey, List.flatMap_map, hkey]
  exact perm_flatMap_filter (nodup_eraseDups _) entries
    fun e he => List.mem_eraseDups.2 (List.mem_map_of_mem he)

theorem perm_flatMap_filterMap_groupByKey (entries : List (String × α))
    (f : String → α → Option β) :
    ((groupByKey entries).flatMap fun g => g.2.filterMap (f g.1)).Perm
      (entries.filterMap fun e => f e.1 e.2) := by
  have h := (perm_flatMap_groupByKey entries).filterMap fun e => f e.1 e.2
  simpa only [List.filterMap_flatMap, List.filterMap_map, Function.comp_def] using h

end Grouping

/-! ### The local pass -/

namespace BookCheck

open BookLinks.Book BookLinks.Markdown BookLinks.Report

/-- A link of a book: the position of its document, the document and the link. -/
structure Site where
  docIndex : Nat
  document : Document
  occurrence : Occurrence

/-- The link of a site, checked with an outcome. -/
def Site.checked (x : Site) (out : Outcome) : CheckedLink :=
  ⟨x.docIndex, x.document, x.occurrence, out⟩

/-- Every link of a book, in document then scan order. -/
def sites (docs : List Document) : List Site :=
  docs.zipIdx.flatMap fun p => (scan p.1).map fun o => ⟨p.2, p.1, o⟩

/-- The link of a site as its local check settles it, if it does. -/
def localLink (c : BookCheck) (x : Site) : Option CheckedLink :=
  match c.checkHere x.document x.occurrence with
  | .done out => some (x.checked out)
  | _ => none

/-- The document named by the anomaly of a site whose local check failed. -/
def failedDoc (c : BookCheck) (x : Site) : Option (Option String) :=
  match c.checkHere x.document x.occurrence with
  | .failed _ => some (some x.document.path)
  | _ => none

/-- The URL of a site that the local pass sends to the web, under its normal form. -/
def webUrl (c : BookCheck) (x : Site) : Option (String × String) :=
  match c.checkHere x.document x.occurrence with
  | .web url => (Url.normalize url).toOption.map (·, url)
  | _ => none

/-- A site waiting for the web, under its key: its link, not checked yet, and its URL. -/
def webEntry (c : BookCheck) (x : Site) : Option (String × (CheckedLink × String)) :=
  (c.webUrl x).map fun e => (e.1, (x.checked Outcome.valid, e.2))

@[simp] theorem links_addWeb (g : Gathered) (key : String) (link : CheckedLink) (url : String) :
    (g.addWeb key link url).links = g.links := by
  unfold Gathered.addWeb
  split <;> rfl

@[simp] theorem anomalies_addWeb (g : Gathered) (key : String) (link : CheckedLink)
    (url : String) : (g.addWeb key link url).anomalies = g.anomalies := by
  unfold Gathered.addWeb
  split <;> rfl

theorem pending_addWeb {g : Gathered} {entries : List (String × (CheckedLink × String))}
    (h : g.pending = groupByKey entries) (key : String) (link : CheckedLink) (url : String) :
    (g.addWeb key link url).pending = groupByKey (entries ++ [(key, (link, url))]) := by
  rw [groupByKey_append_singleton, ← h]
  unfold Gathered.addWeb
  split <;> rfl

/-- What the local pass has made of the sites `xs`: the links settled in place, in order; an
anomaly naming the document of each failed check; and the web links grouped by key. -/
structure Accounts (c : BookCheck) (g : Gathered) (xs : List Site) : Prop where
  links : g.links = xs.filterMap c.localLink
  anomalies : g.anomalies.map (·.document) = xs.filterMap c.failedDoc
  pending : g.pending = groupByKey (xs.filterMap c.webEntry)

theorem accounts_empty (c : BookCheck) : c.Accounts {} [] := ⟨rfl, rfl, rfl⟩

theorem Accounts.gatherLink {c : BookCheck} {g g' : Gathered} {xs : List Site}
    (hacc : c.Accounts g xs) (x : Site)
    (h : c.gatherLink x.document x.docIndex g x.occurrence = .ok g') :
    c.Accounts g' (xs ++ [x]) := by
  unfold BookCheck.gatherLink at h
  cases hc : c.checkHere x.document x.occurrence with
  | done out =>
    simp only [hc, pure, Except.pure, Except.ok.injEq] at h
    subst h
    exact ⟨by simp [hacc.links, localLink, hc, Site.checked], by simp [hacc.anomalies, failedDoc, hc],
      by simp [hacc.pending, webEntry, webUrl, hc]⟩
  | failed f =>
    simp only [hc, pure, Except.pure, Except.ok.injEq] at h
    subst h
    exact ⟨by simp [hacc.links, localLink, hc], by simp [hacc.anomalies, failedDoc, hc],
      by simp [hacc.pending, webEntry, webUrl, hc]⟩
  | web url =>
    simp only [hc] at h
    obtain ⟨key, hkey, h⟩ := bind_eq_ok h
    simp only [pure, Except.pure, Except.ok.injEq] at h
    subst h
    have hentry : c.webEntry x = some (key, (x.checked Outcome.valid, url)) := by
      simp [webEntry, webUrl, hc, hkey, Except.toOption]
    refine ⟨by simp [hacc.links, localLink, hc], by simp [hacc.anomalies, failedDoc, hc], ?_⟩
    rw [pending_addWeb hacc.pending, List.filterMap_append, List.filterMap_cons, hentry,
      List.filterMap_nil]
    rfl

theorem Accounts.foldlM_gatherLink {c : BookCheck} {doc : Document} {i : Nat} :
    ∀ (os : List Occurrence) {g g' : Gathered} {xs : List Site}, c.Accounts g xs →
      os.foldlM (c.gatherLink doc i) g = .ok g' →
        c.Accounts g' (xs ++ os.map fun o => ⟨i, doc, o⟩)
  | [], g, g', xs, hacc, h => by
    simp only [List.foldlM_nil, pure, Except.pure, Except.ok.injEq] at h
    subst h
    simpa using hacc
  | o :: os, g, g', xs, hacc, h => by
    rw [List.foldlM_cons] at h
    obtain ⟨g₁, h₁, h⟩ := bind_eq_ok h
    have := Accounts.foldlM_gatherLink os (hacc.gatherLink ⟨i, doc, o⟩ h₁) h
    simpa using this

theorem gather_accounts {c : BookCheck} {docs : List Document} {g : Gathered}
    (h : c.gather docs = .ok g) : c.Accounts g (sites docs) := by
  -- the invariant, carried over the documents from any account
  have hdocs : ∀ (ps : List (Document × Nat)) {g₀ g' : Gathered} {xs : List Site},
      c.Accounts g₀ xs →
      ps.foldlM (fun g p => (scan p.1).foldlM (c.gatherLink p.1 p.2) g) g₀ = .ok g' →
      c.Accounts g' (xs ++ ps.flatMap fun p => (scan p.1).map fun o => ⟨p.2, p.1, o⟩) := by
    intro ps
    induction ps with
    | nil =>
      intro g₀ g' xs hacc h
      simp only [List.foldlM_nil, pure, Except.pure, Except.ok.injEq] at h
      subst h
      simpa using hacc
    | cons p ps ih =>
      intro g₀ g' xs hacc h
      rw [List.foldlM_cons] at h
      obtain ⟨g₁, h₁, h⟩ := bind_eq_ok h
      simpa using ih (hacc.foldlM_gatherLink (scan p.1) h₁) h
  simpa [sites] using hdocs docs.zipIdx (accounts_empty c) h

end BookCheck

end BookLinks
