import BookLinks.Proofs.Run.Gathering
import BookLinks.Proofs.Run.Completion
/-!
# Every link of a book is accounted for

A check of a book that gives a report has checked each of its links once, or has an anomaly
for it. A link whose local check failed has an anomaly naming its document. The links the
local pass sends to the web are grouped by the normal form of their URL. Each group is checked
once, on the URL of its first link, with the checks run in the order the groups first appear,
each in the session the earlier ones left. Every link of the group takes that outcome, and a
failed group check is one anomaly with no document. Only links sent to the web share an
outcome: a reference without a definition, or an excluded link, keeps its own outcome even when
its href is a web URL of some group.
-/

namespace BookLinks.BookCheck

open BookLinks.Book BookLinks.Markdown BookLinks.Report BookLinks.Web

/-! ### The web pass -/

/-- The URL checked for each group: that of its first link. -/
def firstUrls (groups : List (String × List (CheckedLink × String))) : List (String × String) :=
  groups.filterMap fun g => g.2.head?.map fun p => (g.1, p.2)

/-- The verdict of each web group: the check of its URL, each run in the session that the
checks of the groups before it left. -/
def webVerdicts (c : BookCheck) (groups : List (String × String)) :
    StateM Session (List (String × Except CheckFault Outcome)) :=
  groups.mapM fun g => do
    let r ← (c.web.check g.2).run
    pure (g.1, r)

theorem webVerdicts_cons (c : BookCheck) (g : String × String) (gs : List (String × String))
    (s : Session) :
    (c.webVerdicts (g :: gs)).run s =
      ((g.1, ((c.web.check g.2).run.run s).1) ::
          ((c.webVerdicts gs).run ((c.web.check g.2).run.run s).2).1,
        ((c.webVerdicts gs).run ((c.web.check g.2).run.run s).2).2) := by
  simp [webVerdicts, List.mapM_cons]
  rfl

/-- What the web pass adds to gathered links, given the verdicts of its groups: the links of
each group with the outcome of its verdict, and an anomaly with no document for each verdict
that failed. -/
structure WebAdds (acc acc' : Gathered) (groups : List (String × List (CheckedLink × String)))
    (verdicts : List (String × Except CheckFault Outcome)) : Prop where
  links : acc'.links = acc.links ++ groups.flatMap fun g => g.2.filterMap fun p =>
    ((verdicts.lookup g.1).bind Except.toOption).map fun o => { p.1 with outcome := o }
  anomalies : acc'.anomalies.map (·.document) =
    acc.anomalies.map (·.document) ++ (verdicts.filter fun v => !v.2.isOk).map fun _ => none

theorem checkGroup_run (c : BookCheck) (acc : Gathered) (key : String)
    (p : CheckedLink × String) (rest : List (CheckedLink × String)) (s : Session) :
    ((c.checkGroup acc (key, p :: rest)).run s).2 = ((c.web.check p.2).run.run s).2 ∧
      WebAdds acc ((c.checkGroup acc (key, p :: rest)).run s).1 [(key, p :: rest)]
        [(key, ((c.web.check p.2).run.run s).1)] := by
  obtain ⟨l, url⟩ := p
  rcases hr : (c.web.check url).run.run s with ⟨r, s'⟩
  cases r with
  | ok out =>
    have hrun : (c.checkGroup acc (key, (l, url) :: rest)).run s =
        ({ acc with links := acc.links ++ ((l, url) :: rest).map fun p => { p.1 with outcome := out } },
          s') := by
      simp [checkGroup, hr]
      rfl
    rw [hrun]
    refine ⟨rfl, ⟨?_, ?_⟩⟩
    · simp [Except.toOption]
    · simp [Except.isOk, Except.toBool]
  | error fault =>
    have hrun : (c.checkGroup acc (key, (l, url) :: rest)).run s =
        ({ acc with
          anomalies := acc.anomalies ++ [⟨(faultFailure fault).kind ++ " while checking \"" ++ key ++
            "\": " ++ (faultFailure fault).message, none⟩],
          logs := acc.logs ++ [⟨.error, "Unable to check " ++ key⟩] }, s') := by
      simp [checkGroup, hr]
      rfl
    rw [hrun]
    refine ⟨rfl, ⟨?_, ?_⟩⟩
    · simp [Except.toOption]
    · simp [Except.isOk, Except.toBool]

theorem WebAdds.cons {acc acc₁ acc₂ : Gathered} {g : String × List (CheckedLink × String)}
    {gs : List (String × List (CheckedLink × String))} {r : Except CheckFault Outcome}
    {vs : List (String × Except CheckFault Outcome)}
    (h₁ : WebAdds acc acc₁ [g] [(g.1, r)]) (h₂ : WebAdds acc₁ acc₂ gs vs)
    (hkeys : ∀ g' ∈ gs, g'.1 ≠ g.1) : WebAdds acc acc₂ (g :: gs) ((g.1, r) :: vs) where
  links := by
    rw [h₂.links, h₁.links, List.append_assoc, List.flatMap_cons, List.flatMap_cons,
      List.flatMap_nil, List.append_nil]
    congr 2
    · simp
    · apply List.flatMap_congr
      intro g' hg'
      have hne : (g'.1 == g.1) = false := by simpa using hkeys g' hg'
      simp [List.lookup_cons, hne]
  anomalies := by
    rw [h₂.anomalies, h₁.anomalies, List.append_assoc]
    cases r <;> simp [Except.isOk, Except.toBool]

theorem foldlM_checkGroup (c : BookCheck) :
    ∀ (groups : List (String × List (CheckedLink × String))) (acc : Gathered) (s : Session),
      (groups.map (·.1)).Nodup → (∀ g ∈ groups, g.2 ≠ []) →
        ((groups.foldlM c.checkGroup acc).run s).2 =
            ((c.webVerdicts (firstUrls groups)).run s).2 ∧
          WebAdds acc ((groups.foldlM c.checkGroup acc).run s).1 groups
            ((c.webVerdicts (firstUrls groups)).run s).1
  | [], acc, s, _, _ => by
    refine ⟨rfl, ⟨?_, ?_⟩⟩
    · show acc.links = acc.links ++ []
      rw [List.append_nil]
    · show acc.anomalies.map (·.document) = acc.anomalies.map (·.document) ++ []
      rw [List.append_nil]
  | (key, []) :: gs, acc, s, _, hne => absurd rfl (hne (key, []) (by simp))
  | (key, p :: rest) :: gs, acc, s, hnodup, hne => by
    rw [List.map_cons, List.nodup_cons] at hnodup
    have hstep := checkGroup_run c acc key p rest s
    have ih := foldlM_checkGroup c gs ((c.checkGroup acc (key, p :: rest)).run s).1
      ((c.checkGroup acc (key, p :: rest)).run s).2 hnodup.2
      fun g (hg : g ∈ gs) => hne g (List.mem_cons_of_mem _ hg)
    have hfold : (((key, p :: rest) :: gs).foldlM c.checkGroup acc).run s =
        (gs.foldlM c.checkGroup ((c.checkGroup acc (key, p :: rest)).run s).1).run
          ((c.checkGroup acc (key, p :: rest)).run s).2 := by
      simp [List.foldlM_cons]
      rfl
    have hfirst : firstUrls ((key, p :: rest) :: gs) = (key, p.2) :: firstUrls gs := rfl
    rw [hfold, hfirst, webVerdicts_cons]
    dsimp only
    rw [← hstep.1]
    exact ⟨ih.1, hstep.2.cons ih.2 fun g' hg' heq => hnodup.1 (heq ▸ List.mem_map_of_mem hg')⟩

/-! ### A check of a whole book -/

theorem perm_filterMap_append {γ δ : Type} {f g h : γ → Option δ}
    (hsplit : ∀ x, (f x = g x ∧ h x = none) ∨ (f x = h x ∧ g x = none)) :
    ∀ l : List γ, (l.filterMap f).Perm (l.filterMap g ++ l.filterMap h)
  | [] => by simp
  | x :: l => by
    have ih := perm_filterMap_append hsplit l
    rcases hsplit x with ⟨hf, hh⟩ | ⟨hf, hg⟩
    · cases hgx : g x with
      | none => simpa [List.filterMap_cons, hf, hh, hgx] using ih
      | some b => simpa [List.filterMap_cons, hf, hh, hgx] using ih.cons b
    · cases hhx : h x with
      | none => simpa [List.filterMap_cons, hf, hg, hhx] using ih
      | some b =>
        simp only [List.filterMap_cons, hf, hg, hhx]
        exact (ih.cons b).trans List.perm_middle.symm

/-- The web groups of a book: each normal form of a URL that its links send to the web, in
the order it first appears, with the URL of the first link that has it. -/
def webGroups (c : BookCheck) (docs : List Document) : List (String × String) :=
  (groupByKey ((sites docs).filterMap c.webUrl)).filterMap fun g => g.2.head?.map (g.1, ·)

/-- What a check of a book makes of one of its links, given the verdict of each web group:
the outcome of its local check, or the verdict of its group; nothing when either failed. -/
def settle (c : BookCheck) (verdicts : List (String × Except CheckFault Outcome)) (x : Site) :
    Option CheckedLink :=
  match c.checkHere x.document x.occurrence with
  | .done out => some (x.checked out)
  | .failed _ => none
  | .web url => do
    let key ← (Url.normalize url).toOption
    let out ← (verdicts.lookup key).bind Except.toOption
    pure (x.checked out)

theorem firstUrls_groupByKey_webEntry (c : BookCheck) (docs : List Document) :
    firstUrls (groupByKey ((sites docs).filterMap c.webEntry)) = c.webGroups docs := by
  have hurl : (sites docs).filterMap c.webUrl =
      ((sites docs).filterMap c.webEntry).map fun e => (e.1, e.2.2) := by
    rw [List.map_filterMap]
    congr 1
    funext x
    rw [webEntry, Option.map_map]
    cases c.webUrl x <;> rfl
  rw [webGroups, hurl, groupByKey_map_snd, List.filterMap_map]
  simp [firstUrls, Function.comp_def, List.head?_map]

theorem webGroups_first (c : BookCheck) (docs : List Document) :
    ((c.webGroups docs).map (·.1)).Nodup ∧
      ∀ g ∈ c.webGroups docs, ((sites docs).filterMap c.webUrl).find? (·.1 == g.1) = some g := by
  constructor
  · have hkeys := nodup_keys_groupByKey ((sites docs).filterMap c.webUrl)
    rw [List.Nodup, List.pairwise_map] at hkeys ⊢
    rw [webGroups, List.pairwise_filterMap]
    refine hkeys.imp fun hne b hb b' hb' => ?_
    simp only [Option.map_eq_some_iff] at hb hb'
    obtain ⟨u, -, rfl⟩ := hb
    obtain ⟨u', -, rfl⟩ := hb'
    exact hne
  · intro g hg
    simp only [webGroups, List.mem_filterMap, Option.map_eq_some_iff, groupByKey,
      List.mem_map] at hg
    obtain ⟨_, ⟨k, -, rfl⟩, u, hu, rfl⟩ := hg
    rw [List.head?_map, List.head?_filter, Option.map_eq_some_iff] at hu
    obtain ⟨e, he, rfl⟩ := hu
    have hkey : e.1 = k := by simpa using List.find?_some he
    rw [he, ← hkey]

theorem settle_split (c : BookCheck) (verdicts : List (String × Except CheckFault Outcome))
    (x : Site) :
    (c.settle verdicts x = c.localLink x ∧ (c.webEntry x).bind (fun e =>
        ((verdicts.lookup e.1).bind Except.toOption).map fun o => { e.2.1 with outcome := o }) =
          none) ∨
      (c.settle verdicts x = (c.webEntry x).bind (fun e =>
        ((verdicts.lookup e.1).bind Except.toOption).map fun o => { e.2.1 with outcome := o }) ∧
        c.localLink x = none) := by
  cases hc : c.checkHere x.document x.occurrence with
  | done out => exact .inl ⟨by simp [settle, localLink, hc], by simp [webEntry, webUrl, hc]⟩
  | failed f => exact .inl ⟨by simp [settle, localLink, hc], by simp [webEntry, webUrl, hc]⟩
  | web url =>
    refine .inr ⟨?_, by simp [localLink, hc]⟩
    cases hn : Url.normalize url with
    | error e => simp [settle, webEntry, webUrl, hc, hn, Except.toOption]
    | ok key =>
      simp only [settle, webEntry, webUrl, hc, hn, Except.toOption, Option.map_some,
        Option.bind_some]
      show ((verdicts.lookup key).bind Except.toOption).bind (fun out => some (x.checked out)) = _
      cases verdicts.lookup key with
      | none => rfl
      | some v => cases v <;> rfl

theorem run_eq_ok {c : BookCheck} {docs : List Document} {s : Session} {r : Report}
    (h : ((c.run docs).run s).1 = .ok r) :
    ∃ g, c.gather docs = .ok g ∧ r = Report.build c.settings.warningPolicy
      ((c.checkWeb g).run s).1.links ((c.checkWeb g).run s).1.anomalies := by
  obtain ⟨-, h⟩ := run_eq_ok_iff.1 h
  unfold checkLinks at h
  cases hg : c.gather docs with
  | error e =>
    rw [hg] at h
    cases h
  | ok g =>
    rw [hg] at h
    refine ⟨g, rfl, ?_⟩
    have h' : (Except.ok (Report.build c.settings.warningPolicy ((c.checkWeb g).run s).1.links
        ((c.checkWeb g).run s).1.anomalies) : Except Url.UrlError Report) = .ok r := h
    exact (Except.ok.inj h').symm

theorem checkWeb_of_gather {c : BookCheck} {docs : List Document} {g : Gathered}
    (hg : c.gather docs = .ok g) (s : Session) :
    ((c.checkWeb g).run s).2 = ((c.webVerdicts (c.webGroups docs)).run s).2 ∧
      WebAdds g ((c.checkWeb g).run s).1 g.pending ((c.webVerdicts (c.webGroups docs)).run s).1 := by
  have hacc := gather_accounts hg
  have hurls : firstUrls g.pending = c.webGroups docs := by
    rw [hacc.pending]
    exact firstUrls_groupByKey_webEntry c docs
  rw [← hurls]
  exact foldlM_checkGroup c g.pending g s
    (by rw [hacc.pending]; exact nodup_keys_groupByKey _)
    (by rw [hacc.pending]; exact fun _ => ne_nil_of_mem_groupByKey)

/-- A check of a book that gives a report accounts for every link of the book once. The report
is built from the checked links and the anomalies. The checked links are, in some order, the
links of the book, each with the outcome of its local check or the verdict of its web group;
a link whose check or group check failed is left out. There is one anomaly naming its document
for each failed local check, then one with no document for each failed group check. -/
theorem run_accounts_for_every_link (c : BookCheck) (docs : List Document) (s : Session)
    (r : Report) (h : ((c.run docs).run s).1 = .ok r) :
    ∃ links anomalies, r = Report.build c.settings.warningPolicy links anomalies ∧
      r.checked = links.length ∧
      links.Perm ((sites docs).filterMap
        (c.settle ((c.webVerdicts (c.webGroups docs)).run s).1)) ∧
      anomalies.map (·.document) = (sites docs).filterMap c.failedDoc ++
        ((((c.webVerdicts (c.webGroups docs)).run s).1.filter fun v => !v.2.isOk).map
          fun _ => none) := by
  obtain ⟨g, hg, rfl⟩ := run_eq_ok h
  have hacc := gather_accounts hg
  obtain ⟨-, hlinks, hanomalies⟩ := checkWeb_of_gather hg s
  refine ⟨_, _, rfl, rfl, ?_, ?_⟩
  · -- the links settled in place, then each group's links with its verdict
    rw [hlinks, hacc.links, hacc.pending]
    refine ((perm_flatMap_filterMap_groupByKey _ fun k (p : CheckedLink × String) =>
      ((((c.webVerdicts (c.webGroups docs)).run s).1.lookup k).bind Except.toOption).map
        fun o => { p.1 with outcome := o }).append_left _).trans ?_
    rw [List.filterMap_filterMap]
    exact (perm_filterMap_append (settle_split c _) _).symm
  · rw [hanomalies, hacc.anomalies]

/-- A page with a reference to a web URL that has no definition, and a link to that URL. -/
def webPage : Document := Document.make "a.md" "[http://x]\n\n[y](http://x)\n"

theorem scan_webPage :
    scan webPage = [⟨.incomplete, "http://x", none, 0, 10, 0, 10⟩,
      ⟨.inline, "http://x", none, 12, 25, 16, 24⟩] := by
  -- the scanner's sort is the identity on links found in order
  rw [webPage, scan, scanText, List.mergeSort_of_pairwise (by decide +kernel)]
  decide +kernel

theorem prepare_webPage : plainCheck.prepare [webPage] = .ok () := by
  decide +kernel

theorem gather_singleton (c : BookCheck) (doc : Document) :
    c.gather [doc] = (scan doc).foldlM (c.gatherLink doc 0) {} := by
  simp [gather, List.zipIdx]

theorem run_webPage_ok : ∃ r, ((plainCheck.run [webPage]).run default).1 = .ok r := by
  have hsome : (plainCheck.gather [webPage]).toOption.isSome := by
    rw [gather_singleton, scan_webPage]
    decide +kernel
  obtain ⟨g, hg⟩ : ∃ g, plainCheck.gather [webPage] = .ok g := by
    revert hsome
    cases plainCheck.gather [webPage] with
    | error e => simp [Except.toOption]
    | ok g => exact fun _ => ⟨g, rfl⟩
  obtain ⟨r, hr⟩ := (checkLinks_ok_iff_gather_ok _ _ default).2 ⟨g, hg⟩
  exact ⟨r, run_eq_ok_iff.2 ⟨prepare_webPage, hr⟩⟩

theorem run_accounts_for_links_of_a_page :
    ∃ r, ((plainCheck.run [webPage]).run default).1 = .ok r ∧
      ∃ links anomalies, r = Report.build plainCheck.settings.warningPolicy links anomalies ∧
        r.checked = links.length ∧
        links.Perm ((sites [webPage]).filterMap (plainCheck.settle
          ((plainCheck.webVerdicts (plainCheck.webGroups [webPage])).run default).1)) ∧
        anomalies.map (·.document) = (sites [webPage]).filterMap plainCheck.failedDoc ++
          ((((plainCheck.webVerdicts (plainCheck.webGroups [webPage])).run default).1.filter
            fun v => !v.2.isOk).map fun _ => none) := by
  obtain ⟨r, hr⟩ := run_webPage_ok
  exact ⟨r, hr, run_accounts_for_every_link _ _ _ r hr⟩

/-- A reference without a definition keeps its own outcome even when its href is a web URL of
a group: on a page with the reference `[http://x]` and the link `[y](http://x)`, both hrefs are
the web URL `http://x`, whose check gives a valid outcome, yet the reference is reported with
a warning. -/
theorem run_keeps_undefined_reference_out_of_web_group :
    Link.classify "http://x" = .ok (.web "http://x") ∧
      (scan webPage).map (·.href) = ["http://x", "http://x"] ∧
      ((plainCheck.web.check "http://x").run.run default).1 = .ok (Outcome.valid "not followed") ∧
      ((plainCheck.run [webPage]).run default).1.toOption.map
          (fun r => r.diagnostics.map fun d => (d.link.occurrence.kind, d.link.outcome)) =
        some [(.incomplete, incompleteOutcome "http://x" .warning)] := by
  refine ⟨?_, by rw [scan_webPage]; rfl, rfl, ?_⟩
  · have hopt : (Link.classify "http://x").toOption = some (.web "http://x") := by decide +kernel
    revert hopt
    cases Link.classify "http://x" <;> simp [Except.toOption]
  · rw [run_of_prepare_ok prepare_webPage]
    unfold checkLinks
    rw [gather_singleton, scan_webPage]
    decide +kernel

end BookLinks.BookCheck
