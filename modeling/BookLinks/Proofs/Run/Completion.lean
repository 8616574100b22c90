import BookLinks.Run
/-!
# When a check of a book completes

A check of a book turns the failure of one link, and of one web group, into an anomaly of
its report. Two steps sit outside that rule. As the check starts, the book's root and every
document's path under it are made real, and a path that cannot be made real stops the check.
While the links are gathered, each web URL is put under its normalised form, and a URL that
cannot be normalised stops it too. The main statement says exactly when a check gives a
report: when every such path can be made real and every such URL normalised.
-/
namespace BookLinks.BookCheck

open BookLinks.Book BookLinks.Fs BookLinks.Markdown BookLinks.Web

theorem foldlM_ok_iff {ε α β : Type} {f : β → α → Except ε β} {P : α → Prop}
    (hf : ∀ b a, (∃ b', f b a = .ok b') ↔ P a) :
    ∀ (l : List α) (b : β), (∃ r, l.foldlM f b = .ok r) ↔ ∀ a ∈ l, P a
  | [], b => by simp [List.foldlM, pure, Except.pure]
  | a :: l, b => by
    rw [List.foldlM_cons]
    cases h : f b a with
    | error e =>
      have hna : ¬ P a := fun hp => by
        obtain ⟨b', hb'⟩ := (hf b a).2 hp
        simp [h] at hb'
      simp [bind, Except.bind, hna]
    | ok b' =>
      have hpa : P a := (hf b a).1 ⟨b', h⟩
      simp [bind, Except.bind, hpa, foldlM_ok_iff hf l b']

/-- The web URL of a link, if the local check sends it to the web, can be normalised. -/
def WebUrlNormalises (c : BookCheck) (doc : Document) (o : Occurrence) : Prop :=
  ∀ url, c.checkHere doc o = .web url → ∃ key, Url.normalize url = .ok key

theorem gatherLink_ok_iff (c : BookCheck) (doc : Document) (i : Nat) (g : Gathered)
    (o : Occurrence) : (∃ g', c.gatherLink doc i g o = .ok g') ↔ c.WebUrlNormalises doc o := by
  unfold gatherLink WebUrlNormalises
  cases h : c.checkHere doc o with
  | done out => simp [pure, Except.pure]
  | failed f => simp [pure, Except.pure]
  | web url =>
    cases hn : Url.normalize url with
    | error e => simp [hn, bind, Except.bind]
    | ok key => simp [hn, bind, Except.bind, pure, Except.pure]

theorem gather_ok_iff (c : BookCheck) (docs : List Document) :
    (∃ g, c.gather docs = .ok g) ↔ ∀ doc ∈ docs, ∀ o ∈ scan doc, c.WebUrlNormalises doc o := by
  unfold gather
  rw [foldlM_ok_iff (P := fun x => ∀ o ∈ scan x.1, c.WebUrlNormalises x.1 o)
    (fun g x => foldlM_ok_iff (gatherLink_ok_iff c x.1 x.2) _ g)]
  constructor
  · intro h doc hdoc
    rw [← List.zipIdx_map_fst 0 docs] at hdoc
    obtain ⟨x, hx, rfl⟩ := List.mem_map.1 hdoc
    exact h x hx
  · intro h x hx
    exact h x.1 (List.fst_mem_of_mem_zipIdx hx)

/-- The paths a check makes real as it starts can be made real: the root, seen from the working
directory, and each document's path under the real root. -/
def PathsReal (c : BookCheck) (docs : List Document) : Prop :=
  ∃ root, c.files.volume.realPath (join c.files.cwd c.files.root) = .ok root ∧
    ∀ doc ∈ docs, ∃ p, c.files.volume.realPath (join root doc.path) = .ok p

theorem forM_ok_iff {ε α : Type} {f : α → Except ε PUnit} :
    ∀ l : List α, l.forM f = .ok ⟨⟩ ↔ ∀ a ∈ l, f a = .ok ⟨⟩
  | [] => by simp [List.forM, pure, Except.pure]
  | a :: l => by
    show (f a >>= fun _ => l.forM f) = _ ↔ _
    rw [List.forall_mem_cons, ← forM_ok_iff l]
    cases f a with
    | error e => simp [bind, Except.bind]
    | ok u => cases u; simp [bind, Except.bind]

theorem prepare_ok_iff (c : BookCheck) (docs : List Document) :
    c.prepare docs = .ok () ↔ c.PathsReal docs := by
  unfold prepare PathsReal
  cases hr : c.files.volume.realPath (join c.files.cwd c.files.root) with
  | error e => simp [bind, Except.bind]
  | ok root =>
    simp only [bind, Except.bind, Except.ok.injEq, exists_eq_left']
    rw [forM_ok_iff]
    refine forall₂_congr fun doc _ => ?_
    cases c.files.volume.realPath (join root doc.path) <;> simp [pure, Except.pure]

theorem run_of_prepare_error {c : BookCheck} {docs : List Document} {e : RealError}
    (hp : c.prepare docs = .error e) (s : Session) : (c.run docs).run s = (.error (.path e), s) := by
  unfold run
  rw [hp]
  rfl

theorem run_of_prepare_ok {c : BookCheck} {docs : List Document} (hp : c.prepare docs = .ok ())
    (s : Session) :
    (c.run docs).run s =
      (((c.checkLinks docs).run s).1.mapError .url, ((c.checkLinks docs).run s).2) := by
  unfold run
  rw [hp]
  rfl

theorem run_eq_ok_iff {c : BookCheck} {docs : List Document} {s : Session} {r : Report} :
    ((c.run docs).run s).1 = .ok r ↔
      c.prepare docs = .ok () ∧ ((c.checkLinks docs).run s).1 = .ok r := by
  cases hp : c.prepare docs with
  | error e =>
    rw [run_of_prepare_error hp]
    exact iff_of_false (fun h => by cases h) (fun ⟨h, _⟩ => by cases h)
  | ok u =>
    rw [run_of_prepare_ok hp]
    cases ((c.checkLinks docs).run s).1 with
    | error e => exact iff_of_false (fun h => by cases h) (fun ⟨_, h⟩ => by cases h)
    | ok r' => exact ⟨fun h => ⟨rfl, by cases h; rfl⟩, fun ⟨_, h⟩ => by cases h; rfl⟩

theorem checkLinks_ok_iff_gather_ok (c : BookCheck) (docs : List Document) (s : Session) :
    (∃ r, ((c.checkLinks docs).run s).1 = .ok r) ↔ ∃ g, c.gather docs = .ok g := by
  unfold checkLinks
  cases c.gather docs with
  | error e => exact iff_of_false (fun ⟨_, hr⟩ => nomatch hr) (fun ⟨_, hg⟩ => nomatch hg)
  | ok g => exact iff_of_true ⟨_, rfl⟩ ⟨g, rfl⟩

/-- A check of a book gives a report exactly when the book's root and every document's path
under it can be made real and every web URL among its links can be normalised. -/
theorem run_report_iff_paths_real_and_urls_normalise (c : BookCheck) (docs : List Document)
    (s : Session) :
    (∃ r, ((c.run docs).run s).1 = .ok r) ↔
      c.PathsReal docs ∧ ∀ doc ∈ docs, ∀ o ∈ scan doc, c.WebUrlNormalises doc o := by
  simp only [run_eq_ok_iff, exists_and_left, prepare_ok_iff, checkLinks_ok_iff_gather_ok,
    gather_ok_iff]

/-- A check of a book under the default settings, on an empty volume. -/
def plainCheck : BookCheck := ⟨{}, default, ⟨default, "", false, ""⟩⟩

/-- A link to `http://[x`, whose bracketed host is never closed, stops the check of a book
under the default settings: no report comes out. -/
theorem run_stops_at_unclosed_host_bracket :
    ¬ ∃ r, ((plainCheck.run [Document.make "a.md" "[x](http://[x)"]).run default).1 = .ok r := by
  simp only [run_eq_ok_iff, exists_and_left, checkLinks_ok_iff_gather_ok, gather_ok_iff]
  rintro ⟨-, h⟩
  have hscan : scan (Document.make "a.md" "[x](http://[x)") =
      [⟨.inline, "http://[x", none, 0, 14, 4, 13⟩] := by decide +kernel
  have hclass : Link.classify "http://[x" = .ok (.web "http://[x") := by
    have hopt : (Link.classify "http://[x").toOption = some (.web "http://[x") := by
      decide +kernel
    revert hopt
    cases Link.classify "http://[x" <;> simp [Except.toOption]
  have hnorm : (Url.normalize "http://[x").toOption = none := by decide +kernel
  obtain ⟨key, hkey⟩ := h _ (List.mem_singleton_self _) ⟨.inline, "http://[x", none, 0, 14, 4, 13⟩
    (by simp [hscan]) "http://[x" (by simp [checkHere, plainCheck, hclass, Config.Settings.shouldSkip])
  simp [hkey, Except.toOption] at hnorm

end BookLinks.BookCheck
