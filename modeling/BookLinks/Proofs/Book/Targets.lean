import BookLinks.Book.Resolve
import BookLinks.Proofs.Link.Reserialise
import BookLinks.Proofs.Fs.Relative
import Mathlib
/-!
# What a file link is accepted as

A file link is checked in two stages. Its written path is made real and compared with the book
root; then a file is looked for at that place: the place itself, the Markdown page beside an
HTML name, or an index page of a directory. Only the first stage is compared with the root. The
second accepts whatever file the volume finds there with links followed, so a Markdown page or
an index page that is a link may lead out of the book (`check_accepts_page_linked_outside_root`).

What does hold is `check_accepts_target_within_root`: a link that checks as valid, or as a link
written from the root, has a real target inside the root, is accepted as a file at one of those
three places, and its fragment, when one is checked, names an anchor of that file.

A link written from the root draws a warning that suggests its relative form. The suggestion is
the relative path with the fragment appended as it is, and is not escaped as a written link is:
a name with a colon makes it read as a web link (`check_suggests_href_read_as_web_link`). For
names of plain characters, following the suggestion keeps the link's target and fragment
(`check_suggestion_keeps_target`).
-/
namespace BookLinks.Book

open BookLinks.Fs

/-! ### Resolving and finding -/

/-- The places a file is looked for when a link leads to `path`: the place itself, the Markdown
page of an HTML name, and the index pages of a directory. -/
inductive StandsFor (v : Volume) (path : String) : String → Prop
  | self : StandsFor v path path
  | page : lowerSuffix path = ".html" → StandsFor v path (withSuffix path ".md")
  | index {n : String} : v.isDir path = true → n ∈ indexNames → StandsFor v path (join path n)

theorem existingFile_spec {v : Volume} {path found : String}
    (h : existingFile v path = some found) : v.isFile found = true ∧ StandsFor v path found := by
  unfold existingFile at h
  split_ifs at h with hfile hpage hdir
  · cases h
    exact ⟨hfile, .self⟩
  · cases h
    simp only [Bool.and_eq_true, beq_iff_eq] at hpage
    exact ⟨hpage.2, .page hpage.1⟩
  · obtain ⟨n, hn, rfl⟩ := List.mem_map.1 (List.mem_of_find?_eq_some h)
    exact ⟨List.find?_some h, .index hdir hn⟩

theorem resolveTarget_eq_ok {v : Volume} {root docDir raw : String} {t : Target}
    (h : resolveTarget v root docDir raw = .ok t) :
    v.realPath (normalize (if (linkPath raw).startsWith "/" then
        join root (String.ofList ((linkPath raw).toList.dropWhile (· == '/')))
      else join (join root docDir) (linkPath raw))) = .ok t.path ∧
      t.outsideRoot = !isWithin t.path root ∧ t.absoluteLink = (linkPath raw).startsWith "/" := by
  unfold resolveTarget at h
  cases hr : v.realPath _ with
  | error e => simp only [hr, bind, Except.bind, reduceCtorEq] at h
  | ok real =>
    simp only [hr, bind, Except.bind, pure, Except.pure, Except.ok.injEq] at h
    subst h
    exact ⟨rfl, rfl, rfl⟩

theorem checkFragment_cases (f : String) (anchors : List String) :
    Markdown.checkFragment f anchors = Outcome.valid ∨
      Markdown.checkFragment f anchors = Outcome.error "anchor not found" := by
  unfold Markdown.checkFragment
  split_ifs <;> simp

/-! ### What a checked link is accepted as -/

/-- How a check ends: on an outcome that is neither valid nor the warning for a link written from
the root, or with the target's real path resolved, not refused for leaving the book, a file found
for it, the fragment found there when it is checked, and the outcome valid or that warning with
the suggestion of the relative form. -/
theorem check_ok_cases {c : FileCheck} {raw : String} {fragment : Option String}
    {doc : Document} {o : Outcome} (h : c.check raw fragment doc = .ok o) :
    (o.status ≠ .valid ∧ o.reason ≠ "absolute link should be made relative") ∨
    ∃ t found, resolveTarget c.volume c.root doc.directory raw = .ok t ∧
      (t.outsideRoot && !c.traverse) = false ∧ existingFile c.volume t.path = some found ∧
      (∀ f, fragment = some f → f ≠ "" → lowerSuffix found = ".md" →
        (Markdown.checkFragment f (c.anchorsAt found)).isValid = true) ∧
      o = if t.absoluteLink then
          Outcome.warning "absolute link should be made relative"
            ((Link.relativeHref c.cwd doc.path raw fragment).toList.map fun s =>
              "Suggestion: change the link to \"" ++ s ++ "\"")
        else Outcome.valid := by
  unfold FileCheck.check at h
  split at h
  · -- an empty link only draws a warning of its own
    cases h
    left
    simp [Outcome.warning]
  · split at h
    · cases h
      left
      simp [Outcome.error]
    · cases h
    · next t ht =>
      split at h
      · cases h
        left
        simp [Outcome.error]
      · next hleave =>
        split at h
        · cases h
          left
          simp [Outcome.error]
        · next found hfound =>
          have hkept : (t.outsideRoot && !c.traverse) = false := by simpa using hleave
          split at h
          · next f _ =>
            by_cases hchk : (!f.isEmpty && lowerSuffix found == ".md") = true ∧
                (Markdown.checkFragment f (c.anchorsAt found)).isValid = false
            · -- a fragment that is checked and not found ends the check with its own error
              simp only [hchk, ↓reduceIte, Bool.false_eq_true, Except.ok.injEq] at h
              subst h
              left
              rcases checkFragment_cases f (c.anchorsAt found) with hc | hc <;> rw [hc] at hchk ⊢
              · simp [Outcome.valid, Outcome.isValid] at hchk
              · simp [Outcome.error]
            · right
              have hvalid : ∀ f', some f = some f' → f' ≠ "" → lowerSuffix found = ".md" →
                  (Markdown.checkFragment f' (c.anchorsAt found)).isValid = true := by
                rintro f' ⟨⟩ hne hmd
                simpa [hne, hmd] using hchk
              refine ⟨t, found, ht, hkept, hfound, hvalid, ?_⟩
              have hgo : (!f.isEmpty && lowerSuffix found == ".md") = true →
                  (Markdown.checkFragment f (c.anchorsAt found)).isValid = true := fun hc => by
                simpa [hc] using hchk
              cases hr : Link.relativeHref c.cwd doc.path raw (some f) <;>
                by_cases hc : (!f.isEmpty && lowerSuffix found == ".md") = true <;>
                simp only [hr, hc, hgo, ↓reduceIte, Bool.false_eq_true] at h <;>
                split at h <;> rename_i habs <;> cases h <;> simp [habs]
          · next =>
            right
            refine ⟨t, found, ht, hkept, hfound, fun f hf => (by cases hf), ?_⟩
            cases hr : Link.relativeHref c.cwd doc.path raw none <;>
              simp only [hr] at h <;>
              split at h <;> rename_i habs <;> cases h <;> simp [habs]

/-- A file link that checks as valid, or as a link written from the root, with links kept
within the book: its real target lies within the root, it is accepted as a file at one of the
places the target stands for, and its fragment, when one is checked, names an anchor of that
file. -/
theorem check_accepts_target_within_root (c : FileCheck) (raw : String)
    (fragment : Option String) (doc : Document) (o : Outcome) (htrav : c.traverse = false)
    (h : c.check raw fragment doc = .ok o)
    (ho : o.status = .valid ∨ o.reason = "absolute link should be made relative") :
    ∃ t found, resolveTarget c.volume c.root doc.directory raw = .ok t ∧
      isWithin t.path c.root = true ∧ existingFile c.volume t.path = some found ∧
      c.volume.isFile found = true ∧ StandsFor c.volume t.path found ∧
      ∀ f, fragment = some f → f ≠ "" → lowerSuffix found = ".md" →
        (Markdown.checkFragment f (c.anchorsAt found)).isValid = true := by
  rcases check_ok_cases h with ⟨hs, hr⟩ | ⟨t, found, ht, hkept, hfound, hfrag, -⟩
  · -- no other outcome is valid or the warning for a link written from the root
    rcases ho with ho | ho
    · exact absurd ho hs
    · exact absurd ho hr
  · obtain ⟨-, hout, -⟩ := resolveTarget_eq_ok ht
    obtain ⟨hfile, hstands⟩ := existingFile_spec hfound
    have hwithin : isWithin t.path c.root = true := by simpa [htrav, hout] using hkept
    exact ⟨t, found, ht, hwithin, hfound, hfile, hstands, hfrag⟩

/-- A link from `x.md` to the heading of the page `a.md` beside it is accepted as that page. -/
theorem check_accepts_heading_of_page :
    ∃ t found, resolveTarget ⟨[(["b"], .dir), (["b", "a.md"], .file [35, 32, 65])]⟩ "/b" ""
        "a.md" = .ok t ∧
      isWithin t.path "/b" = true ∧
      existingFile ⟨[(["b"], .dir), (["b", "a.md"], .file [35, 32, 65])]⟩ t.path = some found ∧
      Volume.isFile ⟨[(["b"], .dir), (["b", "a.md"], .file [35, 32, 65])]⟩ found = true ∧
      StandsFor ⟨[(["b"], .dir), (["b", "a.md"], .file [35, 32, 65])]⟩ t.path found ∧
      ∀ f, some "a" = some f → f ≠ "" → lowerSuffix found = ".md" →
        (Markdown.checkFragment f (FileCheck.anchorsAt
          ⟨⟨[(["b"], .dir), (["b", "a.md"], .file [35, 32, 65])]⟩, "/b", false, "/"⟩
          found)).isValid = true :=
  check_accepts_target_within_root
    ⟨⟨[(["b"], .dir), (["b", "a.md"], .file [35, 32, 65])]⟩, "/b", false, "/"⟩ "a.md" (some "a")
    (Document.make "x.md" "") Outcome.valid rfl (Link.eq_ok_of_toOption (by decide +kernel))
    (.inl rfl)

/-- A book whose page `page.md` is a link to `secret.md` beside the book: a link to `page.html`
is accepted as that page, and its fragment is found among the anchors of the file outside the
book. -/
theorem check_accepts_page_linked_outside_root :
    (FileCheck.check ⟨⟨[(["outer"], .dir), (["outer", "book"], .dir),
        (["outer", "book", "x.md"], .file []), (["outer", "secret.md"], .file [35, 32, 83, 10]),
        (["outer", "book", "page.md"], .link "../secret.md")]⟩, "/outer/book", false, "/outer"⟩
      "page.html" (some "s") (Document.make "x.md" "")).toOption = some Outcome.valid ∧
    existingFile ⟨[(["outer"], .dir), (["outer", "book"], .dir),
        (["outer", "book", "x.md"], .file []), (["outer", "secret.md"], .file [35, 32, 83, 10]),
        (["outer", "book", "page.md"], .link "../secret.md")]⟩ "/outer/book/page.html" =
      some "/outer/book/page.md" ∧
    (Volume.realPath ⟨[(["outer"], .dir), (["outer", "book"], .dir),
        (["outer", "book", "x.md"], .file []), (["outer", "secret.md"], .file [35, 32, 83, 10]),
        (["outer", "book", "page.md"], .link "../secret.md")]⟩ "/outer/book/page.md").toOption =
      some "/outer/secret.md" ∧
    isWithin "/outer/secret.md" "/outer/book" = false := by
  decide +kernel

/-! ### The suggested relative link -/

/-- A character that a link path keeps in every reading of it: not a fragment or query mark, a
percent escape, a colon, a backslash or a blank. -/
def PlainChar (c : Char) : Prop :=
  c ≠ '#' ∧ c ≠ '%' ∧ c ≠ '?' ∧ c ≠ ':' ∧ c ≠ '\\' ∧ Text.isBlank c = false

instance (c : Char) : Decidable (PlainChar c) := inferInstanceAs (Decidable (_ ∧ _))

structure PlainName (n : String) : Prop extends ProperName n where
  plain : ∀ c ∈ n.toList, PlainChar c

theorem plainName_iff {n : String} : PlainName n ↔ ProperName n ∧ ∀ c ∈ n.toList, PlainChar c :=
  ⟨fun h => ⟨h.toProperName, h.plain⟩, fun h => ⟨h.1, h.2⟩⟩

instance (n : String) : Decidable (PlainName n) := decidable_of_iff _ plainName_iff.symm

theorem plainChar_slash : PlainChar '/' := by decide

theorem plainChar_dot : PlainChar '.' := by decide

/-- A path with its fragment, as a link is written. -/
def withFragment (path : String) (fragment : Option String) : String :=
  (fragment.map fun f => path ++ "#" ++ f).getD path

theorem forall_mem_intercalate {P : Char → Prop} (hsep : P '/') :
    ∀ {ns : List String}, (∀ n ∈ ns, ∀ c ∈ n.toList, P c) →
      ∀ c ∈ ("/".intercalate ns).toList, P c
  | [], _ => by simp
  | [n], h => by simpa using h n (by simp)
  | n :: m :: ns, h => by
    rw [String.intercalate_cons_cons]
    intro c hc
    simp only [String.toList_append, List.mem_append] at hc
    rcases hc with (hc | hc) | hc
    · exact h n (by simp) c hc
    · rw [show "/".toList = ['/'] from rfl, List.mem_singleton] at hc
      rw [hc]
      exact hsep
    · exact forall_mem_intercalate hsep (fun n' hn' => h n' (by simp_all)) c hc

theorem escapeHashes_of_forall_ne : ∀ {l : List Char}, (∀ c ∈ l, c ≠ '#') → Link.escapeHashes l = l
  | [], _ => rfl
  | c :: l, h => by
    rw [Link.escapeHashes_cons_of_ne (h c (by simp)),
      escapeHashes_of_forall_ne (fun d hd => h d (by simp [hd]))]

theorem schemeOf_of_forall_ne {s : String} (h : ∀ c ∈ s.toList, c ≠ ':') : Link.schemeOf s = none := by
  rw [← Option.not_isSome_iff_eq_none, Link.schemeOf_isSome_iff]
  rintro ⟨c, run, rest, hs, -, -, -⟩
  exact h ':' (by simp [hs]) rfl

theorem trim_of_ends {l : List Char} (hhead : ∀ c ∈ l.head?, Text.isBlank c = false)
    (hlast : ∀ c ∈ l.getLast?, Text.isBlank c = false) : Text.trim l = l := by
  have hstart : Text.trimStart l = l := by
    cases l with
    | nil => rfl
    | cons c l => simp [Text.trimStart, hhead c rfl]
  rw [Text.trim, hstart, Text.trimEnd]
  rcases List.eq_nil_or_concat l with rfl | ⟨l', c, rfl⟩
  · rfl
  · simp [hlast c (by simp)]

theorem linkPath_of_plain {s : String} (h : ∀ c ∈ s.toList, PlainChar c) : linkPath s = s := by
  have htake : s.toList.takeWhile (· != '?') = s.toList :=
    List.takeWhile_eq_self_iff.2 fun c hc => by simpa using (h c hc).2.2.1
  rw [linkPath, htake, String.ofList_toList, Url.percentDecode, if_neg]
  simpa using fun hc => (h '%' hc).2.1 rfl

theorem classify_withFragment {rel : String} {fragment : Option String} (hne : rel ≠ "")
    (hp : ∀ c ∈ rel.toList, PlainChar c)
    (hf : ∀ f ∈ fragment, ∀ c ∈ f.toList.getLast?, Text.isBlank c = false) :
    Link.classify (withFragment rel fragment) = .ok (.file rel fragment) := by
  have hesc : Link.escapeHashes rel.toList = rel.toList :=
    escapeHashes_of_forall_ne fun c hc => (hp c hc).1
  have hsch : Link.schemeOf rel = none := schemeOf_of_forall_ne fun c hc => (hp c hc).2.2.2.1
  have hmark : Link.marksPath rel fragment = false := by
    simp [Link.marksPath, hesc, hsch, hne]
  have hhref : (Link.Target.file rel fragment).toHref = withFragment rel fragment := by
    cases fragment <;> simp [Link.Target.toHref, withFragment, hesc, hsch, hne]
  have hrne : rel.toList ≠ [] := mt String.toList_eq_nil_iff.1 hne
  have hhead : ∀ c ∈ rel.toList.head?, Text.isBlank c = false := fun c hc =>
    (hp c (List.mem_of_head? hc)).2.2.2.2.2
  have hw : (Link.Target.file rel fragment).plainlyWritten := by
    unfold Link.Target.plainlyWritten
    rw [hhref]
    cases fragment with
    | none =>
      have hstrip : Text.strip rel = rel := by
        rw [Text.strip, trim_of_ends hhead fun c hc => (hp c (List.mem_of_getLast? hc)).2.2.2.2.2,
          String.ofList_toList]
      simp [withFragment, hstrip]
    | some f =>
      have hlast : ∀ c ∈ (rel ++ "#" ++ f).toList.getLast?, Text.isBlank c = false := by
        intro c hc
        rcases List.eq_nil_or_concat f.toList with hf' | ⟨fs, x, hf'⟩
        · simp [hf'] at hc
          rw [← hc]
          decide
        · rw [List.concat_eq_append] at hf'
          have hx : (rel ++ "#" ++ f).toList.getLast? = some x := by
            rw [String.toList_append, hf', List.getLast?_append_of_ne_nil _ (by simp)]
            simp
          rw [hx, Option.mem_some_iff] at hc
          subst hc
          exact hf f rfl x (by simp [hf'])
      have hstrip : Text.strip (rel ++ "#" ++ f) = rel ++ "#" ++ f := by
        refine (congrArg String.ofList (trim_of_ends ?_ hlast)).trans (String.ofList_toList)
        simpa [List.head?_append_of_ne_nil _ hrne] using hhead
      have hback : rel.toList.getLast? ≠ some '\\' := fun h =>
        (hp '\\' (List.mem_of_getLast? h)).2.2.2.2.1 rfl
      simp [withFragment, hstrip, hback]
  rw [← hhref, Link.classify_toHref_file hw]
  simp [Link.Target.reread, Link.writtenPath, hmark]

theorem directory_of_names {doc : Document} {ds : List String} (hdoc : doc.path = "/".intercalate ds)
    (hne : ds ≠ []) (hds : ∀ n ∈ ds, ProperName n) : doc.directory = "/".intercalate ds.dropLast := by
  unfold Document.directory
  rw [hdoc, parent_intercalate hne hds]
  by_cases hlast : ds.dropLast = []
  · simp [hlast]
  · have hdot := intercalate_ne_dot hlast fun n hn => hds n (List.mem_of_mem_dropLast hn)
    simp [hlast, hdot]

theorem dropWhile_slash_pathOf {p : Char → Bool} (hp : ∀ x, p x = true ↔ x = '/')
    {es : List String} (hene : es ≠ []) (hes : ∀ n ∈ es, Segment n) :
    String.ofList ((pathOf es).toList.dropWhile p) = "/".intercalate es := by
  obtain ⟨c, rest, hrest, hcne⟩ := intercalate_eq_cons hene hes
  rw [toList_pathOf, List.dropWhile_cons_of_pos ((hp '/').2 rfl), hrest,
    List.dropWhile_cons_of_neg (by rwa [hp]), ← hrest, String.ofList_toList]

theorem relativeHref_of_names {cwd : String} {ds es : List String} (hdne : ds ≠ [])
    (hds : ∀ n ∈ ds, Segment n) (hene : es ≠ []) (hes : ∀ n ∈ es, Segment n)
    (fragment : Option String) :
    Link.relativeHref cwd ("/".intercalate ds) (pathOf es) fragment =
      some (withFragment (relative cwd ("/".intercalate es)
        (if ds.dropLast = [] then "." else "/".intercalate ds.dropLast)) fragment) := by
  have hdest := dropWhile_slash_pathOf (p := fun x => decide (x = '/')) (by simp) hene hes
  have hdestne : ("/".intercalate es).isEmpty = false := by
    simpa [String.isEmpty_iff] using (intercalate_eq_empty_iff hes).not.2 hene
  have hstart : (if (dirName ("/".intercalate ds)).isEmpty then "." else dirName ("/".intercalate ds)) =
      if ds.dropLast = [] then "." else "/".intercalate ds.dropLast := by
    rw [dirName_intercalate hdne hds]
    have hiff := intercalate_eq_empty_iff fun n hn => hds n (List.mem_of_mem_dropLast hn)
    by_cases hlast : ds.dropLast = [] <;> simp [hlast, String.isEmpty_iff, hiff]
  unfold Link.relativeHref
  simp only [hdest, hdestne, Bool.false_eq_true, ↓reduceIte, hstart]
  cases fragment <;> simp [withFragment]

theorem resolveTarget_eq_map (v : Volume) (root docDir raw : String) :
    resolveTarget v root docDir raw =
      (v.realPath (normalize (if (linkPath raw).startsWith "/" then
          join root (String.ofList ((linkPath raw).toList.dropWhile (· == '/')))
        else join (join root docDir) (linkPath raw)))).map
        fun real => ⟨real, !isWithin real root, (linkPath raw).startsWith "/"⟩ := by
  unfold resolveTarget
  cases hr : v.realPath (normalize (if (linkPath raw).startsWith "/" then
      join root (String.ofList ((linkPath raw).toList.dropWhile (· == '/')))
    else join (join root docDir) (linkPath raw))) <;>
    simp only [hr, bind, Except.bind, pure, Except.pure, Except.map]

/-- A relative path a link can be written as: not empty, not from the root, and of plain
characters. -/
structure PlainRelative (s : String) : Prop where
  ne_empty : s ≠ ""
  not_rooted : s.startsWith "/" = false
  plain : ∀ c ∈ s.toList, PlainChar c

theorem plainRelative_dot : PlainRelative "." where
  ne_empty := by decide
  not_rooted := by simp [String.startsWith_string_eq_false_iff]
  plain := by simpa using plainChar_dot

theorem plainRelative_intercalate {ns : List String} (hne : ns ≠ []) (hs : ∀ n ∈ ns, Segment n)
    (hp : ∀ n ∈ ns, ∀ c ∈ n.toList, PlainChar c) : PlainRelative ("/".intercalate ns) where
  ne_empty := (intercalate_eq_empty_iff hs).not.2 hne
  not_rooted := startsWith_intercalate hne hs
  plain := forall_mem_intercalate plainChar_slash hp

theorem plainRelative_relative {cs ds es : List String} (hcs : ∀ n ∈ cs, ProperName n)
    (hds : ∀ n ∈ ds, ProperName n) (hene : es ≠ []) (hes : ∀ n ∈ es, PlainName n) :
    PlainRelative (relative (pathOf cs) ("/".intercalate es)
      (if ds = [] then "." else "/".intercalate ds)) := by
  rw [relative_pathOf hcs hds hene fun n hn => (hes n hn).toProperName]
  split
  · exact plainRelative_dot
  · next hsteps =>
    refine plainRelative_intercalate (fun h => hsteps (List.isEmpty_iff.2 h))
      (fun n hn => segment_of_mem_relativeSteps (fun n hn => (hes n hn).toProperName) hn) ?_
    intro n hn
    rcases List.mem_append.1 hn with h | h
    · rw [List.eq_of_mem_replicate h]
      simpa using plainChar_dot
    · exact (hes n (List.mem_of_mem_drop h)).plain

theorem resolveTarget_relative_of_names (v : Volume) {rs cs ds es : List String}
    (hrs : ∀ n ∈ rs, ProperName n) (hcs : ∀ n ∈ cs, ProperName n) (hds : ∀ n ∈ ds, ProperName n)
    (hene : es ≠ []) (hes : ∀ n ∈ es, PlainName n) :
    resolveTarget v (pathOf rs) ("/".intercalate ds)
        (relative (pathOf cs) ("/".intercalate es) (if ds = [] then "." else "/".intercalate ds)) =
      (resolveTarget v (pathOf rs) ("/".intercalate ds) (pathOf es)).map
        fun t => { t with absoluteLink := false } := by
  have hes' : ∀ n ∈ es, ProperName n := fun n hn => (hes n hn).toProperName
  have hall : ∀ n ∈ rs ++ es, ProperName n := List.forall_mem_append.2 ⟨hrs, hes'⟩
  have hrel := plainRelative_relative hcs hds hene hes
  have hrawPlain : ∀ x ∈ (pathOf es).toList, PlainChar x := by
    rw [toList_pathOf]
    rintro x (_ | ⟨_, hx⟩)
    · exact plainChar_slash
    · exact forall_mem_intercalate plainChar_slash (fun n hn => (hes n hn).plain) x hx
  have htarget := normalize_join_relative hrs hcs hds hene hes'
  have hsource : normalize (join (pathOf rs)
      (String.ofList ((pathOf es).toList.dropWhile (· == '/')))) = pathOf (rs ++ es) := by
    rw [dropWhile_slash_pathOf (by simp) hene (ProperName.forall_segment hes'),
      join_pathOf (ProperName.forall_segment hrs) hene (ProperName.forall_segment hes'),
      normalize_pathOf (ProperName.forall_segment hall), foldNames_proper hall]
  rw [resolveTarget_eq_map, resolveTarget_eq_map, linkPath_of_plain hrel.plain,
    linkPath_of_plain hrawPlain, startsWith_pathOf, hrel.not_rooted]
  simp only [if_true, Bool.false_eq_true, if_false, htarget, hsource]
  cases v.realPath (pathOf (rs ++ es)) <;> rfl

/-- Following the suggestion of a check keeps the link's target: in a book whose root, working
directory and document are paths of proper names, a link written from the root to names of plain
characters, with a fragment that ends in no blank, which checks as the warning for a link written
from the root with the suggestion `r`, has `r` read as a file link with the same fragment, which
leads to the same real path and is not written from the root. -/
theorem check_suggestion_keeps_target {c : FileCheck} {doc : Document} {r : String}
    {fragment : Option String} {rs cs ds es : List String}
    (hroot : c.root = pathOf rs) (hrs : ∀ n ∈ rs, ProperName n)
    (hcwd : c.cwd = pathOf cs) (hcs : ∀ n ∈ cs, ProperName n)
    (hdoc : doc.path = "/".intercalate ds) (hdne : ds ≠ []) (hds : ∀ n ∈ ds, ProperName n)
    (hene : es ≠ []) (hes : ∀ n ∈ es, PlainName n)
    (hfrag : ∀ f ∈ fragment, ∀ x ∈ f.toList.getLast?, Text.isBlank x = false)
    (h : c.check (pathOf es) fragment doc = .ok (Outcome.warning
      "absolute link should be made relative" ["Suggestion: change the link to \"" ++ r ++ "\""])) :
    ∃ p, Link.classify r = .ok (.file p fragment) ∧
      resolveTarget c.volume c.root doc.directory p =
        (resolveTarget c.volume c.root doc.directory (pathOf es)).map
          fun t => { t with absoluteLink := false } := by
  have hds' : ∀ n ∈ ds.dropLast, ProperName n := fun n hn => hds n (List.mem_of_mem_dropLast hn)
  have hrel := plainRelative_relative hcs hds' hene hes
  have hr : r = withFragment (relative (pathOf cs) ("/".intercalate es)
      (if ds.dropLast = [] then "." else "/".intercalate ds.dropLast)) fragment := by
    rcases check_ok_cases h with ⟨-, hreason⟩ | ⟨t, found, -, -, -, -, ho⟩
    · exact absurd rfl hreason
    · rw [hcwd, hdoc, relativeHref_of_names hdne (ProperName.forall_segment hds) hene
        (fun n hn => (hes n hn).segment)] at ho
      split at ho
      · simp only [Outcome.warning, Option.toList_some, List.map_cons, List.map_nil,
          Outcome.mk.injEq, List.cons.injEq, and_true, true_and] at ho
        exact (String.append_right_inj _).1 ((String.append_left_inj _).1 ho)
      · simp [Outcome.warning, Outcome.valid] at ho
  refine ⟨_, hr ▸ classify_withFragment hrel.ne_empty hrel.plain hfrag, ?_⟩
  rw [hroot, directory_of_names hdoc hdne hds]
  exact resolveTarget_relative_of_names c.volume hrs hcs hds' hene hes

/-- A link from `sub/x.md` to the heading of the page `a.md` at the root, written from the root:
the suggestion `../a.md#h` reads as a file link to the same page. -/
theorem check_suggests_parent_of_subdirectory :
    ∃ p, Link.classify "../a.md#h" = .ok (.file p (some "h")) ∧
      resolveTarget ⟨[(["outer"], .dir), (["outer", "book"], .dir), (["outer", "book", "sub"], .dir),
          (["outer", "book", "sub", "x.md"], .file []), (["outer", "book", "a.md"], .file [35, 32, 72])]⟩
          "/outer/book" (Document.make "sub/x.md" "").directory p =
        (resolveTarget ⟨[(["outer"], .dir), (["outer", "book"], .dir), (["outer", "book", "sub"], .dir),
          (["outer", "book", "sub", "x.md"], .file []), (["outer", "book", "a.md"], .file [35, 32, 72])]⟩
          "/outer/book" (Document.make "sub/x.md" "").directory (pathOf ["a.md"])).map
          fun t => { t with absoluteLink := false } :=
  check_suggestion_keeps_target
    (c := ⟨⟨[(["outer"], .dir), (["outer", "book"], .dir), (["outer", "book", "sub"], .dir),
      (["outer", "book", "sub", "x.md"], .file []), (["outer", "book", "a.md"], .file [35, 32, 72])]⟩,
      "/outer/book", false, "/outer"⟩)
    (show _ = pathOf ["outer", "book"] from rfl) (by decide)
    (show _ = pathOf ["outer"] from rfl) (by decide)
    (show _ = "/".intercalate ["sub", "x.md"] from rfl) (by decide)
    (by decide) (by decide) (by simp [plainName_iff, properName_iff, PlainChar, Text.isBlank])
    (by simp [Text.isBlank]) (Link.eq_ok_of_toOption (by decide +kernel))

/-- A book with the page `ab:c.md`, linked from the root: the suggested relative link reads as a
web link with the scheme `ab`. -/
theorem check_suggests_href_read_as_web_link :
    (FileCheck.check ⟨⟨[(["outer"], .dir), (["outer", "book"], .dir),
        (["outer", "book", "x.md"], .file []), (["outer", "book", "ab:c.md"], .file [])]⟩,
        "/outer/book", false, "/outer"⟩ "/ab:c.md" none (Document.make "x.md" "")).toOption =
      some (Outcome.warning "absolute link should be made relative"
        ["Suggestion: change the link to \"ab:c.md\""]) ∧
    (Link.classify "ab:c.md").toOption = some (.web "ab:c.md") := by
  decide +kernel

end BookLinks.Book
