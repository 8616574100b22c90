import BookLinks.Proofs.Markdown.Placement
/-!
# Which overlaps the scanner rules out

The bracket pass looks at the brackets of the masked text from left to right and passes over
a bracket that stands inside a destination it has recorded, on the line of a registered
definition, or that a reference took as its second bracket; the autolink pass drops an
autolink that lies wholly inside a recorded destination. Those are the only guards. The main
statement says what they give for every text: a link found at a bracket never starts inside
the destination or title of an inline link or image, nor on the line of a registered
definition, and no autolink lies wholly inside the destination or title of an inline link or
image.

Nothing else keeps links apart: a bracket inside an autolink, or inside the label of a
reference, still gives a link, and two inline links can overlap without nesting.
-/
namespace BookLinks.Markdown

open BookLinks.Text BookLinks.Book

/-! ### Passing over a bracket -/

theorem passesOver_eq_false {st : ScanState} {defs : List Definition} {s : Nat}
    (h : st.passesOver defs s = false) :
    (∀ d ∈ defs, ¬ (d.start ≤ s ∧ s < d.stop)) ∧
      ∀ dst ∈ st.destinations, ¬ (dst.1 ≤ s ∧ s < dst.2) := by
  simp only [ScanState.passesOver, Bool.or_eq_false_iff, List.any_eq_false,
    decide_eq_true_eq] at h
  exact ⟨h.1.2, h.2⟩

theorem constructStart_cases (masked : Array Char) (s : Nat) :
    constructStart masked s = s ∨
      (constructStart masked s + 1 = s ∧ masked[constructStart masked s]? = some '!') := by
  unfold constructStart
  cases himg : opensImage masked s with
  | false => exact .inl rfl
  | true =>
    simp only [opensImage, Bool.and_eq_true, decide_eq_true_eq, beq_iff_eq] at himg
    obtain ⟨⟨hpos, hbang⟩, -⟩ := himg
    exact .inr ⟨by simp only [↓reduceIte]; omega, by simpa using hbang⟩

theorem BracketLink.start_eq {text masked : Array Char} {defs : List Definition} {s : Nat}
    {o : Occurrence} (hl : BracketLink text masked defs s o) :
    o.start = constructStart masked s := by
  cases hl <;> rfl

theorem BracketLink.destination {text masked : Array Char} {defs : List Definition} {s : Nat}
    {o : Occurrence} (hl : BracketLink text masked defs s o)
    (hk : o.kind = .inline ∨ o.kind = .image) :
    s < o.hrefStart ∧ masked[o.stop - 1]? = some ')' := by
  cases hl with
  | withDestination close d hclose hparse =>
    obtain ⟨hle, -⟩ := matchingBracket_spec hclose
    obtain ⟨hafter, hds, -, hparen⟩ := parseDestination_spec hparse
    obtain ⟨h₁, -, -⟩ := linkOccurrence_dest_bounds text (bracketKind masked s) d.start d.stop
      (constructStart masked s) d.stop' d.title hds
    exact ⟨by omega, hparen⟩
  | reference => simp at hk
  | incomplete => simp at hk

/-! ### What the bracket pass keeps -/

/-- What the bracket pass keeps true of the links it has found before the bracket `next`:
they start before it; an inline link or image ends with `)` and has recorded the range of
its destination and title; no link starts inside the destination or title of an inline link
or image, nor on the line of a definition. -/
structure ScanGuard (masked : Array Char) (defs : List Definition) (next : Nat)
    (st : ScanState) : Prop where
  before : ∀ o ∈ st.found, o.start < next
  recorded : ∀ o ∈ st.found, o.kind = .inline ∨ o.kind = .image →
    masked[o.stop - 1]? = some ')' ∧ ∃ a ≤ o.hrefStart, (a, o.stop) ∈ st.destinations
  apart : ∀ o₁ ∈ st.found, ∀ o₂ ∈ st.found, o₁.kind = .inline ∨ o₁.kind = .image →
    ¬ (o₁.hrefStart ≤ o₂.start ∧ o₂.start < o₁.stop)
  offDefinitions : ∀ o ∈ st.found, ∀ d ∈ defs, ¬ (d.start ≤ o.start ∧ o.start < d.stop)

theorem ScanGuard.init (masked : Array Char) (defs : List Definition) :
    ScanGuard masked defs 0 {} :=
  ⟨nofun, nofun, nofun, nofun⟩

section Step

variable {text masked : Array Char} {defs : List Definition} {next s : Nat} {st : ScanState}

theorem start_outside_destinations {o : Occurrence}
    (hl : BracketLink text masked defs s o) (hpass : st.passesOver defs s = false)
    {o₁ : Occurrence} {a : Nat} (hparen : masked[o₁.stop - 1]? = some ')')
    (ha : (a, o₁.stop) ∈ st.destinations) (hle : a ≤ o₁.hrefStart) :
    ¬ (o₁.hrefStart ≤ o.start ∧ o.start < o₁.stop) := by
  rintro ⟨h₁, h₂⟩
  have hs := (passesOver_eq_false hpass).2 _ ha
  rw [hl.start_eq] at h₁ h₂
  rcases constructStart_cases masked s with heq | ⟨hstep, hbang⟩
  · rw [heq] at h₁ h₂
    exact hs ⟨by omega, h₂⟩
  · -- the bracket right after the `!` lies past the destination, so the `!` is its `)`
    have hstop : constructStart masked s = o₁.stop - 1 := by
      have : ¬ (a ≤ s ∧ s < o₁.stop) := hs
      omega
    rw [hstop, hparen] at hbang
    cases hbang

/-- A link found at a bracket that is not passed over starts on no definition's line: the
bracket does not, and an image's `!` cannot end a line whose next character is the
bracket. -/
theorem start_off_definitions {o : Occurrence}
    (hl : BracketLink text masked defs s o) (hpass : st.passesOver defs s = false)
    (hs : masked[s]? = some '[') (hdefs : ∀ d ∈ defs, masked[d.stop]? ≠ some '[') :
    ∀ d ∈ defs, ¬ (d.start ≤ o.start ∧ o.start < d.stop) := by
  rintro d hd ⟨h₁, h₂⟩
  have hoff := (passesOver_eq_false hpass).1 d hd
  rw [hl.start_eq] at h₁ h₂
  rcases constructStart_cases masked s with heq | ⟨hstep, -⟩
  · rw [heq] at h₁ h₂
    exact hoff ⟨h₁, h₂⟩
  · have hstop : s = d.stop := by omega
    exact hdefs d hd (hstop ▸ hs)

theorem ScanGuard.step (hg : ScanGuard masked defs next st) (hnext : next ≤ s)
    (hs : masked[s]? = some '[') (hdefs : ∀ d ∈ defs, masked[d.stop]? ≠ some '[') :
    ScanGuard masked defs (s + 1) (scanBracket text masked defs st s) := by
  obtain ⟨hsub, hcase⟩ := scanBracket_found text masked defs st s
  rcases hcase with hf | ⟨hpass, o, hl, hf, hrec⟩
  · -- nothing found: only the destinations may grow
    refine ⟨fun o ho => ?_, fun o ho hk => ?_, fun o₁ ho₁ o₂ ho₂ hk => ?_, fun o ho => ?_⟩
      <;> rw [hf] at *
    · have := hg.before o ho
      omega
    · exact (hg.recorded o ho hk).imp_right fun ⟨a, ha, hmem⟩ => ⟨a, ha, hsub hmem⟩
    · exact hg.apart o₁ ho₁ o₂ ho₂ hk
    · exact hg.offDefinitions o ho
  · -- one link `o` found at `s`, which every earlier link starts before
    have hstart : o.start ≤ s := hl.start_eq ▸ constructStart_le masked s
    refine ⟨fun o' ho' => ?_, fun o' ho' hk => ?_, fun o₁ ho₁ o₂ ho₂ hk => ?_, fun o' ho' => ?_⟩
      <;> simp only [hf, List.mem_append, List.mem_singleton] at *
    · rcases ho' with ho' | rfl
      · have := hg.before o' ho'
        omega
      · omega
    · rcases ho' with ho' | rfl
      · exact (hg.recorded o' ho' hk).imp_right fun ⟨a, ha, hmem⟩ => ⟨a, ha, hsub hmem⟩
      · exact ⟨(hl.destination hk).2, hrec hk⟩
    · rcases ho₁ with ho₁ | rfl <;> rcases ho₂ with ho₂ | rfl
      · exact hg.apart o₁ ho₁ o₂ ho₂ hk
      · -- an earlier link's destination: the bracket was not passed over
        obtain ⟨hparen, a, ha, hmem⟩ := hg.recorded o₁ ho₁ hk
        exact start_outside_destinations hl hpass hparen hmem ha
      · -- the new link's destination comes after every earlier start
        have := (hl.destination hk).1
        have := hg.before o₂ ho₂
        omega
      · have := (hl.destination hk).1
        omega
    · rcases ho' with ho' | rfl
      · exact hg.offDefinitions o' ho'
      · exact start_off_definitions hl hpass hs hdefs

end Step

theorem ScanGuard.foldl {text masked : Array Char} {defs : List Definition}
    (hdefs : ∀ d ∈ defs, masked[d.stop]? ≠ some '[') :
    ∀ (brackets : List Nat) (st : ScanState) (next : Nat), brackets.Pairwise (· < ·) →
      (∀ s ∈ brackets, next ≤ s ∧ masked[s]? = some '[') → ScanGuard masked defs next st →
      ∃ n, ScanGuard masked defs n (brackets.foldl (scanBracket text masked defs) st)
  | [], st, next, _, _, hg => ⟨next, hg⟩
  | s :: rest, st, next, hsorted, hbr, hg => by
    obtain ⟨hnext, hs⟩ := hbr s List.mem_cons_self
    have hrest := List.pairwise_cons.1 hsorted
    exact ScanGuard.foldl hdefs rest _ (s + 1) hrest.2
      (fun s' hs' => ⟨hrest.1 s' hs', (hbr s' (List.mem_cons_of_mem s hs')).2⟩)
      (hg.step hnext hs hdefs)

theorem collectDefinitions_stop {t : Array Char} {d : Definition} (hd : d ∈ collectDefinitions t) :
    t[d.stop]? ≠ some '[' := by
  obtain ⟨m, hm, rfl⟩ := mem_collectDefinitions hd
  have hend := definitionAt_lineEnds (definitionAt_of_mem_definitionMatchesFrom hm)
  simp only [lineEndsAt, Bool.or_eq_true, decide_eq_true_eq, beq_iff_eq] at hend
  simp only [DefinitionMatch.toDefinition]
  rcases hend with hend | hend
  · simp [Array.getElem?_eq_none hend]
  · simp [hend]

theorem scanBrackets_guard (text masked : Array Char) :
    ∃ n, ScanGuard masked (collectDefinitions masked) n
      (scanBrackets text masked (collectDefinitions masked)) := by
  refine ScanGuard.foldl (fun d hd => collectDefinitions_stop hd) _ _ 0 ?_ ?_
    (ScanGuard.init masked _)
  · exact List.pairwise_lt_range.filter _
  · intro s hs
    simp only [openBrackets, List.mem_filter, Bool.and_eq_true, beq_iff_eq] at hs
    exact ⟨Nat.zero_le s, hs.2.1⟩

/-! ### The scanner's list -/

theorem BracketLink.kind_ne_autolink {text masked : Array Char} {defs : List Definition}
    {s : Nat} {o : Occurrence} (hl : BracketLink text masked defs s o) : o.kind ≠ .autolink := by
  cases hl with
  | withDestination =>
    simp only [linkOccurrence_kind, bracketKind]
    split <;> simp
  | reference => simp
  | incomplete => simp

theorem mem_scanBrackets_of_ne_autolink {text : Array Char} {o : Occurrence}
    (h : o ∈ scanText text) (hk : o.kind ≠ .autolink) :
    o ∈ (scanBrackets text (mask text.toList).text
      (collectDefinitions (mask text.toList).text)).found := by
  rcases mem_scanText_sources h with h | ⟨r, -, -, rfl⟩
  · exact h
  · simp at hk

/-- The overlaps that the scanner rules out: a link found at a bracket never starts inside
the destination or title of an inline link or image, nor on the line of a registered
definition; and no autolink lies wholly inside the destination or title of an inline link
or image. -/
theorem scan_overlaps_guarded (d : Document) :
    (∀ o₁ ∈ scan d, ∀ o₂ ∈ scan d, o₁.kind = .inline ∨ o₁.kind = .image →
      o₂.kind ≠ .autolink → ¬ (o₁.hrefStart ≤ o₂.start ∧ o₂.start < o₁.stop)) ∧
    (∀ o₁ ∈ scan d, ∀ o₂ ∈ scan d, o₁.kind = .inline ∨ o₁.kind = .image →
      o₂.kind = .autolink → ¬ (o₁.hrefStart ≤ o₂.start ∧ o₂.stop ≤ o₁.stop)) ∧
    (∀ o ∈ scan d, o.kind ≠ .autolink → ∀ e ∈ collectDefinitions (mask d.chars.toList).text,
      ¬ (e.start ≤ o.start ∧ o.start < e.stop)) := by
  obtain ⟨n, hg⟩ := scanBrackets_guard d.chars (mask d.chars.toList).text
  have hbr : ∀ o ∈ scan d, o.kind = .inline ∨ o.kind = .image → o ∈ _ :=
    fun o ho hk => mem_scanBrackets_of_ne_autolink ho (by rcases hk with hk | hk <;> simp [hk])
  refine ⟨fun o₁ ho₁ o₂ ho₂ hk₁ hk₂ => ?_, fun o₁ ho₁ o₂ ho₂ hk₁ hk₂ => ?_,
    fun o ho hk => hg.offDefinitions o (mem_scanBrackets_of_ne_autolink ho hk)⟩
  · exact hg.apart o₁ (hbr o₁ ho₁ hk₁) o₂ (mem_scanBrackets_of_ne_autolink ho₂ hk₂) hk₁
  · -- an autolink wholly inside a recorded destination is dropped
    rcases mem_scanText_sources ho₂ with ho₂ | ⟨r, -, hfree, rfl⟩
    · obtain h | ⟨s, -, hl⟩ := mem_foldl_scanBracket _ _ ho₂
      · cases h
      · exact absurd hk₂ hl.kind_ne_autolink
    · obtain ⟨-, a, ha, hmem⟩ := hg.recorded o₁ (hbr o₁ ho₁ hk₁) hk₁
      rintro ⟨h₁, h₂⟩
      exact hfree _ hmem ⟨by simp at h₁; omega, by simpa using h₂⟩

/-- Two inline links that cross stay apart as far as the guard goes: in the text below the
second link starts inside the text of the first and ends after it, and neither starts inside
the other's destination. -/
theorem scan_crossing_links_start_apart :
    (⟨.inline, "d", none, 0, 12, 10, 11⟩ : Occurrence) ∈
        scan (Document.make "a.md" "[a [b](c](d)e)") ∧
      (⟨.inline, "c](d)e", none, 3, 14, 7, 13⟩ : Occurrence) ∈
        scan (Document.make "a.md" "[a [b](c](d)e)") ∧
      ((⟨.inline, "d", none, 0, 12, 10, 11⟩ : Occurrence).kind = .inline ∨
        (⟨.inline, "d", none, 0, 12, 10, 11⟩ : Occurrence).kind = .image) ∧
      (⟨.inline, "c](d)e", none, 3, 14, 7, 13⟩ : Occurrence).kind ≠ .autolink ∧
      ¬ ((⟨.inline, "d", none, 0, 12, 10, 11⟩ : Occurrence).hrefStart ≤
          (⟨.inline, "c](d)e", none, 3, 14, 7, 13⟩ : Occurrence).start ∧
        (⟨.inline, "c](d)e", none, 3, 14, 7, 13⟩ : Occurrence).start <
          (⟨.inline, "d", none, 0, 12, 10, 11⟩ : Occurrence).stop) :=
  have h₁ : (⟨.inline, "d", none, 0, 12, 10, 11⟩ : Occurrence) ∈
      scan (Document.make "a.md" "[a [b](c](d)e)") := mem_scan_iff.2 (by decide +kernel)
  have h₂ : (⟨.inline, "c](d)e", none, 3, 14, 7, 13⟩ : Occurrence) ∈
      scan (Document.make "a.md" "[a [b](c](d)e)") := mem_scan_iff.2 (by decide +kernel)
  ⟨h₁, h₂, .inl rfl, nofun, (scan_overlaps_guarded _).1 _ h₁ _ h₂ (.inl rfl) nofun⟩

/-- A bracket inside an autolink still gives a link: in `<http://x/[a](b)>` the inline link
`[a](b)` starts and ends inside the autolink. -/
theorem scan_reports_link_inside_autolink :
    ∃ o₁ ∈ scan (Document.make "a.md" "<http://x/[a](b)>"),
      ∃ o₂ ∈ scan (Document.make "a.md" "<http://x/[a](b)>"),
        o₁.kind = .autolink ∧ o₂.kind = .inline ∧ o₁.start < o₂.start ∧ o₂.stop < o₁.stop := by
  refine ⟨⟨.autolink, "http://x/[a](b)", none, 0, 17, 1, 16⟩, mem_scan_iff.2 (by decide +kernel),
    ⟨.inline, "b", none, 10, 16, 14, 15⟩, mem_scan_iff.2 (by decide +kernel), rfl, rfl,
    by decide, by decide⟩

end BookLinks.Markdown
