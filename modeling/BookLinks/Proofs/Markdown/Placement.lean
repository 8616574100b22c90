import BookLinks.Proofs.Markdown.Brackets
import BookLinks.Proofs.Markdown.Masking
/-!
# Where the links of a text stand

The scanner finds links in the masked text and reads their destinations from the document.
Every link it reports opens as its kind says, with `<`, `[` or `![`, at characters that
masking kept, so outside every masked region; a link found at a bracket opens at a
delimiter that no backslash escapes. The destination of an inline link, an image or an
autolink lies strictly inside the construct, and the link's target is the unescaped text of
the destination; the destination of a reference lies within a definition line. The links
come ordered by where they start, then by where their destination starts.

An autolink is the exception to the escapes: nothing looks at what stands before its `<`.
-/
namespace BookLinks.Markdown

open BookLinks.Text BookLinks.Book

/-! ### What the scanner reads of the masked text -/

section Masked

variable (text : Array Char)

theorem mask_size : (mask text.toList).text.size = text.size := by
  have h := (mask_step text.toList).length_eq
  simpa using h

theorem kept_of_mask {i : Nat} {c : Char} (h : (mask text.toList).text[i]? = some c)
    (hc : isBlank c = false) :
    text[i]? = some c ∧ isEscaped text i = isEscaped (mask text.toList).text i ∧
      ∀ r ∈ (mask text.toList).regions, ¬ (r.start ≤ i ∧ i < r.stop) := by
  have hstep := mask_step text.toList
  have hm : (mask text.toList).text.toList[i]? = some c := by simpa using h
  have hi : i < text.toList.length := by
    rw [← hstep.length_eq]
    exact (List.getElem?_eq_some_iff.1 hm).1
  have hkeep := hstep.keeps i _ c (List.getElem?_eq_getElem hi) hm
  have heq : c = text.toList[i] := hkeep.eq_of_not_isBlank hc
  have ht : text.toList[i]? = some c := by rw [heq]; exact List.getElem?_eq_getElem hi
  refine ⟨by simpa using ht, ?_, ?_⟩
  · -- the backslashes before `i` are the same run in both texts
    have hrun := hstep.backslashes_before ht hm (blankChar_ne_of_not_isBlank hc)
    simp only [isEscaped, charsIn, Array.toList_extract, List.extract_eq_take_drop,
      List.drop_zero, Nat.sub_zero, hrun]
  · rintro r hr ⟨h₁, h₂⟩
    have := hstep.blank r hr i c h₁ h₂ hm
    rw [hc] at this
    cases this

end Masked

/-! ### The link of a destination -/

section Destination

variable (text : Array Char) (kind : LinkKind) (ds de start stop : Nat) (title : Option String)

@[simp] theorem linkOccurrence_kind : (linkOccurrence text kind ds de start stop title).kind = kind :=
  rfl

@[simp] theorem linkOccurrence_start :
    (linkOccurrence text kind ds de start stop title).start = start := rfl

@[simp] theorem linkOccurrence_stop :
    (linkOccurrence text kind ds de start stop title).stop = stop := rfl

theorem linkOccurrence_href :
    (linkOccurrence text kind ds de start stop title).href =
      String.ofList (unescapeHref (charsIn text (linkOccurrence text kind ds de start stop title).hrefStart
        (linkOccurrence text kind ds de start stop title).hrefStop)) := rfl

theorem linkOccurrence_dest_bounds (h : ds ≤ de) :
    ds ≤ (linkOccurrence text kind ds de start stop title).hrefStart ∧
      (linkOccurrence text kind ds de start stop title).hrefStart ≤
        (linkOccurrence text kind ds de start stop title).hrefStop ∧
      (linkOccurrence text kind ds de start stop title).hrefStop ≤ de :=
  stripAngles_bounds text h

end Destination

/-! ### Where a link stands -/

/-- The delimiter that opens a link of kind `kind` at `start`: `<` for an autolink, `![`
for an image, `[` for an inline link, and `[` or `![` for a reference. -/
def OpensAs (text : Array Char) : LinkKind → Nat → Prop
  | .autolink, start => text[start]? = some '<'
  | .image, start => text[start]? = some '!' ∧ text[start + 1]? = some '['
  | .inline, start => text[start]? = some '['
  | .reference, start | .incomplete, start =>
    text[start]? = some '[' ∨ (text[start]? = some '!' ∧ text[start + 1]? = some '[')

/-- Where a link reported for a text stands. It opens as its kind says, outside every
masked region; a link found at a bracket opens at a delimiter that no backslash escapes.
The destination of an inline link, an image or an autolink lies strictly inside the
construct; the target of every link but an incomplete one is the unescaped text of its
destination; and the destination of a reference lies within a definition line. -/
structure WellPlaced (text : Array Char) (o : Occurrence) : Prop where
  opens : OpensAs text o.kind o.start
  unescaped : o.kind ≠ .autolink → isEscaped text o.start = false
  unmasked : ∀ r ∈ (mask text.toList).regions, ¬ (r.start ≤ o.start ∧ o.start < r.stop)
  inside : o.kind = .inline ∨ o.kind = .image ∨ o.kind = .autolink →
    o.start < o.hrefStart ∧ o.hrefStart ≤ o.hrefStop ∧ o.hrefStop < o.stop
  href : o.kind ≠ .incomplete →
    o.href = String.ofList (unescapeHref (charsIn text o.hrefStart o.hrefStop))
  definition : o.kind = .reference →
    ∃ m ∈ definitionMatchesFrom (mask text.toList).text ((mask text.toList).text.size + 1) 0,
      m.start ≤ o.hrefStart ∧ o.hrefStop ≤ m.stop

/-- The order of the scanner's list: by start, then by where the destination starts. -/
def ScanOrder (a b : Occurrence) : Prop :=
  a.start < b.start ∨ (a.start = b.start ∧ a.hrefStart ≤ b.hrefStart)

/-! ### What a bracket gives -/

/-- The links that the bracket at `start` can give: an inline link or an image with its
destination; a reference to the first definition of its label, read from the document; or,
when no definition has that label, an incomplete reference. Each opens where the bracket's
construct opens. -/
inductive BracketLink (text masked : Array Char) (defs : List Definition) (start : Nat) :
    Occurrence → Prop
  | withDestination (close : Nat) (d : Destination) :
    matchingBracket masked start = some close → parseDestination masked (close + 1) = some d →
    BracketLink text masked defs start (linkOccurrence text (bracketKind masked start) d.start
      d.stop (constructStart masked start) d.stop' d.title)
  | reference (close : Nat) (d : Definition) :
    matchingBracket masked start = some close →
    defs.find? (·.label == String.ofList (normalizeLabelChars
      (referenceLabel text masked start close))) = some d →
    BracketLink text masked defs start (linkOccurrence text .reference d.destStart d.destStop
      (constructStart masked start) (referenceShape masked start close).stop d.title)
  | incomplete (close : Nat) :
    matchingBracket masked start = some close →
    defs.find? (·.label == String.ofList (normalizeLabelChars
      (referenceLabel text masked start close))) = none →
    BracketLink text masked defs start
      ⟨.incomplete, String.ofList (referenceLabel text masked start close), none,
        constructStart masked start, (referenceShape masked start close).stop,
        constructStart masked start, (referenceShape masked start close).stop⟩

/-- Looking at one bracket keeps the destinations recorded before and adds at most one link:
one that the bracket can give, and only when the bracket is not passed over. An inline link
or an image records the range of its destination and title. -/
theorem scanBracket_found (text masked : Array Char) (defs : List Definition) (st : ScanState)
    (start : Nat) :
    st.destinations ⊆ (scanBracket text masked defs st start).destinations ∧
      ((scanBracket text masked defs st start).found = st.found ∨
        st.passesOver defs start = false ∧ ∃ o, BracketLink text masked defs start o ∧
          (scanBracket text masked defs st start).found = st.found ++ [o] ∧
          (o.kind = .inline ∨ o.kind = .image →
            ∃ a ≤ o.hrefStart, (a, o.stop) ∈ (scanBracket text masked defs st start).destinations)) := by
  unfold scanBracket
  split
  · exact ⟨List.Subset.refl _, .inl rfl⟩
  · rename_i hpass
    have hpass' : st.passesOver defs start = false := by simpa using hpass
    split
    · exact ⟨List.Subset.refl _, .inl rfl⟩
    · rename_i close hclose
      dsimp only
      split
      · rename_i d hd
        have hparse : parseDestination masked (close + 1) = some d := by
          split at hd
          · exact hd
          · cases hd
        obtain ⟨hafter, hds, -, -⟩ := parseDestination_spec hparse
        obtain ⟨h₁, -, -⟩ := linkOccurrence_dest_bounds text (bracketKind masked start) d.start
          d.stop (constructStart masked start) d.stop' d.title hds
        refine ⟨by simp [ScanState.record], .inr ⟨hpass', _,
          .withDestination close d hclose hparse, rfl, fun _ => ⟨close + 1, by omega, ?_⟩⟩⟩
        simp [ScanState.record]
      · split
        · exact ⟨List.Subset.refl _, .inl rfl⟩
        · split
          · rename_i dn hfind
            exact ⟨by simp [ScanState.record], .inr ⟨hpass', _, .reference close dn hclose hfind,
              rfl, fun hk => by simp at hk⟩⟩
          · rename_i hfind
            split
            · exact ⟨by simp [ScanState.record], .inr ⟨hpass', _, .incomplete close hclose hfind,
                rfl, fun hk => by simp at hk⟩⟩
            · exact ⟨List.Subset.refl _, .inl rfl⟩

theorem mem_foldl_scanBracket {text masked : Array Char} {defs : List Definition}
    {o : Occurrence} (brackets : List Nat) (st : ScanState)
    (h : o ∈ (brackets.foldl (scanBracket text masked defs) st).found) :
    o ∈ st.found ∨ ∃ s ∈ brackets, BracketLink text masked defs s o := by
  induction brackets generalizing st with
  | nil => exact .inl h
  | cons s brackets ih =>
    rw [List.foldl_cons] at h
    rcases ih _ h with h | ⟨s', hs', hl⟩
    · rcases (scanBracket_found text masked defs st s).2 with hf | ⟨-, o', hl, hf, -⟩
      · rw [hf] at h
        exact .inl h
      · rw [hf, List.mem_append, List.mem_singleton] at h
        rcases h with h | rfl
        · exact .inl h
        · exact .inr ⟨s, List.mem_cons_self, hl⟩
    · exact .inr ⟨s', List.mem_cons_of_mem s hs', hl⟩

theorem mem_scan_iff {d : Document} {o : Occurrence} : o ∈ scan d ↔ o ∈ foundLinks d.chars :=
  List.mem_mergeSort

theorem mem_scanText_sources {text : Array Char} {o : Occurrence} (h : o ∈ scanText text) :
    o ∈ (scanBrackets text (mask text.toList).text
        (collectDefinitions (mask text.toList).text)).found ∨
      ∃ r ∈ autolinksFrom (mask text.toList).text 0,
        (∀ dst ∈ (scanBrackets text (mask text.toList).text
          (collectDefinitions (mask text.toList).text)).destinations,
            ¬ (dst.1 ≤ r.1 ∧ r.2 ≤ dst.2)) ∧
        o = linkOccurrence text .autolink (r.1 + 1) (r.2 - 1) r.1 r.2 none := by
  simp only [scanText, foundLinks, List.mem_mergeSort, List.mem_append, List.mem_map,
    List.mem_filter] at h
  rcases h with h | ⟨r, ⟨hr, hfree⟩, rfl⟩
  · exact .inl h
  · refine .inr ⟨r, hr, fun dst hdst hin => ?_, rfl⟩
    simp only [Bool.not_eq_true', List.any_eq_false] at hfree
    exact hfree dst hdst (by simpa using hin)

theorem mem_scanText {text : Array Char} {o : Occurrence} (h : o ∈ scanText text) :
    (∃ s, (mask text.toList).text[s]? = some '[' ∧
        isEscaped (mask text.toList).text s = false ∧
        BracketLink text (mask text.toList).text (collectDefinitions (mask text.toList).text) s o) ∨
      ∃ r ∈ autolinksFrom (mask text.toList).text 0,
        o = linkOccurrence text .autolink (r.1 + 1) (r.2 - 1) r.1 r.2 none := by
  rcases mem_scanText_sources h with h | ⟨r, hr, -, rfl⟩
  · rcases mem_foldl_scanBracket _ _ h with h | ⟨s, hs, hl⟩
    · cases h
    · simp only [openBrackets, List.mem_filter, List.mem_range, Bool.and_eq_true, beq_iff_eq,
        Bool.not_eq_true'] at hs
      exact .inl ⟨s, hs.2.1, hs.2.2, hl⟩
  · exact .inr ⟨r, hr, rfl⟩

/-! ### Links at brackets -/

section Bracket

variable {text : Array Char} {s : Nat}

theorem opensAs_reference_of_bracketKind {masked : Array Char} {k : LinkKind} {cs : Nat}
    (h : OpensAs text (bracketKind masked s) cs) (hk : k = .reference ∨ k = .incomplete) :
    OpensAs text k cs := by
  unfold bracketKind at h
  split at h
  · -- an image opens with `![`
    rcases hk with rfl | rfl <;> exact .inr h
  · rcases hk with rfl | rfl <;> exact .inl h

theorem constructStart_opens (hs : (mask text.toList).text[s]? = some '[')
    (he : isEscaped (mask text.toList).text s = false) :
    OpensAs text (bracketKind (mask text.toList).text s) (constructStart (mask text.toList).text s) ∧
      isEscaped text (constructStart (mask text.toList).text s) = false ∧
      ∀ r ∈ (mask text.toList).regions, ¬ (r.start ≤ constructStart (mask text.toList).text s ∧
        constructStart (mask text.toList).text s < r.stop) := by
  obtain ⟨hbr, hbre, hbrr⟩ := kept_of_mask text hs (by decide)
  unfold bracketKind constructStart
  cases himg : opensImage (mask text.toList).text s with
  | false => exact ⟨hbr, hbre ▸ he, hbrr⟩
  | true =>
    simp only [opensImage, Bool.and_eq_true, decide_eq_true_eq, beq_iff_eq,
      Bool.not_eq_true'] at himg
    obtain ⟨⟨hpos, hbang⟩, hesc⟩ := himg
    obtain ⟨hb, hbe, hbr'⟩ := kept_of_mask text hbang (by decide)
    have hs' : s - 1 + 1 = s := by omega
    simp only [↓reduceIte]
    refine ⟨⟨hb, by rw [hs']; exact hbr⟩, hbe ▸ hesc, hbr'⟩

theorem constructStart_le (masked : Array Char) (s : Nat) : constructStart masked s ≤ s := by
  unfold constructStart
  split <;> omega

theorem BracketLink.wellPlaced {o : Occurrence} (hs : (mask text.toList).text[s]? = some '[')
    (he : isEscaped (mask text.toList).text s = false)
    (hl : BracketLink text (mask text.toList).text (collectDefinitions (mask text.toList).text) s o) :
    WellPlaced text o := by
  obtain ⟨hopens, hesc, hreg⟩ := constructStart_opens hs he
  have hcs := constructStart_le (mask text.toList).text s
  cases hl with
  | withDestination close d hclose hparse =>
    obtain ⟨hle, -⟩ := matchingBracket_spec hclose
    obtain ⟨hstart, hds, hstop, -⟩ := parseDestination_spec hparse
    obtain ⟨h₁, h₂, h₃⟩ := linkOccurrence_dest_bounds text (bracketKind (mask text.toList).text s)
      d.start d.stop (constructStart (mask text.toList).text s) d.stop' d.title hds
    have hkind : bracketKind (mask text.toList).text s ≠ .reference := by
      unfold bracketKind
      split <;> simp
    refine ⟨by simpa using hopens, fun _ => by simpa using hesc, by simpa using hreg,
      fun _ => ⟨by simp only [linkOccurrence_start]; omega, h₂, by simp only [linkOccurrence_stop]; omega⟩,
      fun _ => linkOccurrence_href .., fun hk => absurd (by simpa using hk) hkind⟩
  | reference close d _ hfind =>
    obtain ⟨m, hm, rfl⟩ := mem_collectDefinitions (List.mem_of_find?_eq_some hfind)
    obtain ⟨hms, hmd, hmdd, hmstop⟩ :=
      definitionAt_spec (definitionAt_of_mem_definitionMatchesFrom hm)
    obtain ⟨b₁, b₂, b₃⟩ :=
      toDefinition_dest_bounds (mask text.toList).text (hms ▸ hmd) hmdd.le hmstop
    obtain ⟨c₁, -, c₃⟩ := linkOccurrence_dest_bounds text .reference _ _
      (constructStart (mask text.toList).text s) (referenceShape (mask text.toList).text s close).stop
      (m.toDefinition (mask text.toList).text).title b₂
    refine ⟨by simpa using opensAs_reference_of_bracketKind hopens (.inl rfl),
      fun _ => by simpa using hesc, by simpa using hreg, fun hk => by simp at hk,
      fun _ => linkOccurrence_href .., fun _ => ⟨m, hm, by omega, by omega⟩⟩
  | incomplete close _ _ =>
    exact ⟨opensAs_reference_of_bracketKind hopens (.inr rfl), fun _ => hesc, hreg,
      fun hk => by simp at hk, fun hk => absurd rfl hk, fun hk => by cases hk⟩

end Bracket

/-! ### Autolinks -/

theorem autolink_wellPlaced {text : Array Char} {r : Nat × Nat}
    (hr : r ∈ autolinksFrom (mask text.toList).text 0) :
    WellPlaced text (linkOccurrence text .autolink (r.1 + 1) (r.2 - 1) r.1 r.2 none) := by
  obtain ⟨hopen, hlen, -⟩ := autolinkAt_spec (autolinkAt_of_mem_autolinksFrom hr)
  obtain ⟨ht, -, hreg⟩ := kept_of_mask text hopen (by decide)
  obtain ⟨h₁, h₂, h₃⟩ := linkOccurrence_dest_bounds text .autolink (r.1 + 1) (r.2 - 1) r.1 r.2
    none (by omega)
  refine ⟨by simpa [OpensAs] using ht, fun hk => by simp at hk,
    by simpa using hreg, fun _ => ⟨by simp only [linkOccurrence_start]; omega, h₂,
      by simp only [linkOccurrence_stop]; omega⟩, fun _ => linkOccurrence_href ..,
    fun hk => by simp at hk⟩

/-! ### The scanner's list -/

theorem scanText_sorted (text : Array Char) : (scanText text).Pairwise ScanOrder := by
  unfold scanText
  refine (List.pairwise_mergeSort ?_ ?_ _).imp ?_
  · intro a b c hab hbc
    simp only [Bool.or_eq_true, decide_eq_true_eq, Bool.and_eq_true, beq_iff_eq] at hab hbc ⊢
    omega
  · intro a b
    simp only [Bool.or_eq_true, decide_eq_true_eq, Bool.and_eq_true, beq_iff_eq]
    omega
  · intro a b hab
    simp only [Bool.or_eq_true, decide_eq_true_eq, Bool.and_eq_true, beq_iff_eq] at hab
    exact hab

/-- Every link that the scanner reports for a document stands where it should, and the
links come ordered by where they start, then by where their destination starts. -/
theorem scan_links_well_placed (d : Document) :
    (∀ o ∈ scan d, WellPlaced d.chars o) ∧ (scan d).Pairwise ScanOrder := by
  refine ⟨fun o ho => ?_, scanText_sorted d.chars⟩
  rcases mem_scanText ho with ⟨s, hs, he, hl⟩ | ⟨r, hr, rfl⟩
  · exact hl.wellPlaced hs he
  · exact autolink_wellPlaced hr

/-- The `<` of an autolink may follow a backslash: `\<http://a.b>` is reported as an
autolink whose `<` is escaped. -/
theorem scan_reports_escaped_autolink :
    ∃ o ∈ scan (Document.make "a.md" "\\<http://a.b>"), o.kind = .autolink ∧
      isEscaped (Document.make "a.md" "\\<http://a.b>").chars o.start = true := by
  have hscan : scan (Document.make "a.md" "\\<http://a.b>") =
      [⟨.autolink, "http://a.b", none, 1, 13, 2, 12⟩] := by decide +kernel
  rw [hscan]
  exact ⟨_, List.mem_singleton_self _, rfl, by decide +kernel⟩

end BookLinks.Markdown
