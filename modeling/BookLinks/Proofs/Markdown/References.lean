import BookLinks.Proofs.Markdown.Placement
/-!
# Which definition a reference names

A reference names the first definition line of its label. The two sides read the label
from different texts: a definition line is registered under its label in the masked text,
where code, comments and math are blank, while a reference looks up its label as it stands
in the document. The main statement says exactly what the scanner reports for a reference
or an incomplete reference: the destination and title of the first definition line whose
masked label normalises to the reference's own label, or, when there is no such line, an
incomplete reference. A label that holds a code span, such as `[`Vec`]`, therefore never
finds its definition.
-/
namespace BookLinks.Markdown

open BookLinks.Text BookLinks.Book

/-- The first definition line of a text whose label, read from that text, normalises to
`label`; none for an empty label or one that starts with a caret, which name no definition. -/
def firstDefinitionLine (t : Array Char) (label : String) : Option DefinitionMatch :=
  if label.isEmpty || label.startsWith "^" then none
  else (definitionMatchesFrom t (t.size + 1) 0).find? (fun m => (m.toDefinition t).label == label)

theorem normalizeLabel_ofList (cs : List Char) :
    normalizeLabel (String.ofList cs) = String.ofList (normalizeLabelChars cs) := by
  simp [normalizeLabel]

/-! ### Registering definitions -/

section Register

variable (t : Array Char) (label : String)

theorem find?_addDefinition (acc : List Definition) (m : DefinitionMatch) :
    (addDefinition t acc m).find? (·.label == label) =
      (acc.find? (·.label == label)).or
        (if label.isEmpty || label.startsWith "^" || (m.toDefinition t).label != label then none
          else some (m.toDefinition t)) := by
  simp only [addDefinition]
  cases hacc : acc.find? (·.label == label) with
  | some d => split <;> simp [hacc, List.find?_append]
  | none =>
    have hany : acc.any (·.label == label) = false := by
      simpa [List.find?_eq_none, List.any_eq_false] using hacc
    by_cases hm : (m.toDefinition t).label = label
    · rw [hm, hany, Bool.or_false]
      cases hbad : (label.isEmpty || label.startsWith "^") <;> simp [hacc, hm, List.find?_append]
    · split <;> simp [hacc, hm, List.find?_append]

theorem find?_foldl_addDefinition (ms : List DefinitionMatch) (acc : List Definition) :
    (ms.foldl (addDefinition t) acc).find? (·.label == label) =
      (acc.find? (·.label == label)).or
        (if label.isEmpty || label.startsWith "^" then none
          else (ms.find? (fun m => (m.toDefinition t).label == label)).map (·.toDefinition t)) := by
  induction ms generalizing acc with
  | nil => simp
  | cons m ms ih =>
    rw [List.foldl_cons, ih, find?_addDefinition, List.find?_cons]
    cases hq : ((m.toDefinition t).label == label) <;>
      cases hbad : (label.isEmpty || label.startsWith "^") <;>
      simp only [bne, hq, Bool.not_true, Bool.not_false, Bool.or_true, Bool.or_false,
        Bool.false_eq_true, ↓reduceIte, Option.or_none, Option.or_assoc, Option.some_or,
        Option.map_some]

theorem find?_collectDefinitions :
    (collectDefinitions t).find? (·.label == label) =
      (firstDefinitionLine t label).map (·.toDefinition t) := by
  unfold collectDefinitions firstDefinitionLine
  rw [find?_foldl_addDefinition]
  split <;> simp

end Register

/-! ### What a reference reports -/

/-- How a reference, or an incomplete reference, `o` of a document was resolved: it opens at
the construct of a bracket `s` of the masked text, closed at `close`, whose label is read
from the document; `o` takes the destination and title of the first definition line whose
label in the masked text normalises like that label, and with no such line `o` is
incomplete. -/
def ResolvedByMaskedLabel (d : Document) (o : Occurrence) : Prop :=
  ∃ s close, matchingBracket (mask d.chars.toList).text s = some close ∧
    o.start = constructStart (mask d.chars.toList).text s ∧
    match firstDefinitionLine (mask d.chars.toList).text
        (normalizeLabel (String.ofList (referenceLabel d.chars (mask d.chars.toList).text s close))) with
    | some m => o = linkOccurrence d.chars .reference
        (m.toDefinition (mask d.chars.toList).text).destStart
        (m.toDefinition (mask d.chars.toList).text).destStop o.start o.stop
        (m.toDefinition (mask d.chars.toList).text).title
    | none => o.kind = .incomplete

/-- Every reference, and every incomplete reference, that the scanner reports for a document
was resolved by the labels of the masked text: definition lines are registered under their
masked labels, and a reference looks up its label as it stands in the document. -/
theorem scan_references_resolve_by_masked_label (d : Document) :
    ∀ o ∈ scan d, o.kind = .reference ∨ o.kind = .incomplete → ResolvedByMaskedLabel d o := by
  intro o ho hk
  rcases mem_scanText ho with ⟨s, -, -, hl⟩ | ⟨r, -, rfl⟩
  · cases hl with
    | withDestination close dest _ _ =>
      exfalso
      unfold bracketKind at hk
      split at hk <;> simp at hk
    | reference close dn hclose hfind =>
      rw [find?_collectDefinitions, Option.map_eq_some_iff] at hfind
      obtain ⟨m, hm, rfl⟩ := hfind
      refine ⟨s, close, hclose, rfl, ?_⟩
      rw [normalizeLabel_ofList, hm]
      exact rfl
    | incomplete close hclose hfind =>
      rw [find?_collectDefinitions, Option.map_eq_none_iff] at hfind
      refine ⟨s, close, hclose, rfl, ?_⟩
      rw [normalizeLabel_ofList, hfind]
  · simp at hk

/-- The reference `[a]` of the text below resolves to its definition line `[a]: x`. -/
theorem scan_reference_resolves_to_its_definition :
    (⟨.reference, "x", none, 0, 3, 10, 11⟩ : Occurrence) ∈
        scan (Document.make "a.md" "[a]\n\n[a]: x\n") ∧
      ((⟨.reference, "x", none, 0, 3, 10, 11⟩ : Occurrence).kind = .reference ∨
        (⟨.reference, "x", none, 0, 3, 10, 11⟩ : Occurrence).kind = .incomplete) ∧
      ResolvedByMaskedLabel (Document.make "a.md" "[a]\n\n[a]: x\n")
        ⟨.reference, "x", none, 0, 3, 10, 11⟩ :=
  have hmem : (⟨.reference, "x", none, 0, 3, 10, 11⟩ : Occurrence) ∈
      scan (Document.make "a.md" "[a]\n\n[a]: x\n") := by decide +kernel
  ⟨hmem, .inl rfl, scan_references_resolve_by_masked_label _ _ hmem (.inl rfl)⟩

/-- A definition line whose label holds a code span is never found: the text below has one
definition line, whose label reads `Vec` in backquotes as the reference's does, yet the
reference is reported incomplete. -/
theorem scan_misses_definition_of_code_label :
    (definitionMatchesFrom (Document.make "a.md" "[`Vec`]\n\n[`Vec`]: http://x\n").chars
        ((Document.make "a.md" "[`Vec`]\n\n[`Vec`]: http://x\n").chars.size + 1) 0).map
        (fun m => normalizeLabel (String.ofList
          (charsIn (Document.make "a.md" "[`Vec`]\n\n[`Vec`]: http://x\n").chars m.labelStart m.labelStop))) =
      [normalizeLabel "`Vec`"] ∧
    scan (Document.make "a.md" "[`Vec`]\n\n[`Vec`]: http://x\n") =
      [⟨.incomplete, "`Vec`", none, 0, 7, 0, 7⟩] :=
  ⟨by decide +kernel, by decide +kernel⟩

end BookLinks.Markdown
