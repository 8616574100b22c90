import BookLinks.Markdown.Scan
import Mathlib.Data.Option.Basic
/-!
# Bounds of the scanner's matchers

What each matcher of the link scanner gives back lies where it should: the bracket that
closes another comes after it and is a `]`; a destination in parentheses starts after the
parenthesis and ends before the `)` that closes it; a definition line holds its destination;
an autolink opens with `<`; and dropping angle brackets only shrinks a range.
-/
namespace BookLinks.Markdown

open BookLinks.Text

/-! ### Skipping -/

theorem skipWhile_ge (t : Array Char) (p : Char → Bool) (i : Nat) : i ≤ skipWhile t p i := by
  fun_induction skipWhile t p i with
  | case1 i _ _ ih => omega
  | case2 => exact Nat.le_refl _
  | case3 => exact Nat.le_refl _

theorem skipSpaces_ge (t : Array Char) (i n : Nat) : i ≤ skipSpaces t i n := by
  induction n generalizing i with
  | zero => exact Nat.le_refl _
  | succ n ih =>
    unfold skipSpaces
    split
    · exact Nat.le_of_succ_le (ih (i + 1))
    · exact Nat.le_refl _

theorem skipLinkBlanks_ge (t : Array Char) (i n : Nat) : i ≤ skipLinkBlanks t i n := by
  fun_induction skipLinkBlanks t i n <;> omega

theorem angleDestEnd_ge (t : Array Char) (i : Nat) : i ≤ angleDestEnd t i := by
  fun_induction angleDestEnd t i <;> omega

theorem bareDestEnd_ge (t : Array Char) (i depth : Nat) : i ≤ bareDestEnd t i depth := by
  fun_induction bareDestEnd t i depth <;> omega

theorem titleEnd_ge {t : Array Char} {closer : Char} {i k : Nat}
    (h : titleEnd t closer i = some k) : i ≤ k := by
  fun_induction titleEnd t closer i with
  | case1 => simp at h; omega
  | case2 _ _ _ _ ih => have := ih h; omega
  | case3 _ _ _ _ ih => have := ih h; omega
  | case4 => simp at h

/-! ### Ranges -/

theorem stripAngles_bounds (t : Array Char) {a b : Nat} (h : a ≤ b) :
    a ≤ (stripAngles t a b).1 ∧ (stripAngles t a b).1 ≤ (stripAngles t a b).2 ∧
      (stripAngles t a b).2 ≤ b := by
  unfold stripAngles
  split
  · rename_i hs
    simp only
    omega
  · simp only
    omega

theorem closingBracketFrom_spec {t : Array Char} {limit i depth c : Nat}
    (h : closingBracketFrom t limit i depth = some c) :
    i ≤ c ∧ c < limit ∧ t[c]? = some ']' := by
  fun_induction closingBracketFrom t limit i depth with
  | case1 i _ _ _ ih | case2 i _ _ _ ih | case4 i _ _ _ _ ih | case5 i _ _ _ _ _ ih =>
    obtain ⟨hle, hlt, hc⟩ := ih h
    exact ⟨by omega, hlt, hc⟩
  | case3 i hlt ht =>
    cases h
    exact ⟨Nat.le_refl _, hlt, ht⟩
  | case6 => cases h

theorem matchingBracket_spec {t : Array Char} {start close : Nat}
    (h : matchingBracket t start = some close) : start ≤ close ∧ t[close]? = some ']' := by
  obtain ⟨h1, -, h3⟩ := closingBracketFrom_spec h
  exact ⟨h1, h3⟩

/-! ### Destinations -/

theorem destinationAt_spec {t : Array Char} {i ds de a : Nat}
    (h : destinationAt t i = some (ds, de, a)) : ds = i ∧ i ≤ de ∧ de ≤ a := by
  simp only [destinationAt, Option.bind_eq_bind, Option.bind_eq_some_iff] at h
  obtain ⟨c, -, hc⟩ := h
  split at hc
  · split at hc
    · simp only [Option.some.injEq, Prod.mk.injEq] at hc
      obtain ⟨rfl, rfl, rfl⟩ := hc
      have := angleDestEnd_ge t (i + 1)
      exact ⟨rfl, by omega, Nat.le_refl _⟩
    · cases hc
  · simp only [Option.some.injEq, Prod.mk.injEq] at hc
    obtain ⟨rfl, rfl, rfl⟩ := hc
    exact ⟨rfl, bareDestEnd_ge t i 0, Nat.le_refl _⟩

theorem titleAt_spec {t : Array Char} {de k k' : Nat} {title : Option String}
    (h : titleAt t de k = some (title, k')) : k ≤ k' := by
  unfold titleAt at h
  split at h
  · split at h
    · -- a title opens at k: the text goes on after its closer
      simp only at h
      generalize (if _ = '(' then ')' else _) = closer at h
      split at h
      · rename_i close hclose
        simp only [Option.some.injEq, Prod.mk.injEq] at h
        obtain ⟨-, rfl⟩ := h
        have := titleEnd_ge hclose
        have := skipLinkBlanks_ge t (close + 1) 0
        omega
      · cases h
    · simp only [Option.some.injEq, Prod.mk.injEq] at h
      omega
  · simp only [Option.some.injEq, Prod.mk.injEq] at h
    omega

theorem parseDestination_spec {t : Array Char} {openParen : Nat} {d : Destination}
    (h : parseDestination t openParen = some d) :
    openParen < d.start ∧ d.start ≤ d.stop ∧ d.stop < d.stop' ∧ t[d.stop' - 1]? = some ')' := by
  simp only [parseDestination, Option.bind_eq_bind, Option.bind_eq_some_iff] at h
  obtain ⟨⟨ds, de, a⟩, hdest, ⟨title, k⟩, htitle, u, hguard, hd⟩ := h
  obtain ⟨rfl, hle, hde⟩ := destinationAt_spec hdest
  simp only at htitle
  have hk := titleAt_spec htitle
  have hskip := skipLinkBlanks_ge t (openParen + 1) 0
  have hskip' := skipLinkBlanks_ge t a 0
  simp only [Option.guard_eq_some', beq_iff_eq] at hguard
  simp only [Option.pure_def, Option.some.injEq] at hd
  subst hd
  simp only [Nat.add_sub_cancel]
  exact ⟨by omega, hle, by omega, by simpa using hguard⟩

/-! ### Definition lines -/

theorem labelEnd_ge (t : Array Char) (j count : Nat) : j ≤ (labelEnd t j count).1 := by
  fun_induction labelEnd t j count with
  | case2 j _ _ _ _ _ _ _ ih => omega
  | case5 j _ _ _ _ _ ih => omega
  | case1 | case3 | case4 | case6 => exact Nat.le_refl _

theorem afterDefinitionBreak_ge (t : Array Char) (k : Nat) : k ≤ afterDefinitionBreak t k := by
  have h1 := skipWhile_ge t isSpaceTab (k + 1)
  have h2 := skipWhile_ge t isSpaceTab (k + 2)
  unfold afterDefinitionBreak
  split
  · omega
  · split <;> omega

theorem definitionDestEnd_gt {t : Array Char} {k e : Nat} (h : definitionDestEnd t k = some e) :
    k < e := by
  simp only [definitionDestEnd, Option.bind_eq_bind, Option.bind_eq_some_iff] at h
  obtain ⟨first, -, hfirst⟩ := h
  split at hfirst
  · split at hfirst
    · obtain rfl := Option.some.inj hfirst
      have := skipWhile_ge t (fun c => !(c = '<' || c = '>' || c = '\r' || c = '\n')) (k + 1)
      omega
    · cases hfirst
  · split at hfirst
    · cases hfirst
    · obtain rfl := Option.some.inj hfirst
      have := skipWhile_ge t (fun c => !isBlank c) (k + 1)
      omega

theorem definitionTitle_spec {t : Array Char} {destStop c : Nat} {r : Nat × Nat}
    (h : definitionTitle t destStop = some (r, c)) : destStop < r.1 ∧ r.1 < r.2 ∧ r.2 ≤ c := by
  simp only [definitionTitle, Option.bind_eq_bind, Option.bind_eq_some_iff,
    Option.guard_eq_some', Option.pure_def, Option.some.injEq, Prod.mk.injEq] at h
  obtain ⟨-, hgap, -, -, closer, -, -, -, -, -, rfl, rfl⟩ := h
  have := skipWhile_ge t (fun c => !(c = closer || c = '\r' || c = '\n'))
    (skipWhile t isSpaceTab destStop + 1)
  have := skipWhile_ge t isSpaceTab
    (skipWhile t (fun c => !(c = closer || c = '\r' || c = '\n'))
      (skipWhile t isSpaceTab destStop + 1) + 1)
  exact ⟨hgap, by omega, this⟩

theorem definitionTitle_lineEnds {t : Array Char} {destStop c : Nat} {r : Nat × Nat}
    (h : definitionTitle t destStop = some (r, c)) : lineEndsAt t c = true := by
  simp only [definitionTitle, Option.bind_eq_bind, Option.bind_eq_some_iff,
    Option.guard_eq_some', Option.pure_def, Option.some.injEq, Prod.mk.injEq] at h
  obtain ⟨-, -, -, -, closer, -, -, -, -, hend, -, rfl⟩ := h
  exact hend

theorem definitionAt_spec {t : Array Char} {p : Nat} {m : DefinitionMatch}
    (h : definitionAt t p = some m) :
    m.start = p ∧ p ≤ m.destStart ∧ m.destStart < m.destStop ∧ m.destStop ≤ m.stop := by
  simp only [definitionAt, Option.bind_eq_bind, Option.bind_eq_some_iff,
    Option.guard_eq_some'] at h
  obtain ⟨-, -, -, -, e, he, hm⟩ := h
  have hlabel := labelEnd_ge t (skipSpaces t p 3 + 1) 0
  have hspaces := skipSpaces_ge t p 3
  have hblank := skipWhile_ge t isSpaceTab ((labelEnd t (skipSpaces t p 3 + 1) 0).1 + 2)
  have hbreak := afterDefinitionBreak_ge t
    (skipWhile t isSpaceTab ((labelEnd t (skipSpaces t p 3 + 1) 0).1 + 2))
  have hdest := definitionDestEnd_gt he
  split at hm
  · rename_i r c htitle
    obtain rfl := Option.some.inj hm
    have := definitionTitle_spec htitle
    dsimp only
    exact ⟨rfl, by omega, hdest, by omega⟩
  · simp only [Option.bind_eq_some_iff, Option.guard_eq_some', Option.pure_def,
      Option.some.injEq] at hm
    obtain ⟨-, -, rfl⟩ := hm
    dsimp only
    exact ⟨rfl, by omega, hdest, skipWhile_ge t isSpaceTab e⟩

theorem definitionAt_lineEnds {t : Array Char} {p : Nat} {m : DefinitionMatch}
    (h : definitionAt t p = some m) : lineEndsAt t m.stop = true := by
  simp only [definitionAt, Option.bind_eq_bind, Option.bind_eq_some_iff,
    Option.guard_eq_some'] at h
  obtain ⟨-, -, -, -, e, -, hm⟩ := h
  split at hm
  · rename_i r c htitle
    obtain rfl := Option.some.inj hm
    exact definitionTitle_lineEnds htitle
  · simp only [Option.bind_eq_some_iff, Option.guard_eq_some', Option.pure_def,
      Option.some.injEq] at hm
    obtain ⟨-, hend, rfl⟩ := hm
    exact hend

theorem definitionAt_of_mem_definitionMatchesFrom {t : Array Char} {m : DefinitionMatch} :
    ∀ {fuel p : Nat}, m ∈ definitionMatchesFrom t fuel p → definitionAt t m.start = some m
  | 0, _, h => by simp [definitionMatchesFrom] at h
  | fuel + 1, p, h => by
    unfold definitionMatchesFrom at h
    split at h
    · simp at h
    · split at h
      · rename_i m' hm'
        rcases List.mem_cons.1 h with rfl | h
        · rw [(definitionAt_spec hm').1]
          exact hm'
        · exact definitionAt_of_mem_definitionMatchesFrom h
      · exact definitionAt_of_mem_definitionMatchesFrom h

theorem mem_addDefinition {t : Array Char} {acc : List Definition} {m : DefinitionMatch}
    {d : Definition} (h : d ∈ addDefinition t acc m) : d ∈ acc ∨ d = m.toDefinition t := by
  simp only [addDefinition] at h
  split at h
  · exact .inl h
  · exact (List.mem_append.1 h).imp_right List.mem_singleton.1

theorem mem_foldl_addDefinition {t : Array Char} {d : Definition} (ms : List DefinitionMatch)
    (acc : List Definition) (h : d ∈ ms.foldl (addDefinition t) acc) :
    d ∈ acc ∨ ∃ m ∈ ms, d = m.toDefinition t := by
  induction ms generalizing acc with
  | nil => exact .inl h
  | cons m ms ih =>
    rw [List.foldl_cons] at h
    rcases ih (addDefinition t acc m) h with h | ⟨m', hm', hd⟩
    · rcases mem_addDefinition h with h | hd
      · exact .inl h
      · exact .inr ⟨m, List.mem_cons_self, hd⟩
    · exact .inr ⟨m', List.mem_cons_of_mem m hm', hd⟩

theorem mem_collectDefinitions {t : Array Char} {d : Definition}
    (h : d ∈ collectDefinitions t) :
    ∃ m ∈ definitionMatchesFrom t (t.size + 1) 0, d = m.toDefinition t := by
  rcases mem_foldl_addDefinition _ [] h with h | h
  · cases h
  · exact h

theorem toDefinition_dest_bounds (t : Array Char) {m : DefinitionMatch} (h : m.start ≤ m.destStart)
    (h' : m.destStart ≤ m.destStop) (h'' : m.destStop ≤ m.stop) :
    m.start ≤ (m.toDefinition t).destStart ∧
      (m.toDefinition t).destStart ≤ (m.toDefinition t).destStop ∧
      (m.toDefinition t).destStop ≤ m.stop := by
  have := stripAngles_bounds t h'
  simp only [DefinitionMatch.toDefinition]
  omega

/-! ### Autolinks -/

theorem autolinkAt_spec {t : Array Char} {p e : Nat} (h : autolinkAt t p = some e) :
    t[p]? = some '<' ∧ p + 5 ≤ e ∧ t[e - 1]? = some '>' := by
  simp only [autolinkAt, Option.bind_eq_bind, Option.bind_eq_some_iff, Option.guard_eq_some',
    beq_iff_eq, Option.pure_def, Option.some.injEq] at h
  obtain ⟨-, hopen, -, -, -, -, -, ⟨hscheme, -, -⟩, -, hclose, rfl⟩ := h
  refine ⟨hopen, ?_, by simpa using hclose⟩
  have := skipWhile_ge t (fun c => !(isBlank c || c = '<' || c = '>'))
    (skipWhile t (fun c => c.isAlphanum || c = '+' || c = '.' || c = '-') (p + 2) + 1)
  omega

theorem autolinkAt_of_mem_autolinksFrom {t : Array Char} {p a e : Nat}
    (h : (a, e) ∈ autolinksFrom t p) : autolinkAt t a = some e := by
  fun_induction autolinksFrom t p with
  | case1 p _ e' he' ih =>
    rcases List.mem_cons.1 h with h | h
    · simp only [Prod.mk.injEq] at h
      obtain ⟨rfl, rfl⟩ := h
      exact he'
    · exact ih h
  | case2 _ _ _ ih => exact ih h
  | case3 => cases h

end BookLinks.Markdown
