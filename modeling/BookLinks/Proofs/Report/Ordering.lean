import BookLinks.Report.Diagnostic
import Mathlib
/-!
# The order of a report

A report holds one diagnostic for each checked link whose outcome is a problem, none when
problems are ignored, and orders them by a stable sort on their keys: the rank of the
document, its path, and where the href starts. Over a sequence that lists each document once,
the rank of a document is its position in the sequence, and a document that the sequence does
not list comes after all that it lists.

Main statements: `aggregate_orders_problems`, what the report over any sequence of documents
holds, and `build_eq_aggregate`: the report of a book check is the report over the book's
documents in their order.
-/

namespace BookLinks.Report

open BookLinks.Config

/-! ### Keys -/

theorem keyLE_refl (a : Nat × String × Nat) : keyLE a a = true := by
  simp [keyLE]

theorem keyLE_total (a b : Nat × String × Nat) : (keyLE a b || keyLE b a) = true := by
  obtain ⟨a₁, a₂, a₃⟩ := a
  obtain ⟨b₁, b₂, b₃⟩ := b
  simp only [keyLE, Bool.or_eq_true, decide_eq_true_eq]
  rcases Nat.lt_trichotomy a₁ b₁ with h₁ | rfl | h₁
  · exact .inl (.inl h₁)
  · rcases lt_trichotomy a₂ b₂ with h₂ | rfl | h₂
    · exact .inl (.inr ⟨rfl, .inl h₂⟩)
    · rcases Nat.le_total a₃ b₃ with h₃ | h₃
      · exact .inl (.inr ⟨rfl, .inr ⟨rfl, h₃⟩⟩)
      · exact .inr (.inr ⟨rfl, .inr ⟨rfl, h₃⟩⟩)
    · exact .inr (.inr ⟨rfl, .inl h₂⟩)
  · exact .inr (.inl h₁)

theorem keyLE_trans {a b c : Nat × String × Nat} (hab : keyLE a b = true)
    (hbc : keyLE b c = true) : keyLE a c = true := by
  obtain ⟨a₁, a₂, a₃⟩ := a
  obtain ⟨b₁, b₂, b₃⟩ := b
  obtain ⟨c₁, c₂, c₃⟩ := c
  simp only [keyLE, decide_eq_true_eq] at hab hbc ⊢
  rcases hab with h₁ | ⟨rfl, h₂ | ⟨rfl, h₃⟩⟩
  · rcases hbc with h₁' | ⟨rfl, -⟩
    · exact .inl (Nat.lt_trans h₁ h₁')
    · exact .inl h₁
  · rcases hbc with h₁' | ⟨rfl, h₂' | ⟨rfl, -⟩⟩
    · exact .inl h₁'
    · exact .inr ⟨rfl, .inl (lt_trans h₂ h₂')⟩
    · exact .inr ⟨rfl, .inl h₂⟩
  · rcases hbc with h₁' | ⟨rfl, h₂' | ⟨rfl, h₃'⟩⟩
    · exact .inl h₁'
    · exact .inr ⟨rfl, .inl h₂'⟩
    · exact .inr ⟨rfl, .inr ⟨rfl, Nat.le_trans h₃ h₃'⟩⟩

section Sorting

variable {α : Type} (key : α → Nat × String × Nat)

theorem filter_mergeSort_keyLE (items : List α) (k : Nat × String × Nat) :
    (items.mergeSort (fun a b => keyLE (key a) (key b))).filter (fun a => key a == k) =
      items.filter (fun a => key a == k) := by
  have htrans : ∀ a b c : α, keyLE (key a) (key b) = true → keyLE (key b) (key c) = true →
      keyLE (key a) (key c) = true := fun _ _ _ => keyLE_trans
  have htotal : ∀ a b : α, (keyLE (key a) (key b) || keyLE (key b) (key a)) = true :=
    fun a b => keyLE_total (key a) (key b)
  -- the items of key `k` are pairwise in order, so the sort keeps them as a sublist
  have hsame : (items.filter (fun a => key a == k)).Pairwise
      (fun a b => keyLE (key a) (key b) = true) := by
    refine List.Pairwise.imp_of_mem (fun {a b} ha hb _ => ?_) (List.pairwise_of_forall fun _ _ => trivial)
    have ha' := (List.mem_filter.1 ha).2
    have hb' := (List.mem_filter.1 hb).2
    simp only [beq_iff_eq] at ha' hb'
    rw [ha', hb']
    exact keyLE_refl k
  have hsub := (List.sublist_mergeSort htrans htotal hsame (List.filter_sublist)).filter
    (fun a => key a == k)
  rw [List.filter_filter, List.filter_congr (fun a _ => Bool.and_self _)] at hsub
  exact (hsub.eq_of_length ((List.mergeSort_perm _ _).filter _).length_eq.symm).symm

theorem pairwise_mergeSort_keyLE (items : List α) :
    (items.mergeSort (fun a b => keyLE (key a) (key b))).Pairwise
      (fun a b => keyLE (key a) (key b) = true) :=
  @List.pairwise_mergeSort α (fun a b => keyLE (key a) (key b)) (fun _ _ _ => keyLE_trans)
    (fun a b => keyLE_total (key a) (key b)) items

end Sorting

/-! ### Ranks -/

theorem idxOf_reverse_add_idxOf {l : List Nat} (hl : l.Nodup) {a : Nat} (ha : a ∈ l) :
    l.reverse.idxOf a + l.idxOf a + 1 = l.length := by
  obtain ⟨s, t, rfl⟩ := List.append_of_mem ha
  have hs : a ∉ s := fun h => (List.nodup_append.1 hl).2.2 a h a (by simp) rfl
  have ht : a ∉ t := (List.nodup_cons.1 (List.nodup_append.1 hl).2.1).1
  rw [List.reverse_append, List.reverse_cons, List.append_assoc, List.singleton_append,
    List.idxOf_append_of_notMem (by simpa using ht), List.idxOf_cons_self,
    List.idxOf_append_of_notMem hs, List.idxOf_cons_self]
  simp only [List.length_append, List.length_reverse, List.length_cons]
  omega

theorem eraseDups_of_nodup : ∀ {l : List Nat}, l.Nodup → l.eraseDups = l
  | [], _ => rfl
  | a :: as, hl => by
    have hfilter : as.filter (fun b => !b == a) = as := by
      refine List.filter_eq_self.2 fun b hb => ?_
      have hne : b ≠ a := fun h => (List.nodup_cons.1 hl).1 (h ▸ hb)
      simpa using hne
    rw [List.eraseDups_cons, hfilter, eraseDups_of_nodup (List.nodup_cons.1 hl).2]

theorem documentRank_of_nodup {documents : List Nat} (hd : documents.Nodup) :
    (∀ i (h : i < documents.length), documentRank documents documents[i] = i) ∧
      ∀ doc ∉ documents, documentRank documents doc = documents.length := by
  refine ⟨fun i h => ?_, fun doc hdoc => by simp [documentRank, hdoc, eraseDups_of_nodup hd]⟩
  have hmem : documents[i] ∈ documents := List.getElem_mem h
  have hidx : documents.idxOf documents[i] = i := hd.idxOf_getElem i h
  have := idxOf_reverse_add_idxOf hd hmem
  simp only [documentRank, if_pos hmem]
  omega

/-! ### Reports over ranked documents -/

section Building

variable (policy : WarningPolicy) (rank : Nat → Nat) (links : List CheckedLink)
  (anomalies : List Anomaly)

/-- Whether a checked link's outcome is a problem that the policy reports. -/
def Reported (l : CheckedLink) : Bool := !l.outcome.isValid && policy != .ignore

theorem map_link_filterMap_ofLink :
    (links.filterMap (Diagnostic.ofLink? policy)).map (·.link) = links.filter (Reported policy) := by
  induction links with
  | nil => rfl
  | cons l links ih =>
    by_cases h : l.outcome.isValid || policy == .ignore
    · have hr : Reported policy l = false := by
        simp only [Reported, Bool.and_eq_false_iff, Bool.not_eq_false', bne_eq_false_iff_eq]
        simpa [beq_iff_eq] using h
      simp [Diagnostic.ofLink?, h, hr, ih]
    · have hr : Reported policy l = true := by
        simp only [Reported, Bool.and_eq_true, Bool.not_eq_true', bne_iff_ne, ne_eq]
        simpa [beq_iff_eq, not_or] using h
      simp [Diagnostic.ofLink?, h, hr, ih]

theorem severity_of_mem_filterMap_ofLink {d : Diagnostic}
    (hd : d ∈ links.filterMap (Diagnostic.ofLink? policy)) :
    d.severity = if policy = .error then .error else d.link.outcome.status := by
  obtain ⟨l, -, hl⟩ := List.mem_filterMap.1 hd
  unfold Diagnostic.ofLink? at hl
  split at hl
  · cases hl
  · cases hl
    by_cases he : policy = .error <;> simp [he]

theorem buildBy_diagnostics :
    (buildBy policy rank links anomalies).diagnostics =
      (links.filterMap (Diagnostic.ofLink? policy)).mergeSort
        (fun a b => keyLE (a.link.orderKey rank) (b.link.orderKey rank)) := rfl

theorem buildBy_perm :
    List.Perm ((buildBy policy rank links anomalies).diagnostics.map (·.link))
      (links.filter (Reported policy)) := by
  rw [buildBy_diagnostics, ← map_link_filterMap_ofLink]
  exact (List.mergeSort_perm _ _).map _

theorem buildBy_stable (k : Nat × String × Nat) :
    ((buildBy policy rank links anomalies).diagnostics.map (·.link)).filter
        (·.orderKey rank == k) =
      (links.filter (Reported policy)).filter (·.orderKey rank == k) := by
  rw [buildBy_diagnostics, List.filter_map, ← map_link_filterMap_ofLink, List.filter_map]
  exact congrArg _ (filter_mergeSort_keyLE (fun d : Diagnostic => d.link.orderKey rank) _ k)

theorem verdict_eq_true_iff (diagnostics : List Diagnostic) :
    verdict policy diagnostics anomalies = true ↔
      anomalies = [] ∧ ¬ (policy = .error ∧ diagnostics ≠ []) := by
  by_cases hp : policy = .error <;> simp [verdict, hp, List.isEmpty_iff]

theorem buildBy_success_iff :
    (buildBy policy rank links anomalies).success = true ↔
      anomalies = [] ∧ ¬ (policy = .error ∧ (buildBy policy rank links anomalies).diagnostics ≠ []) :=
  verdict_eq_true_iff policy anomalies _

theorem link_mem_of_mem_filterMap_ofLink {d : Diagnostic}
    (hd : d ∈ links.filterMap (Diagnostic.ofLink? policy)) : d.link ∈ links := by
  obtain ⟨l, hl, hd⟩ := List.mem_filterMap.1 hd
  unfold Diagnostic.ofLink? at hd
  split at hd
  · cases hd
  · cases hd
    exact hl

theorem buildBy_congr {rank' : Nat → Nat}
    (h : ∀ l ∈ links, rank l.docIndex = rank' l.docIndex) :
    buildBy policy rank links anomalies = buildBy policy rank' links anomalies := by
  have hkey : ∀ a ∈ links.filterMap (Diagnostic.ofLink? policy),
      ∀ b ∈ links.filterMap (Diagnostic.ofLink? policy),
      keyLE (a.link.orderKey rank) (b.link.orderKey rank) =
        keyLE (a.link.orderKey rank') (b.link.orderKey rank') := by
    intro a ha b hb
    simp only [CheckedLink.orderKey, h a.link (link_mem_of_mem_filterMap_ofLink policy links ha),
      h b.link (link_mem_of_mem_filterMap_ofLink policy links hb)]
  have hsort := List.map_mergeSort (f := id)
    (s := fun a b : Diagnostic => keyLE (a.link.orderKey rank') (b.link.orderKey rank')) hkey
  rw [List.map_id, List.map_id] at hsort
  unfold buildBy
  rw [hsort]

end Building

/-- The report over a sequence of documents. Its diagnostics are the links whose outcome is a
problem, unless problems are ignored, each once; they are sorted by their keys (the rank of the
document, its path, and where the href starts), and links of equal keys keep their order. Every
diagnostic is an error when the policy makes all problems errors, and otherwise has its
outcome's status; every link is counted; and the run succeeds exactly when there is no anomaly
and not both the policy makes problems errors and there is a diagnostic. Over a sequence that
lists each document once, the document at position `i` ranks `i`, and one it does not list
ranks after all of them. -/
theorem aggregate_orders_problems (policy : WarningPolicy) (links : List CheckedLink)
    (documents : List Nat) (anomalies : List Anomaly) :
    List.Perm ((aggregate policy links documents anomalies).diagnostics.map (·.link))
        (links.filter (fun l => !l.outcome.isValid && policy != .ignore)) ∧
      (aggregate policy links documents anomalies).diagnostics.Pairwise (fun a b =>
        keyLE (a.link.orderKey (documentRank documents))
          (b.link.orderKey (documentRank documents)) = true) ∧
      (∀ k, ((aggregate policy links documents anomalies).diagnostics.map (·.link)).filter
          (·.orderKey (documentRank documents) == k) =
        (links.filter (fun l => !l.outcome.isValid && policy != .ignore)).filter
          (·.orderKey (documentRank documents) == k)) ∧
      (∀ d ∈ (aggregate policy links documents anomalies).diagnostics,
        d.severity = if policy = .error then .error else d.link.outcome.status) ∧
      (aggregate policy links documents anomalies).checked = links.length ∧
      ((aggregate policy links documents anomalies).success = true ↔
        anomalies = [] ∧
          ¬ (policy = .error ∧ (aggregate policy links documents anomalies).diagnostics ≠ [])) ∧
      (documents.Nodup →
        (∀ i (h : i < documents.length), documentRank documents documents[i] = i) ∧
          ∀ doc ∉ documents, documentRank documents doc = documents.length) := by
  refine ⟨buildBy_perm policy _ links anomalies,
    pairwise_mergeSort_keyLE (fun d : Diagnostic => d.link.orderKey (documentRank documents)) _,
    buildBy_stable policy _ links anomalies, fun d hd => ?_, rfl,
    buildBy_success_iff policy _ links anomalies, documentRank_of_nodup⟩
  exact severity_of_mem_filterMap_ofLink policy links (List.mem_mergeSort.1 hd)

theorem build_eq_aggregate (policy : WarningPolicy) (links : List CheckedLink)
    (anomalies : List Anomaly) {n : Nat} (h : ∀ l ∈ links, l.docIndex < n) :
    build policy links anomalies = aggregate policy links (List.range n) anomalies := by
  apply buildBy_congr
  intro l hl
  have := (documentRank_of_nodup (List.nodup_range (n := n))).1 l.docIndex (by simpa using h l hl)
  simpa using this.symm

end BookLinks.Report
