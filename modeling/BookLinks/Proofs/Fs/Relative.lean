import BookLinks.Fs.Volume
import Mathlib
/-!
# Relative paths lead back

Paths here are written from names: `pathOf ns` is the absolute path of the names `ns`, and
`"/".intercalate ns` the relative one. For names that folding keeps as they are (`ProperName`),
joining, folding and splitting compute on the names alone, and the relative path from one
directory to a target, computed from any working directory, leads from that directory back to
the target (`normalize_join_relative`).
-/
namespace BookLinks.Fs

/-- A name that folding keeps as it is: not empty, not `.` or `..`, and without a separator. -/
structure ProperName (n : String) : Prop where
  ne_empty : n ≠ ""
  ne_dot : n ≠ "."
  ne_dotdot : n ≠ ".."
  no_slash : '/' ∉ n.toList

theorem properName_iff {n : String} :
    ProperName n ↔ n ≠ "" ∧ n ≠ "." ∧ n ≠ ".." ∧ '/' ∉ n.toList :=
  ⟨fun h => ⟨h.ne_empty, h.ne_dot, h.ne_dotdot, h.no_slash⟩,
    fun h => ⟨h.1, h.2.1, h.2.2.1, h.2.2.2⟩⟩

instance (n : String) : Decidable (ProperName n) := decidable_of_iff _ properName_iff.symm

/-- A name that joining keeps apart from its neighbours: not empty and without a separator. -/
def Segment (n : String) : Prop := n ≠ "" ∧ '/' ∉ n.toList

theorem ProperName.segment {n : String} (h : ProperName n) : Segment n := ⟨h.ne_empty, h.no_slash⟩

theorem ProperName.forall_segment {ns : List String} (h : ∀ n ∈ ns, ProperName n) :
    ∀ n ∈ ns, Segment n := fun n hn => (h n hn).segment

theorem segment_dot : Segment "." := ⟨by decide, by decide⟩

theorem segment_dotdot : Segment ".." := ⟨by decide, by decide⟩

/-! ### Splitting and joining -/

theorem toList_pathOf (ns : List String) :
    (pathOf ns).toList = '/' :: ("/".intercalate ns).toList := by
  simp [pathOf]

theorem components_intercalate {ns : List String} (hne : ns ≠ [])
    (hs : ∀ n ∈ ns, '/' ∉ n.toList) : components ("/".intercalate ns) = ns := by
  unfold components
  rw [String.toList_intercalate, show "/".toList = ['/'] from rfl, List.splitOn_intercalate]
  · simp
  · simpa using hs
  · simpa using hne

theorem components_pathOf {ns : List String} (hne : ns ≠ []) (hs : ∀ n ∈ ns, '/' ∉ n.toList) :
    components (pathOf ns) = "" :: ns := by
  have h := components_intercalate hne hs
  unfold components at h ⊢
  rewrite [toList_pathOf, List.splitOn_cons_eq_if_modifyHead, if_pos (by decide), List.map_cons, h]
  rfl

theorem pathOf_append {xs ys : List String} (hxs : xs ≠ []) (hys : ys ≠ []) :
    pathOf (xs ++ ys) = pathOf xs ++ "/" ++ "/".intercalate ys := by
  simp only [pathOf, String.intercalate_append_of_ne_nil hxs hys, String.append_assoc]

theorem head?_intercalate {n : String} (ns : List String) (hn : n ≠ "") :
    ("/".intercalate (n :: ns)).toList.head? = n.toList.head? := by
  obtain ⟨c, cs, hc⟩ := List.exists_cons_of_ne_nil (mt String.toList_eq_nil_iff.1 hn)
  cases ns <;> simp [hc]

theorem getLast?_pathOf {xs : List String} {n : String} (hn : n ≠ "") :
    (pathOf (xs ++ [n])).toList.getLast? = n.toList.getLast? := by
  have hne : n.toList ≠ [] := mt String.toList_eq_nil_iff.1 hn
  rcases List.eq_nil_or_concat xs with rfl | ⟨ys, y, rfl⟩
  · obtain ⟨c, cs, hc⟩ := List.exists_cons_of_ne_nil hne
    simp [pathOf, hc]
  · rw [pathOf_append (by simp) (by simp), String.intercalate_singleton, String.toList_append,
      List.getLast?_append_of_ne_nil _ hne]

theorem startsWith_intercalate {ns : List String} (hne : ns ≠ []) (hs : ∀ n ∈ ns, Segment n) :
    ("/".intercalate ns).startsWith "/" = false := by
  obtain ⟨n, ns, rfl⟩ := List.exists_cons_of_ne_nil hne
  have hn := hs n (by simp)
  rw [String.startsWith_string_eq_false_iff, show "/".toList = ['/'] from rfl,
    List.singleton_prefix_iff_head?_eq_some, head?_intercalate _ hn.1]
  intro h
  exact hn.2 (List.mem_of_head? h)

theorem endsWith_pathOf_nil : (pathOf []).endsWith "/" = true := by
  simp [pathOf, ← String.endsWith_toSlice]

theorem pathOf_ne_empty (ns : List String) : pathOf ns ≠ "" := by
  simp [pathOf]

theorem endsWith_pathOf {xs : List String} (hxs : xs ≠ []) (hs : ∀ n ∈ xs, Segment n) :
    (pathOf xs).endsWith "/" = false := by
  rcases List.eq_nil_or_concat xs with rfl | ⟨ys, n, rfl⟩
  · exact absurd rfl hxs
  have hn := hs n (by simp)
  simp only [← String.endsWith_toSlice, String.Slice.endsWith_string_eq_false_iff,
    String.copy_toSlice, show "/".toList = ['/'] from rfl,
    List.singleton_suffix_iff_getLast?_eq_some, List.concat_eq_append, getLast?_pathOf hn.1]
  intro h
  exact hn.2 (List.mem_of_getLast? h)

theorem join_pathOf {xs ys : List String} (hxs : ∀ n ∈ xs, Segment n) (hys : ys ≠ [])
    (hy : ∀ n ∈ ys, Segment n) : join (pathOf xs) ("/".intercalate ys) = pathOf (xs ++ ys) := by
  unfold join
  rw [if_neg (by simp [startsWith_intercalate hys hy])]
  by_cases hne : xs = []
  · subst hne
    rw [if_pos (Or.inr endsWith_pathOf_nil)]
    rfl
  · rw [if_neg (by simp [pathOf_ne_empty, endsWith_pathOf hne hxs]), pathOf_append hne hys]

theorem startsWith_pathOf_double {ns : List String} (hs : ∀ n ∈ ns, Segment n) :
    (pathOf ns).startsWith "//" = false := by
  rw [String.startsWith_string_eq_false_iff, toList_pathOf, show "//".toList = ['/', '/'] from rfl,
    List.cons_prefix_cons, not_and, List.singleton_prefix_iff_head?_eq_some]
  intro _ h
  cases ns with
  | nil => simp at h
  | cons n ns =>
    have hn := hs n (by simp)
    rw [head?_intercalate _ hn.1] at h
    exact hn.2 (List.mem_of_head? h)

theorem startsWith_pathOf (ns : List String) : (pathOf ns).startsWith "/" = true := by
  simp [pathOf]

/-! ### Folding names -/

/-- One step of `foldNames`: a name is kept, `.` and the empty name are dropped, and `..` takes
back the name kept before it. -/
def foldStep (absolute : Bool) (acc : List String) (n : String) : List String :=
  if n = "" ∨ n = "." then acc
  else if n ≠ ".." then n :: acc
  else match acc with
    | [] => if absolute then [] else [n]
    | ".." :: _ => n :: acc
    | _ :: rest => rest

theorem foldNames_eq_foldl (absolute : Bool) (ns : List String) :
    foldNames absolute ns = (ns.foldl (foldStep absolute) []).reverse := rfl

@[simp] theorem foldStep_empty (a : Bool) (acc : List String) : foldStep a acc "" = acc := by
  simp [foldStep]

@[simp] theorem foldStep_dot (a : Bool) (acc : List String) : foldStep a acc "." = acc := by
  simp [foldStep]

theorem foldStep_proper {n : String} (h : ProperName n) (a : Bool) (acc : List String) :
    foldStep a acc n = n :: acc := by
  simp [foldStep, h.ne_empty, h.ne_dot, h.ne_dotdot]

theorem foldStep_dotdot {x : String} (hx : x ≠ "..") (a : Bool) (acc : List String) :
    foldStep a (x :: acc) ".." = acc := by
  -- the match falls through to its last case, as `x` is no `..`
  simp only [foldStep, show ¬(".." = "" ∨ ".." = ".") by decide, if_false, ne_eq,
    not_true_eq_false]

theorem foldl_proper {ns : List String} (h : ∀ n ∈ ns, ProperName n) (a : Bool)
    (acc : List String) : ns.foldl (foldStep a) acc = ns.reverse ++ acc := by
  induction ns generalizing acc with
  | nil => rfl
  | cons n ns ih =>
    rewrite [List.foldl_cons, foldStep_proper (h n (by simp)), ih (fun m hm => h m (by simp [hm]))]
    simp

theorem foldl_dotdots (a : Bool) :
    ∀ (m : Nat) (acc : List String), m ≤ acc.length → (∀ x ∈ acc, x ≠ "..") →
      (List.replicate m "..").foldl (foldStep a) acc = acc.drop m
  | 0, acc, _, _ => rfl
  | m + 1, [], hm, _ => by simp at hm
  | m + 1, x :: acc, hm, hx => by
    rw [List.replicate_succ, List.foldl_cons, foldStep_dotdot (hx x (by simp))]
    exact foldl_dotdots a m acc (by simpa using hm) (fun y hy => hx y (by simp [hy]))

theorem foldNames_proper {ns : List String} (h : ∀ n ∈ ns, ProperName n) (a : Bool) :
    foldNames a ns = ns := by
  rw [foldNames_eq_foldl, foldl_proper h, List.append_nil, List.reverse_reverse]

theorem foldNames_cancel {xs ys zs : List String} (hx : ∀ n ∈ xs, ProperName n)
    (hy : ∀ n ∈ ys, ProperName n) (hz : ∀ n ∈ zs, ProperName n) {j : Nat} (hj : j ≤ ys.length)
    (a : Bool) :
    foldNames a (xs ++ ys ++ (List.replicate j ".." ++ zs)) = xs ++ ys.take (ys.length - j) ++ zs := by
  have hxy : ∀ n ∈ xs ++ ys, ProperName n := List.forall_mem_append.2 ⟨hx, hy⟩
  have hkept : ∀ x ∈ (xs ++ ys).reverse, x ≠ ".." := fun x hm =>
    (hxy x (List.mem_reverse.1 hm)).ne_dotdot
  rw [foldNames_eq_foldl, List.foldl_append, List.foldl_append, foldl_proper hxy, List.append_nil,
    foldl_dotdots a j _ (by simp; omega) hkept, foldl_proper hz, List.reverse_append,
    List.reverse_reverse, List.reverse_append, List.drop_append_of_le_length (by simpa using hj)]
  simp [List.drop_reverse]

theorem foldNames_append_dot (a : Bool) (ns : List String) :
    foldNames a (ns ++ ["."]) = foldNames a ns := by
  rw [foldNames_eq_foldl, foldNames_eq_foldl, List.foldl_append, List.foldl_cons, foldStep_dot,
    List.foldl_nil]

theorem foldNames_cons_empty (a : Bool) (ns : List String) :
    foldNames a ("" :: ns) = foldNames a ns := by
  rw [foldNames_eq_foldl, List.foldl_cons, foldStep_empty, ← foldNames_eq_foldl]

theorem foldNames_components_pathOf {ns : List String} (h : ∀ n ∈ ns, ProperName n) :
    foldNames true (components (pathOf ns)) = ns := by
  cases ns with
  | nil => rfl
  | cons n ns =>
    rw [components_pathOf (by simp) (fun m hm => (h m hm).no_slash), foldNames_cons_empty,
      foldNames_proper h]

theorem normalize_pathOf {ns : List String} (hs : ∀ n ∈ ns, Segment n) :
    normalize (pathOf ns) = pathOf (foldNames true ns) := by
  have hnames : foldNames true (components (pathOf ns)) = foldNames true ns := by
    cases ns with
    | nil => rfl
    | cons n ns => rw [components_pathOf (by simp) (fun m hm => (hs m hm).2), foldNames_cons_empty]
  have habs : decide (("/" : String) ≠ "") = true := by decide
  unfold normalize
  simp only [pathOf_ne_empty, startsWith_pathOf_double hs, startsWith_pathOf,
    Bool.false_eq_true, false_and, ↓reduceIte, habs, hnames]
  rw [if_neg (by simp)]
  rfl

/-! ### Joining a directory that may be the root -/

theorem join_join_empty {xs : List String} (hxs : ∀ n ∈ xs, Segment n) (rest : String) :
    join (join (pathOf xs) "") rest = join (pathOf xs) rest := by
  by_cases hr : rest.startsWith "/" = true
  · simp [join, hr]
  · by_cases hne : xs = []
    · subst hne
      have hroot : join (pathOf []) "" = pathOf [] := by simp [join, endsWith_pathOf_nil]
      rw [hroot]
    · have hsep : join (pathOf xs) "" = pathOf xs ++ "/" := by
        simp [join, pathOf_ne_empty, endsWith_pathOf hne hxs]
      have hend : (pathOf xs ++ "/").endsWith "/" = true := by simp [← String.endsWith_toSlice]
      rw [hsep]
      simp [join, hr, hend, pathOf_ne_empty, endsWith_pathOf hne hxs, String.append_assoc]

/-! ### The relative path -/

theorem absoluteNames_pathOf {cs ys : List String} (hcs : ∀ n ∈ cs, ProperName n)
    (hne : ys ≠ []) (hys : ∀ n ∈ ys, ProperName n) :
    absoluteNames (pathOf cs) ("/".intercalate ys) = cs ++ ys := by
  have hall : ∀ n ∈ cs ++ ys, ProperName n := List.forall_mem_append.2 ⟨hcs, hys⟩
  rw [absoluteNames, join_pathOf (ProperName.forall_segment hcs) hne
      (ProperName.forall_segment hys), normalize_pathOf (ProperName.forall_segment hall),
    foldNames_proper hall, foldNames_components_pathOf hall]

theorem absoluteNames_pathOf_dot {cs : List String} (hcs : ∀ n ∈ cs, ProperName n) :
    absoluteNames (pathOf cs) "." = cs := by
  have hdot : "/".intercalate ["."] = "." := String.intercalate_singleton
  have hseg : ∀ n ∈ cs ++ ["."], Segment n :=
    List.forall_mem_append.2 ⟨ProperName.forall_segment hcs, by simpa using segment_dot⟩
  rw [← hdot, absoluteNames, join_pathOf (ProperName.forall_segment hcs) (by simp)
      (by simpa using segment_dot), normalize_pathOf hseg, foldNames_append_dot,
    foldNames_proper hcs, foldNames_components_pathOf hcs]

/-- How many names two lists of names share from their start, as `relative` counts them. -/
def sharedLength (a b : List String) : Nat := ((a.zip b).takeWhile fun p => p.1 = p.2).length

theorem sharedLength_append (cs a b : List String) :
    sharedLength (cs ++ a) (cs ++ b) = cs.length + sharedLength a b := by
  induction cs with
  | nil => simp
  | cons c cs ih =>
    simp only [sharedLength] at ih ⊢
    rw [List.cons_append, List.cons_append, List.zip_cons_cons,
      List.takeWhile_cons_of_pos (by simp), List.length_cons, ih, List.length_cons]
    omega

theorem take_sharedLength : ∀ a b : List String, a.take (sharedLength a b) = b.take (sharedLength a b)
  | [], _ => by simp [sharedLength]
  | _ :: _, [] => by simp [sharedLength]
  | x :: a, y :: b => by
    by_cases h : x = y
    · subst h
      have ih := take_sharedLength a b
      simp only [sharedLength] at ih ⊢
      rw [List.zip_cons_cons, List.takeWhile_cons_of_pos (by simp), List.length_cons,
        List.take_succ_cons, List.take_succ_cons, ih]
    · simp [sharedLength, List.zip_cons_cons, h]

theorem sharedLength_le_right (a b : List String) : sharedLength a b ≤ b.length :=
  (List.takeWhile_prefix _).length_le.trans (by simp)

/-- The names of the relative path from the directory `ds` to `es`: a `..` for each name of the
directory past those they share, then the names of the target past them. -/
def relativeSteps (es ds : List String) : List String :=
  List.replicate (ds.length - sharedLength es ds) ".." ++ es.drop (sharedLength es ds)

theorem relative_pathOf {cs ds es : List String} (hcs : ∀ n ∈ cs, ProperName n)
    (hds : ∀ n ∈ ds, ProperName n) (hne : es ≠ []) (hes : ∀ n ∈ es, ProperName n) :
    relative (pathOf cs) ("/".intercalate es) (if ds = [] then "." else "/".intercalate ds) =
      if (relativeSteps es ds).isEmpty then "." else "/".intercalate (relativeSteps es ds) := by
  have hstart : absoluteNames (pathOf cs) (if ds = [] then "." else "/".intercalate ds) =
      cs ++ ds := by
    split
    · next h =>
      subst h
      rw [absoluteNames_pathOf_dot hcs, List.append_nil]
    · next h => exact absoluteNames_pathOf hcs h hds
  have hshared : (((cs ++ es).zip (cs ++ ds)).takeWhile fun p => p.1 = p.2).length =
      cs.length + sharedLength es ds := sharedLength_append cs es ds
  have hlen : (cs ++ ds).length - (cs.length + sharedLength es ds) =
      ds.length - sharedLength es ds := by
    rw [List.length_append]
    omega
  have hdrop : (cs ++ es).drop (cs.length + sharedLength es ds) = es.drop (sharedLength es ds) := by
    simp
  unfold relative
  simp only [absoluteNames_pathOf hcs hne hes, hstart, hshared, hlen, hdrop, relativeSteps]
  rfl

theorem segment_of_mem_relativeSteps {es ds : List String} (hes : ∀ n ∈ es, ProperName n)
    {n : String} (h : n ∈ relativeSteps es ds) : Segment n := by
  rcases List.mem_append.1 h with h | h
  · rw [List.eq_of_mem_replicate h]
    exact segment_dotdot
  · exact (hes n (List.mem_of_mem_drop h)).segment

/-- The relative path from a directory to a target leads back to the target: below a root of
proper names, the directory joined with the relative path, computed from any working directory of
proper names, folds to the target. -/
theorem normalize_join_relative {rs cs ds es : List String} (hrs : ∀ n ∈ rs, ProperName n)
    (hcs : ∀ n ∈ cs, ProperName n) (hds : ∀ n ∈ ds, ProperName n) (hne : es ≠ [])
    (hes : ∀ n ∈ es, ProperName n) :
    normalize (join (join (pathOf rs) ("/".intercalate ds))
      (relative (pathOf cs) ("/".intercalate es) (if ds = [] then "." else "/".intercalate ds))) =
      pathOf (rs ++ es) := by
  have hkd := sharedLength_le_right es ds
  have htake := take_sharedLength es ds
  have hrseg := ProperName.forall_segment hrs
  have hrds : ∀ n ∈ rs ++ ds, ProperName n := List.forall_mem_append.2 ⟨hrs, hds⟩
  have hdir : ∀ rest, join (join (pathOf rs) ("/".intercalate ds)) rest =
      join (pathOf (rs ++ ds)) rest := by
    intro rest
    by_cases hd : ds = []
    · subst hd
      rw [String.intercalate_nil, join_join_empty hrseg, List.append_nil]
    · rw [join_pathOf hrseg hd (ProperName.forall_segment hds)]
  rw [relative_pathOf hcs hds hne hes, hdir]
  split
  · -- no steps: the target is the directory itself
    next hempty =>
    have hsteps := List.isEmpty_iff.1 hempty
    simp only [relativeSteps, List.append_eq_nil_iff, List.replicate_eq_nil_iff,
      List.drop_eq_nil_iff] at hsteps
    have hk : sharedLength es ds = ds.length := by omega
    have hsame : es = ds := by
      rw [← List.take_of_length_le hsteps.2, htake, hk, List.take_length]
    have hdot : "/".intercalate ["."] = "." := String.intercalate_singleton
    have hseg : ∀ n ∈ rs ++ ds ++ ["."], Segment n :=
      List.forall_mem_append.2 ⟨ProperName.forall_segment hrds, by simpa using segment_dot⟩
    rw [← hdot, join_pathOf (ProperName.forall_segment hrds) (by simp) (by simpa using segment_dot),
      normalize_pathOf hseg, foldNames_append_dot, foldNames_proper hrds, hsame]
  · -- the steps climb to the shared names and go down to the target
    next hsteps =>
    have hne' : relativeSteps es ds ≠ [] := fun h => hsteps (List.isEmpty_iff.2 h)
    have hstepSeg : ∀ n ∈ relativeSteps es ds, Segment n := fun n hn =>
      segment_of_mem_relativeSteps hes hn
    have hseg : ∀ n ∈ rs ++ ds ++ relativeSteps es ds, Segment n :=
      List.forall_mem_append.2 ⟨ProperName.forall_segment hrds, hstepSeg⟩
    rw [join_pathOf (ProperName.forall_segment hrds) hne' hstepSeg, normalize_pathOf hseg,
      relativeSteps,
      foldNames_cancel hrs hds (fun n hn => hes n (List.mem_of_mem_drop hn)) (Nat.sub_le _ _),
      Nat.sub_sub_self hkd, ← htake, List.append_assoc, List.take_append_drop]

/-! ### The directory of a relative path -/

theorem getLast?_intercalate (xs : List String) {n : String} (hn : n ≠ "") :
    ("/".intercalate (xs ++ [n])).toList.getLast? = n.toList.getLast? := by
  have hne : n.toList ≠ [] := mt String.toList_eq_nil_iff.1 hn
  by_cases hxs : xs = []
  · subst hxs
    simp
  · rw [String.intercalate_append_of_ne_nil hxs (by simp), String.intercalate_singleton,
      String.toList_append, List.getLast?_append_of_ne_nil _ hne]

theorem intercalate_eq_cons {ns : List String} (hne : ns ≠ []) (hs : ∀ n ∈ ns, Segment n) :
    ∃ c rest, ("/".intercalate ns).toList = c :: rest ∧ c ≠ '/' := by
  obtain ⟨n, ns, rfl⟩ := List.exists_cons_of_ne_nil hne
  have hn := hs n (by simp)
  obtain ⟨c, cs, hc⟩ := List.exists_cons_of_ne_nil (mt String.toList_eq_nil_iff.1 hn.1)
  have hhead : ("/".intercalate (n :: ns)).toList.head? = some c := by
    rw [head?_intercalate ns hn.1, hc, List.head?_cons]
  obtain ⟨rest, hrest⟩ := List.head?_eq_some_iff.1 hhead
  exact ⟨c, rest, hrest, fun h => hn.2 (by simp [hc, h])⟩

theorem intercalate_eq_concat {ns : List String} (hne : ns ≠ []) (hs : ∀ n ∈ ns, Segment n) :
    ∃ rest d, ("/".intercalate ns).toList = rest ++ [d] ∧ d ≠ '/' := by
  obtain ⟨ls, l, rfl⟩ := (List.eq_nil_or_concat' ns).resolve_left hne
  have hl := hs l (by simp)
  obtain ⟨cs, d, hd⟩ :=
    (List.eq_nil_or_concat' l.toList).resolve_left (mt String.toList_eq_nil_iff.1 hl.1)
  have hlast : ("/".intercalate (ls ++ [l])).toList.getLast? = some d := by
    rw [getLast?_intercalate ls hl.1, hd, List.getLast?_concat]
  obtain ⟨rest, hrest⟩ := List.getLast?_eq_some_iff.1 hlast
  exact ⟨rest, d, hrest, fun h => hl.2 (by simp [hd, h])⟩

theorem intercalate_eq_empty_iff {ns : List String} (hs : ∀ n ∈ ns, Segment n) :
    "/".intercalate ns = "" ↔ ns = [] := by
  constructor
  · intro h
    by_contra hne
    obtain ⟨c, rest, hc, -⟩ := intercalate_eq_cons hne hs
    simp [h] at hc
  · rintro rfl
    rfl

theorem dirName_intercalate {ds : List String} (hne : ds ≠ []) (hs : ∀ n ∈ ds, Segment n) :
    dirName ("/".intercalate ds) = "/".intercalate ds.dropLast := by
  obtain ⟨ys, n, rfl⟩ : ∃ ys n, ds = ys ++ [n] :=
    ⟨ds.dropLast, ds.getLast hne, (List.dropLast_append_getLast hne).symm⟩
  have hn := hs n (by simp)
  have hnone : n.toList.reverse.findIdx? (· == '/') = none := by
    rw [List.findIdx?_eq_none_iff]
    intro c hc
    simpa using fun h : c = '/' => hn.2 (h ▸ List.mem_reverse.1 hc)
  rw [List.dropLast_concat]
  by_cases hys : ys = []
  · -- one name: no separator, so no directory
    subst hys
    simp [dirName, hnone]
  · -- the last separator ends the names before the last
    have hyseg : ∀ m ∈ ys, Segment m := fun m hm => hs m (by simp [hm])
    obtain ⟨c, cs, hfirst, hcne⟩ := intercalate_eq_cons hys hyseg
    obtain ⟨cs', d, hlast, hdne⟩ := intercalate_eq_concat hys hyseg
    have htext : ("/".intercalate (ys ++ [n])).toList =
        ("/".intercalate ys).toList ++ '/' :: n.toList := by
      rw [String.intercalate_append_of_ne_nil hys (by simp), String.intercalate_singleton]
      simp
    have hidx : (("/".intercalate ys).toList ++ '/' :: n.toList).reverse.findIdx? (· == '/') =
        some n.toList.length := by
      simp [List.findIdx?_append, hnone, List.findIdx?_cons]
    have htake : (("/".intercalate ys).toList ++ '/' :: n.toList).take
        ((("/".intercalate ys).toList ++ '/' :: n.toList).length - n.toList.length) =
        ("/".intercalate ys).toList ++ ['/'] := by
      rw [← List.singleton_append, ← List.append_assoc, List.length_append, Nat.add_sub_cancel,
        List.take_left]
    have hall : (("/".intercalate ys).toList ++ ['/']).all (· == '/') = false := by
      simp [hfirst, hcne]
    have hdrop : ((("/".intercalate ys).toList ++ ['/']).reverse.dropWhile (· == '/')).reverse =
        ("/".intercalate ys).toList := by
      simp [hlast, hdne]
    unfold dirName
    simp only [htext, hidx, htake, hall, Bool.false_eq_true, ↓reduceIte, hdrop,
      String.ofList_toList]

theorem names_intercalate {ds : List String} (hne : ds ≠ []) (hs : ∀ n ∈ ds, ProperName n) :
    names ("/".intercalate ds) = ds := by
  rw [names, components_intercalate hne (fun n hn => (hs n hn).no_slash), List.filter_eq_self]
  intro n hn
  simp [(hs n hn).ne_empty, (hs n hn).ne_dot]

theorem rootOf_intercalate {ds : List String} (hs : ∀ n ∈ ds, Segment n) :
    rootOf ("/".intercalate ds) = "" := by
  by_cases hne : ds = []
  · subst hne
    rfl
  · obtain ⟨c, rest, hrest, hcne⟩ := intercalate_eq_cons hne hs
    unfold rootOf
    rw [hrest]
    dsimp only
    split <;> simp_all

theorem parent_intercalate {ds : List String} (hne : ds ≠ []) (hs : ∀ n ∈ ds, ProperName n) :
    parent ("/".intercalate ds) = if ds.dropLast = [] then "." else "/".intercalate ds.dropLast := by
  have hseg : ∀ n ∈ ds.dropLast, Segment n := fun n hn => (hs n (List.mem_of_mem_dropLast hn)).segment
  unfold parent assemble
  simp only [names_intercalate hne hs, rootOf_intercalate (ProperName.forall_segment hs),
    List.isEmpty_iff, hne, if_false, true_and, intercalate_eq_empty_iff hseg, String.empty_append]

theorem intercalate_ne_dot {ns : List String} (hne : ns ≠ []) (hs : ∀ n ∈ ns, ProperName n) :
    "/".intercalate ns ≠ "." := by
  intro h
  have hsplit := components_intercalate hne (fun n hn => (hs n hn).no_slash)
  rw [h, show components "." = ["."] from rfl] at hsplit
  exact (hs "." (by simp [← hsplit])).ne_dot rfl

end BookLinks.Fs
