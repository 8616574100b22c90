import BookLinks.Link.Href
import BookLinks.Proofs.Text.Trim
/-!
# Writing a classified link back

`Target.toHref` writes a classified link as an href: a `#` in a path is escaped and a path
that would read as a scheme, or that is empty before a fragment, is marked with `./`. Every
href that is not a `file:` URL is written back exactly as it was read, blanks at its ends
dropped, so it classifies again to the same link. A path read from a `file:` URL may need the
`./` mark, and then reads back with it; that holds whenever the written href has no blank at
either end and no backslash before the `#` of its fragment.
-/
namespace BookLinks.Link

open BookLinks.Text

/-! ### Escaped hashes -/

theorem escapeHashes_cons_of_ne {c : Char} (hc : c ≠ '#') (p : List Char) :
    escapeHashes (c :: p) = c :: escapeHashes p :=
  escapeHashes.eq_2 c p (by simpa using hc)

theorem escapeHashes_append (a b : List Char) :
    escapeHashes (a ++ b) = escapeHashes a ++ escapeHashes b := by
  induction a with
  | nil => rfl
  | cons c a ih =>
    by_cases hc : c = '#'
    · subst hc; simp [escapeHashes, ih]
    · simp [escapeHashes_cons_of_ne hc, ih]

theorem head?_escapeHashes_ne (p : List Char) : (escapeHashes p).head? ≠ some '#' := by
  cases p with
  | nil => simp [escapeHashes]
  | cons c p =>
    by_cases hc : c = '#'
    · subst hc; simp [escapeHashes]
    · simp [escapeHashes_cons_of_ne hc, hc]

theorem getLast?_escapeHashes (p : List Char) : (escapeHashes p).getLast? = p.getLast? := by
  induction p with
  | nil => rfl
  | cons c p ih =>
    by_cases hc : c = '#'
    · subst hc; simp [escapeHashes, List.getLast?_cons, ih]
    · simp [escapeHashes_cons_of_ne hc, List.getLast?_cons, ih]

theorem unescapeHashes_cons_of_head? {c : Char} {l : List Char}
    (h : c ≠ '\\' ∨ l.head? ≠ some '#') : unescapeHashes (c :: l) = c :: unescapeHashes l := by
  cases l with
  | nil => simp [unescapeHashes]
  | cons d l =>
    apply unescapeHashes.eq_2
    intro rest hc hd
    simp_all

@[simp]
theorem unescapeHashes_escapeHashes (p : List Char) : unescapeHashes (escapeHashes p) = p := by
  induction p with
  | nil => rfl
  | cons c p ih =>
    by_cases hc : c = '#'
    · subst hc; simp [escapeHashes, unescapeHashes, ih]
    · rw [escapeHashes_cons_of_ne hc,
        unescapeHashes_cons_of_head? (.inr (head?_escapeHashes_ne p)), ih]

/-! ### The fragment split

The splitter keeps what it has read reversed in an accumulator; the lemmas below follow its
recursion and say what the accumulator holds. -/

theorem splitFragment_go_escapeHashes_append (p rest before : List Char) :
    splitFragment.go before (escapeHashes p ++ rest) =
      splitFragment.go ((escapeHashes p).reverse ++ before) rest := by
  induction p generalizing before with
  | nil => rfl
  | cons c p ih =>
    by_cases hc : c = '#'
    · subst hc
      simp only [escapeHashes, List.cons_append]
      rw [splitFragment.go.eq_3 _ _ _ (by decide), splitFragment.go.eq_2]
      simp [ih]
    · simp only [escapeHashes_cons_of_ne hc, List.cons_append]
      rw [splitFragment.go.eq_3 _ _ _ hc, ih]
      simp

theorem splitFragment_go_escaped (cs q : List Char) :
    ∃ q', (splitFragment.go (escapeHashes q).reverse cs).1 = escapeHashes q' := by
  induction cs generalizing q with
  | nil => exact ⟨q, by simp [splitFragment.go]⟩
  | cons c cs ih =>
    by_cases hc : c = '#'
    · subst hc
      rw [splitFragment.go.eq_2]
      split
      · -- an escaped `#`: the text read so far ends with the backslash that escapes it
        rename_i hb
        have hlast : q.getLast? = some '\\' := by
          rw [← getLast?_escapeHashes]
          simpa using hb
        obtain ⟨q₀, rfl⟩ := List.getLast?_eq_some_iff.1 hlast
        obtain ⟨q', hq'⟩ := ih (q₀ ++ ['#'])
        refine ⟨q', ?_⟩
        rw [← hq']
        simp [escapeHashes_append, escapeHashes]
      · exact ⟨q, by simp⟩
    · rw [splitFragment.go.eq_3 _ _ _ hc]
      obtain ⟨q', hq'⟩ := ih (q ++ [c])
      refine ⟨q', ?_⟩
      rw [← hq']
      simp [escapeHashes_append, escapeHashes_cons_of_ne hc, escapeHashes]

theorem splitFragment_go_rejoin (cs before : List Char) :
    (splitFragment.go before cs).1 ++ ((splitFragment.go before cs).2.map ('#' :: ·)).getD [] =
      before.reverse ++ cs := by
  induction cs generalizing before with
  | nil => simp [splitFragment.go]
  | cons c cs ih =>
    by_cases hc : c = '#'
    · subst hc
      rw [splitFragment.go.eq_2]
      split
      · simpa using ih ('#' :: before)
      · simp
    · rw [splitFragment.go.eq_3 _ _ _ hc]
      simpa using ih (c :: before)

theorem splitFragment_rejoin (cs : List Char) :
    (splitFragment cs).1 ++ ((splitFragment cs).2.map ('#' :: ·)).getD [] = cs := by
  unfold splitFragment
  simpa using splitFragment_go_rejoin cs []

theorem unescapeHashes_splitFragment (cs : List Char) :
    escapeHashes (unescapeHashes (splitFragment cs).1) = (splitFragment cs).1 := by
  obtain ⟨q, hq⟩ := splitFragment_go_escaped cs []
  simp only [splitFragment]
  simp only [escapeHashes, List.reverse_nil] at hq
  rw [hq, unescapeHashes_escapeHashes]

theorem splitFragment_escapeHashes (p : List Char) :
    splitFragment (escapeHashes p) = (escapeHashes p, none) := by
  simpa [splitFragment, splitFragment.go] using splitFragment_go_escapeHashes_append p [] []

theorem splitFragment_escapeHashes_hash {p : List Char} (hp : p.getLast? ≠ some '\\')
    (f : List Char) : splitFragment (escapeHashes p ++ '#' :: f) = (escapeHashes p, some f) := by
  unfold splitFragment
  rw [splitFragment_go_escapeHashes_append, splitFragment.go.eq_2]
  simp [getLast?_escapeHashes, hp]

/-! ### Schemes -/

abbrev SchemeTail (d : Char) : Bool := d.isAlphanum || d = '+' || d = '.' || d = '-'

theorem schemeOf_isSome_iff (s : String) :
    (schemeOf s).isSome ↔ ∃ c run rest, s.toList = c :: (run ++ ':' :: rest) ∧ c.isAlpha ∧
      run ≠ [] ∧ ∀ d ∈ run, SchemeTail d := by
  unfold schemeOf
  constructor
  · intro h
    generalize hs : s.toList = cs at h
    match cs, h with
    | c :: tail, h =>
      simp only at h
      split at h
      · rename_i hc
        split at h
        · rename_i hrun
          simp only [Bool.and_eq_true, Bool.not_eq_eq_eq_not, Bool.not_true,
            List.isEmpty_eq_false_iff, beq_iff_eq] at hrun
          rw [drop_length_takeWhile] at hrun
          obtain ⟨hne, hcolon⟩ := hrun
          obtain ⟨rest, hrest⟩ : ∃ rest, tail.dropWhile SchemeTail = ':' :: rest := by
            cases hd : tail.dropWhile SchemeTail with
            | nil => simp [hd] at hcolon
            | cons x rest => simp [hd] at hcolon; exact ⟨rest, by rw [hcolon]⟩
          refine ⟨c, tail.takeWhile SchemeTail, rest, ?_, hc, ?_, ?_⟩
          · rw [← hrest, List.takeWhile_append_dropWhile]
          · simpa using hne
          · exact List.all_eq_true.1 List.all_takeWhile
        · simp at h
      · simp at h
  · rintro ⟨c, run, rest, hs, hc, hrun, hall⟩
    have htake : (run ++ ':' :: rest).takeWhile SchemeTail = run := by
      rw [List.takeWhile_append_of_pos hall, List.takeWhile_cons_of_neg (by decide)]
      simp
    simp only [hs, hc, ↓reduceIte]
    rw [htake]
    simp [hrun]

theorem schemeOf_isSome_append {a : String} (h : (schemeOf a).isSome) (b : String) :
    (schemeOf (a ++ b)).isSome := by
  obtain ⟨c, run, rest, hs, hc, hrun, hall⟩ := (schemeOf_isSome_iff a).1 h
  exact (schemeOf_isSome_iff _).2 ⟨c, run, rest ++ b.toList, by simp [hs], hc, hrun, hall⟩

theorem exists_eq_append_of_append_cons {x : Char} :
    ∀ {pre a f rest : List Char}, x ∉ pre → a ++ x :: f = pre ++ rest → ∃ r, a = pre ++ r
  | [], a, _, _, _, _ => ⟨a, rfl⟩
  | y :: pre, [], _, _, hx, h => by simp_all
  | y :: pre, z :: a, _, _, hx, h => by
    simp only [List.cons_append, List.cons.injEq] at h
    obtain ⟨r, hr⟩ := exists_eq_append_of_append_cons (fun hm => hx (List.mem_cons_of_mem y hm)) h.2
    exact ⟨r, by simp [h.1, hr]⟩

theorem schemeOf_append_hash {a : String} (h : schemeOf a = none) (f : String) :
    schemeOf (a ++ "#" ++ f) = none := by
  rw [← Option.not_isSome_iff_eq_none, schemeOf_isSome_iff] at *
  rintro ⟨c, run, rest, hs, hc, hrun, hall⟩
  have hsplit : a.toList ++ '#' :: f.toList = (c :: run ++ [':']) ++ rest := by simpa using hs
  have hhash : '#' ∉ c :: run ++ [':'] := by
    simp only [List.cons_append, List.mem_cons, List.mem_append, not_or]
    refine ⟨fun hc' => by subst hc'; simp at hc, fun hm => by simpa using hall _ hm, by decide⟩
  obtain ⟨r, hr⟩ := exists_eq_append_of_append_cons hhash hsplit
  exact h ⟨c, run, r, by simp [hr], hc, hrun, hall⟩

theorem schemeOf_of_head?_dot {s : String} (h : s.toList.head? = some '.') :
    schemeOf s = none := by
  cases hs : s.toList with
  | nil => simp [schemeOf, hs]
  | cons c rest =>
    rw [hs] at h
    cases h
    simp [schemeOf, hs]

theorem startsWith_hash_iff (s : String) :
    s.startsWith "#" = true ↔ ∃ rest, s.toList = '#' :: rest := by
  rw [String.startsWith_string_iff]
  constructor
  · rintro ⟨rest, h⟩; exact ⟨rest, by simpa using h.symm⟩
  · rintro ⟨rest, h⟩; exact ⟨rest, by simpa using h.symm⟩

/-! ### Blanks at the ends -/

theorem classify_strip (h : String) : classify (strip h) = classify h := by
  unfold classify
  rw [strip_strip]

/-! ### Reading a written link back -/

/-- Whether writing a file link marks its path with `./`: the escaped path would read as a
scheme, or it is empty and a fragment follows. -/
def marksPath (path : String) (fragment : Option String) : Bool :=
  let p := String.ofList (escapeHashes path.toList)
  (schemeOf p).isSome || (p.isEmpty && fragment.isSome)

/-- The path of a file link as it is written, before its hashes are escaped. -/
def writtenPath (path : String) (fragment : Option String) : String :=
  if marksPath path fragment then "./" ++ path else path

/-- The link a written link reads back as: a file path keeps the `./` that writing gave it. -/
def Target.reread : Target → Target
  | .file path fragment => .file (writtenPath path fragment) fragment
  | t => t

/-- Whether an href is a `file:` URL: its scheme, once the blanks at its ends are dropped, is
`file` in any case. -/
def isFileUrl (h : String) : Bool := (schemeOf (strip h)).any (fun s => String.lower s == "file")

/-- Whether a link is written plainly: its href has no blank at either end, and a path before
a fragment does not end with a backslash, which would escape the `#`. -/
def Target.plainlyWritten (t : Target) : Bool :=
  strip t.toHref == t.toHref &&
    match t with
    | .file path (some _) => path.toList.getLast? != some '\\'
    | _ => true

theorem toHref_file_toList (path : String) (fragment : Option String) :
    (Target.file path fragment).toHref.toList =
      escapeHashes (writtenPath path fragment).toList ++
        (fragment.map (fun f => '#' :: f.toList)).getD [] := by
  have hdot : escapeHashes ("./" ++ path).toList = '.' :: '/' :: escapeHashes path.toList := by
    simp [escapeHashes]
  by_cases hm : marksPath path fragment <;> have hm' := hm <;> simp only [marksPath] at hm' <;>
    cases fragment <;> simp_all [Target.toHref, writtenPath]

/-! ### What an href classifies to

One lemma per branch of `classify`, so that later proofs never unfold it. -/

section Classify

variable {h : String}

theorem classify_of_hash (hh : (strip h).startsWith "#" = true) :
    classify h = .ok (.anchor (String.ofList ((strip h).toList.drop 1))) := by
  simp [classify, hh, pure, Except.pure]

theorem classify_of_web (hh : (strip h).startsWith "#" = false) {scheme : String}
    (hs : schemeOf (strip h) = some scheme) (hf : String.lower scheme ≠ "file") :
    classify h = .ok (.web (strip h)) := by
  simp [classify, hh, hs, hf, pure, Except.pure]

theorem classify_of_path (hh : (strip h).startsWith "#" = false)
    (hs : schemeOf (strip h) = none) :
    classify h = .ok (.file (String.ofList (unescapeHashes (splitFragment (strip h).toList).1))
      ((splitFragment (strip h).toList).2.map String.ofList)) := by
  simp [classify, hh, hs, pure, Except.pure]

theorem classify_of_isFileUrl (hf : isFileUrl h = true) {t : Target}
    (hc : classify h = .ok t) : ∃ path fragment, t = .file path fragment := by
  simp only [isFileUrl, Option.any_eq_true, beq_iff_eq] at hf
  obtain ⟨scheme, hs, hl⟩ := hf
  have hh : (strip h).startsWith "#" = false := by
    cases hb : (strip h).startsWith "#"
    · rfl
    · obtain ⟨rest, hr⟩ := (startsWith_hash_iff _).1 hb
      simp [schemeOf, hr] at hs
  simp only [classify, hh, hs, hl, Bool.false_eq_true, ↓reduceIte, bind, Except.bind, pure,
    Except.pure] at hc
  split at hc
  · cases hc
  · cases hc
    exact ⟨_, _, rfl⟩

end Classify

theorem marksPath_empty (fragment : Option String) : marksPath "" fragment = fragment.isSome := by
  simp [marksPath, escapeHashes, schemeOf]

theorem toHref_file_plain (path : String) (fragment : Option String) :
    (Target.file path fragment).toHref.startsWith "#" = false ∧
      schemeOf (Target.file path fragment).toHref = none := by
  have hlist := toHref_file_toList path fragment
  by_cases hm : marksPath path fragment
  · -- marked: the href starts with `./`
    have hdot : (Target.file path fragment).toHref.toList.head? = some '.' := by
      rw [hlist]; simp [writtenPath, hm, escapeHashes]
    refine ⟨?_, schemeOf_of_head?_dot hdot⟩
    cases hb : (Target.file path fragment).toHref.startsWith "#"
    · rfl
    · obtain ⟨rest, hr⟩ := (startsWith_hash_iff _).1 hb
      simp [hr] at hdot
  · have hq : (writtenPath path fragment).toList = path.toList := by simp [writtenPath, hm]
    simp only [marksPath, Bool.or_eq_true, Bool.and_eq_true, not_or] at hm
    obtain ⟨hbare, hempty⟩ := hm
    have hbare : schemeOf (String.ofList (escapeHashes path.toList)) = none := by simpa using hbare
    constructor
    · -- unmarked: the href starts with the escaped path, or is empty
      cases hb : (Target.file path fragment).toHref.startsWith "#"
      · rfl
      · obtain ⟨rest, hr⟩ := (startsWith_hash_iff _).1 hb
        rw [hlist, hq] at hr
        cases he : escapeHashes path.toList with
        | nil =>
          cases fragment with
          | none => simp [he] at hr
          | some f => simp [he] at hempty
        | cons c e =>
          have := head?_escapeHashes_ne path.toList
          rw [he] at this hr
          simp_all
    · cases fragment with
      | none =>
        have heq : (Target.file path none).toHref = String.ofList (escapeHashes path.toList) := by
          apply String.toList_inj.1; simp [hlist, hq]
        rw [heq]; exact hbare
      | some f =>
        have heq : (Target.file path (some f)).toHref =
            String.ofList (escapeHashes path.toList) ++ "#" ++ f := by
          apply String.toList_inj.1; simp [hlist, hq]
        rw [heq]; exact schemeOf_append_hash hbare f

theorem classify_toHref_file {path : String} {fragment : Option String}
    (hw : (Target.file path fragment).plainlyWritten) :
    classify (Target.file path fragment).toHref = .ok (Target.file path fragment).reread := by
  simp only [Target.plainlyWritten, Bool.and_eq_true, beq_iff_eq] at hw
  obtain ⟨hs, hb⟩ := hw
  obtain ⟨hh, hsch⟩ := toHref_file_plain path fragment
  rw [← hs] at hh hsch
  rw [classify_of_path hh hsch, hs, toHref_file_toList]
  cases fragment with
  | none => simp [splitFragment_escapeHashes, Target.reread]
  | some f =>
    have hlast : (writtenPath path (some f)).toList.getLast? ≠ some '\\' := by
      by_cases hm : marksPath path (some f)
      · cases hp : path.toList with
        | nil => simp [writtenPath, hm, hp]
        | cons c p' => simp_all [writtenPath, List.getLast?_cons]
      · simp_all [writtenPath]
    simp [splitFragment_escapeHashes_hash hlast, Target.reread]

theorem toHref_classify {h : String} (hf : isFileUrl h = false) :
    ∃ t, classify h = .ok t ∧ t.toHref = strip h ∧ t.reread = t := by
  cases hh : (strip h).startsWith "#" with
  | true =>
    obtain ⟨rest, hr⟩ := (startsWith_hash_iff _).1 hh
    refine ⟨_, classify_of_hash hh, ?_, rfl⟩
    apply String.toList_inj.1
    simp [Target.toHref, hr]
  | false =>
    cases hs : schemeOf (strip h) with
    | some scheme =>
      have hl : String.lower scheme ≠ "file" := by simpa [isFileUrl, hs] using hf
      exact ⟨_, classify_of_web hh hs hl, rfl, rfl⟩
    | none =>
      refine ⟨_, classify_of_path hh hs, ?_⟩
      obtain ⟨path, frag, hsplit⟩ : ∃ path frag, splitFragment (strip h).toList = (path, frag) :=
        ⟨_, _, (Prod.eta _).symm⟩
      have hesc : escapeHashes (unescapeHashes path) = path := by
        simpa [hsplit] using unescapeHashes_splitFragment (strip h).toList
      have hrejoin : path ++ (frag.map ('#' :: ·)).getD [] = (strip h).toList := by
        simpa [hsplit] using splitFragment_rejoin (strip h).toList
      -- a scheme in the path would be a scheme of the whole href
      have hbare : (schemeOf (String.ofList path)).isSome = false := by
        rw [Bool.eq_false_iff]
        intro hsome
        have hwhole := schemeOf_isSome_append hsome (String.ofList ((frag.map ('#' :: ·)).getD []))
        have heq : String.ofList path ++ String.ofList ((frag.map ('#' :: ·)).getD []) = strip h :=
          String.toList_inj.1 (by simpa using hrejoin)
        rw [heq, hs] at hwhole
        simp at hwhole
      -- an empty path before a fragment would make the href start with `#`
      have hempty : ((String.ofList path).isEmpty && frag.isSome) = false := by
        cases frag with
        | none => simp
        | some f =>
          rw [Bool.eq_false_iff]
          intro he
          have hp : path = [] := by simpa using he
          subst hp
          have : (strip h).toList = '#' :: f := by simpa using hrejoin.symm
          simp [(startsWith_hash_iff _).2 ⟨f, this⟩] at hh
      have hm : marksPath (String.ofList (unescapeHashes path)) (frag.map String.ofList) = false := by
        unfold marksPath
        simp only [String.toList_ofList, hesc, Option.isSome_map]
        rw [hbare, hempty]
        rfl
      simp only [hsplit]
      refine ⟨?_, by simp [Target.reread, writtenPath, hm]⟩
      apply String.toList_inj.1
      rw [toHref_file_toList]
      simp only [writtenPath, hm, Bool.false_eq_true, ↓reduceIte, String.toList_ofList, hesc]
      cases frag <;> simpa using hrejoin

/-- Writing a classified link back and classifying it again: an href that is not a `file:`
URL gives back the same link; any plainly written link reads back as itself, a file path
marked with `./` where writing marked it. -/
theorem classify_toHref_classify (h : String) :
    (isFileUrl h = false → (classify h >>= fun t => classify t.toHref) = classify h) ∧
      ∀ t, classify h = .ok t → t.plainlyWritten → classify t.toHref = .ok t.reread := by
  constructor
  · intro hf
    obtain ⟨t, hc, hto, -⟩ := toHref_classify hf
    rw [hc]
    show classify t.toHref = .ok t
    rw [hto, classify_strip, hc]
  · intro t hc hw
    cases hf : isFileUrl h with
    | false =>
      obtain ⟨t', hc', hto, hre⟩ := toHref_classify hf
      obtain rfl : t = t' := by simpa [hc] using hc'
      rw [hre, hto, classify_strip, hc]
    | true =>
      obtain ⟨path, fragment, rfl⟩ := classify_of_isFileUrl hf hc
      exact classify_toHref_file hw

theorem eq_ok_of_toOption {ε α : Type} {e : Except ε α} {a : α} (h : e.toOption = some a) :
    e = .ok a := by
  cases e <;> simp_all [Except.toOption]

/-- A `file:` URL whose path reads as a scheme reads back with its path marked. -/
theorem classify_toHref_file_url :
    classify "file:note:colon.md" = .ok (.file "note:colon.md" none) ∧
      classify (Target.file "note:colon.md" none).toHref = .ok (.file "./note:colon.md" none) := by
  have hc : classify "file:note:colon.md" = .ok (.file "note:colon.md" none) :=
    eq_ok_of_toOption (by decide +kernel)
  refine ⟨hc, ?_⟩
  have hback := (classify_toHref_classify "file:note:colon.md").2 _ hc (by decide +kernel)
  rw [hback]
  rfl

/-- Writing a link back and classifying it again does not always give the same link: the
path of `file:note:colon.md` comes back as `./note:colon.md`. -/
theorem classify_toHref_marks_file_url_path :
    (classify "file:note:colon.md" >>= fun t => classify t.toHref) ≠
      classify "file:note:colon.md" := by
  have hc : classify "file:note:colon.md" = .ok (.file "note:colon.md" none) :=
    eq_ok_of_toOption (by decide +kernel)
  rw [hc]
  show classify (Target.file "note:colon.md" none).toHref ≠ _
  rw [classify_toHref_file (by decide +kernel)]
  intro heq
  have := congrArg Except.toOption heq
  revert this
  decide +kernel

end BookLinks.Link
