import BookLinks.Web.Template
import BookLinks.Proofs.Text.Trim
import Mathlib.Data.List.Chain
/-!
# Interpolating header values

A header value is read as the substitution of the pattern `\\([$\\])|\$([A-Za-z_][A-Za-z0-9_]*)`
over its text. `segments` is the scan of that substitution: from the left, where the pattern
matches, the match forms a segment and the scan goes on after it; elsewhere one character does.
An escape is replaced by the character it escapes, a reference by the value of its variable, a
character outside every match by itself, and `substitute` fails with the first referenced name
that the environment does not set.

Main statement: `interpolate_substitutes_references`. Interpolation is that substitution, and the
pieces of a value hold no empty literal and no two literals side by side; their variables are
the references of the scan, in order, each a name that no name character follows.
-/

namespace BookLinks.Web

/-- A part of a header value in the scan of the reference pattern. -/
inductive Segment where
  /-- A backslash and the `$` or `\` it escapes. -/
  | escape (c : Char)
  /-- `$` and the name of a variable. -/
  | ref (name : String)
  /-- A character where the pattern does not match. -/
  | plain (c : Char)
  deriving DecidableEq, Repr

namespace Segment

def source : Segment → List Char
  | .escape c => ['\\', c]
  | .ref name => '$' :: name.toList
  | .plain c => [c]

def refName? : Segment → Option String
  | .ref name => some name
  | _ => none

/-- What replaces a segment: the escaped or kept character, or the value of the variable. -/
def replacement (env : List (String × String)) : Segment → List Char
  | .escape c | .plain c => [c]
  | .ref name => ((env.lookup name).getD "").toList

theorem length_source_pos (s : Segment) : 0 < s.source.length := by
  cases s <;> simp [source]

end Segment

/-- Whether a text is a variable name: a name start, then name characters. -/
def isName (name : String) : Bool :=
  match name.toList with
  | [] => false
  | c :: rest => isNameStart c && rest.all isNameChar

/-- The match of the pattern at the start of a text: a backslash and one of `$` `\`, or `$`, a
name start and every name character after it. -/
def frontMatch : List Char → Option Segment
  | '\\' :: c :: _ => if c = '$' ∨ c = '\\' then some (.escape c) else none
  | '$' :: c :: rest =>
    if isNameStart c then some (.ref (String.ofList ((c :: rest).takeWhile isNameChar))) else none
  | _ => none

/-- The scan of the substitution: a match where one starts, else a single character, and the
scan goes on after it. -/
def segments (cs : List Char) : List Segment :=
  match cs with
  | [] => []
  | c :: rest =>
    match frontMatch (c :: rest) with
    | some s => s :: segments ((c :: rest).drop s.source.length)
    | none => .plain c :: segments rest
termination_by cs.length
decreasing_by
  · have := s.length_source_pos
    simp only [List.length_drop, List.length_cons]
    omega
  · simp only [List.length_cons]
    omega

/-- The substitution over a header value: the replacements of the scan's segments, or the first
name that a reference gives and `env` does not set. -/
def substitute (env : List (String × String)) (value : String) : Except String String :=
  let ss := segments value.toList
  match (ss.filterMap Segment.refName?).find? (fun n => (env.lookup n).isNone) with
  | some name => .error name
  | none => .ok (String.ofList (ss.flatMap (Segment.replacement env)))

/-! ### The scan -/

theorem source_append_drop_of_frontMatch {cs : List Char} {s : Segment}
    (h : frontMatch cs = some s) : s.source ++ cs.drop s.source.length = cs := by
  unfold frontMatch at h
  split at h
  · split at h <;> cases h
    rfl
  · split at h <;> cases h
    simp [Segment.source, Text.drop_length_takeWhile]
  · cases h

theorem frontMatch_eq_ref {cs : List Char} {name : String} (h : frontMatch cs = some (.ref name)) :
    isName name = true ∧
      ∀ c ∈ (cs.drop (Segment.ref name).source.length).head?, isNameChar c = false := by
  unfold frontMatch at h
  split at h
  · split at h <;> cases h
  · split at h <;> cases h
    rename_i d rest hd
    have hd' : isNameChar d = true := by simp [isNameChar, hd]
    refine ⟨?_, ?_⟩
    · simp [isName, hd', hd, List.all_takeWhile]
    · simp only [Segment.source, String.toList_ofList, List.length_cons, List.drop_succ_cons,
        Text.drop_length_takeWhile]
      intro x hx
      have := List.head?_dropWhile_not isNameChar (d :: rest)
      rw [hx] at this
      simpa using this
  · cases h

theorem segments_cons (c : Char) (rest : List Char) :
    segments (c :: rest) = match frontMatch (c :: rest) with
      | some s => s :: segments ((c :: rest).drop s.source.length)
      | none => .plain c :: segments rest := by
  rw [segments]

theorem segments_escape {c : Char} (hc : c = '$' ∨ c = '\\') (rest : List Char) :
    segments ('\\' :: c :: rest) = .escape c :: segments rest := by
  rw [segments_cons]
  simp [frontMatch, hc, Segment.source]

theorem segments_backslash {c : Char} (hc : ¬ (c = '$' ∨ c = '\\')) (rest : List Char) :
    segments ('\\' :: c :: rest) = .plain '\\' :: segments (c :: rest) := by
  rw [segments_cons]
  simp only [frontMatch, if_neg hc]

theorem segments_ref {c : Char} (hc : isNameStart c = true) (rest : List Char) :
    segments ('$' :: c :: rest) = .ref (String.ofList ((c :: rest).takeWhile isNameChar)) ::
      segments ((c :: rest).dropWhile isNameChar) := by
  rw [segments_cons]
  simp only [frontMatch, hc, if_true, Segment.source, String.toList_ofList, List.length_cons,
    List.drop_succ_cons, Text.drop_length_takeWhile]

theorem segments_dollar {c : Char} (hc : ¬ isNameStart c = true) (rest : List Char) :
    segments ('$' :: c :: rest) = .plain '$' :: segments (c :: rest) := by
  rw [segments_cons]
  simp [frontMatch, hc]

theorem segments_plain {c : Char} {rest : List Char} (h : frontMatch (c :: rest) = none) :
    segments (c :: rest) = .plain c :: segments rest := by
  rw [segments_cons, h]

theorem flatMap_source_segments (cs : List Char) : (segments cs).flatMap Segment.source = cs := by
  fun_induction segments cs with
  | case1 => rfl
  | case2 c rest s hs ih => rw [List.flatMap_cons, ih, source_append_drop_of_frontMatch hs]
  | case3 c rest _ ih => simp [ih, Segment.source]

theorem segments_ref_longest (cs : List Char) :
    ∀ pre name post, segments cs = pre ++ .ref name :: post →
      isName name = true ∧ ∀ c ∈ (post.flatMap Segment.source).head?, isNameChar c = false := by
  fun_induction segments cs with
  | case1 => intro pre name post h; cases pre <;> cases h
  | case2 c rest s hs ih =>
    rintro (_ | ⟨s', pre⟩) name post h
    · obtain ⟨rfl, rfl⟩ := List.cons.inj h
      rw [flatMap_source_segments]
      exact frontMatch_eq_ref hs
    · exact ih pre name post (List.cons.inj h).2
  | case3 c rest _ ih =>
    rintro (_ | ⟨s', pre⟩) name post h
    · cases (List.cons.inj h).1
    · exact ih pre name post (List.cons.inj h).2

/-! ### Pieces against the scan -/

namespace Piece

def name? : Piece → Option String
  | .var name => some name
  | .literal _ => none

def isLiteral : Piece → Bool
  | .literal _ => true
  | .var _ => false

/-- The text a piece stands for in `env`. -/
def render (env : List (String × String)) : Piece → List Char
  | .literal t => t.toList
  | .var name => ((env.lookup name).getD "").toList

end Piece

theorem flatMap_render_flushLiteral (env : List (String × String)) (buf : List Char) :
    (flushLiteral buf).flatMap (Piece.render env) = buf.reverse := by
  unfold flushLiteral
  split <;> simp_all [Piece.render]

theorem filterMap_name_flushLiteral (buf : List Char) :
    (flushLiteral buf).filterMap Piece.name? = [] := by
  unfold flushLiteral
  split <;> simp [Piece.name?]

theorem filterMap_name_piecesFrom (buf cs : List Char) :
    (piecesFrom buf cs).filterMap Piece.name? = (segments cs).filterMap Segment.refName? := by
  induction buf, cs using piecesFrom.induct with
  | case1 buf => simp [piecesFrom, filterMap_name_flushLiteral, segments]
  | case2 buf c rest hc ih =>
    rw [piecesFrom, if_pos hc, ih, segments_escape hc]
    rfl
  | case3 buf c rest hc ih =>
    rw [piecesFrom, if_neg hc, ih, segments_backslash hc]
    rfl
  | case4 buf c rest hc ih =>
    rw [piecesFrom, if_pos hc, segments_ref hc, List.filterMap_append,
      filterMap_name_flushLiteral, List.filterMap_cons, List.filterMap_cons, ih]
    rfl
  | case5 buf c rest hc ih =>
    rw [piecesFrom, if_neg hc, ih, segments_dollar hc]
    rfl
  | case6 buf c rest h1 h2 ih =>
    rw [piecesFrom.eq_4 _ _ _ h1 h2, ih, segments_plain]
    · rfl
    · unfold frontMatch
      split <;> simp_all

theorem flatMap_render_piecesFrom (env : List (String × String)) (buf cs : List Char) :
    (piecesFrom buf cs).flatMap (Piece.render env) =
      buf.reverse ++ (segments cs).flatMap (Segment.replacement env) := by
  induction buf, cs using piecesFrom.induct with
  | case1 buf => simp [piecesFrom, flatMap_render_flushLiteral, segments]
  | case2 buf c rest hc ih =>
    rw [piecesFrom, if_pos hc, ih, segments_escape hc]
    simp [Segment.replacement]
  | case3 buf c rest hc ih =>
    rw [piecesFrom, if_neg hc, ih, segments_backslash hc]
    simp [Segment.replacement]
  | case4 buf c rest hc ih =>
    rw [piecesFrom, if_pos hc, segments_ref hc, List.flatMap_append,
      flatMap_render_flushLiteral, List.flatMap_cons, List.flatMap_cons, ih]
    simp [Piece.render, Segment.replacement]
  | case5 buf c rest hc ih =>
    rw [piecesFrom, if_neg hc, ih, segments_dollar hc]
    simp [Segment.replacement]
  | case6 buf c rest h1 h2 ih =>
    rw [piecesFrom.eq_4 _ _ _ h1 h2, ih, segments_plain]
    · simp [Segment.replacement]
    · unfold frontMatch
      split <;> simp_all

theorem ne_empty_of_literal_mem_piecesFrom (buf cs : List Char) :
    ∀ t, .literal t ∈ piecesFrom buf cs → t ≠ "" := by
  have hflush : ∀ (b : List Char) t, .literal t ∈ flushLiteral b → t ≠ "" := by
    intro b t ht
    unfold flushLiteral at ht
    split at ht
    · simp at ht
    · rename_i hb
      obtain rfl := by simpa using ht
      intro he
      have := congrArg String.toList he
      simp_all
  induction buf, cs using piecesFrom.induct with
  | case1 buf => simpa [piecesFrom] using hflush buf
  | case2 buf c rest hc ih => rwa [piecesFrom, if_pos hc]
  | case3 buf c rest hc ih => rwa [piecesFrom, if_neg hc]
  | case4 buf c rest hc ih =>
    intro t ht
    rw [piecesFrom, if_pos hc] at ht
    simp only [List.mem_append, List.mem_cons, reduceCtorEq, false_or] at ht
    exact ht.elim (hflush buf t) (ih t)
  | case5 buf c rest hc ih => rwa [piecesFrom, if_neg hc]
  | case6 buf c rest h1 h2 ih => rwa [piecesFrom.eq_4 _ _ _ h1 h2]

theorem isChain_piecesFrom (buf cs : List Char) :
    (piecesFrom buf cs).IsChain (fun a b => ¬ (a.isLiteral ∧ b.isLiteral)) := by
  induction buf, cs using piecesFrom.induct with
  | case1 buf =>
    rw [piecesFrom, flushLiteral]
    split <;> simp
  | case2 buf c rest hc ih => rwa [piecesFrom, if_pos hc]
  | case3 buf c rest hc ih => rwa [piecesFrom, if_neg hc]
  | case4 buf c rest hc ih =>
    rw [piecesFrom, if_pos hc]
    have hvar : List.IsChain (fun a b : Piece => ¬ (a.isLiteral ∧ b.isLiteral))
        (.var (String.ofList ((c :: rest).takeWhile isNameChar)) ::
          piecesFrom [] ((c :: rest).dropWhile isNameChar)) :=
      ih.cons (fun _ _ => by simp [Piece.isLiteral])
    unfold flushLiteral
    split
    · exact hvar
    · exact List.isChain_cons_cons.2 ⟨by simp [Piece.isLiteral], hvar⟩
  | case5 buf c rest hc ih => rwa [piecesFrom, if_neg hc]
  | case6 buf c rest h1 h2 ih => rwa [piecesFrom.eq_4 _ _ _ h1 h2]

/-! ### Interpolation -/

/-- One step of interpolation: literal text is appended, a variable's value too if it is set. -/
def interpolateStep (env : List (String × String)) (acc : String) (p : Piece) :
    Except String String :=
  match p with
  | .literal t => .ok (acc ++ t)
  | .var name =>
    match env.lookup name with
    | some v => .ok (acc ++ v)
    | none => .error name

theorem interpolate_eq_foldlM (env : List (String × String)) (value : String) :
    interpolate env value = (tokenize value).foldlM (interpolateStep env) "" := rfl

theorem match_find?_append {names : List String} {p : String → Bool} (acc t : String)
    (rest : List Char) :
    (match names.find? p with
      | some name => (Except.error name : Except String String)
      | none => .ok (acc ++ t ++ String.ofList rest)) =
    match names.find? p with
      | some name => .error name
      | none => .ok (acc ++ String.ofList (t.toList ++ rest)) := by
  cases names.find? p with
  | some name => rfl
  | none => simp only [String.ofList_append, String.ofList_toList, String.append_assoc]

theorem foldlM_interpolateStep (env : List (String × String)) (ps : List Piece) (acc : String) :
    ps.foldlM (interpolateStep env) acc =
      match (ps.filterMap Piece.name?).find? (fun n => (env.lookup n).isNone) with
      | some name => .error name
      | none => .ok (acc ++ String.ofList (ps.flatMap (Piece.render env))) := by
  induction ps generalizing acc with
  | nil =>
    show Except.ok acc = _
    simp
  | cons p ps ih =>
    cases p with
    | literal t =>
      have hnames : (Piece.literal t :: ps).filterMap Piece.name? = ps.filterMap Piece.name? := rfl
      rw [List.foldlM_cons, hnames]
      show List.foldlM (interpolateStep env) (acc ++ t) ps = _
      rw [ih, List.flatMap_cons]
      exact match_find?_append acc t _
    | var name =>
      cases hv : env.lookup name with
      | none =>
        have hfirst : ((Piece.var name :: ps).filterMap Piece.name?).find?
            (fun n => (env.lookup n).isNone) = some name := by
          simp [Piece.name?, hv]
        rw [List.foldlM_cons, hfirst]
        simp [interpolateStep, hv, bind, Except.bind]
      | some v =>
        have hnames : ((Piece.var name :: ps).filterMap Piece.name?).find?
            (fun n => (env.lookup n).isNone) =
            (ps.filterMap Piece.name?).find? (fun n => (env.lookup n).isNone) := by
          simp [Piece.name?, hv]
        rw [List.foldlM_cons, hnames]
        simp only [interpolateStep, hv]
        show List.foldlM (interpolateStep env) (acc ++ v) ps = _
        rw [ih, List.flatMap_cons]
        simpa only [Piece.render, hv, Option.getD_some] using match_find?_append acc v _

theorem interpolate_eq_substitute (env : List (String × String)) (value : String) :
    interpolate env value = substitute env value := by
  rw [interpolate_eq_foldlM, foldlM_interpolateStep, tokenize, filterMap_name_piecesFrom,
    flatMap_render_piecesFrom]
  simp [substitute]

/-- Interpolation is the substitution of the reference pattern. The pieces of a value hold no
empty literal and no two literals side by side, and their variables are the references of the
scan, in order: each a name, in its place in the value, followed by no name character. -/
theorem interpolate_substitutes_references (env : List (String × String)) (value : String) :
    interpolate env value = substitute env value ∧
    (∀ t, Piece.literal t ∈ tokenize value → t ≠ "") ∧
    (tokenize value).IsChain (fun a b => ¬ (a.isLiteral ∧ b.isLiteral)) ∧
    (tokenize value).filterMap Piece.name? = (segments value.toList).filterMap Segment.refName? ∧
    ∀ pre name post, segments value.toList = pre ++ .ref name :: post →
      value.toList = pre.flatMap Segment.source ++ '$' :: name.toList ++
        post.flatMap Segment.source ∧
      isName name = true ∧ ∀ c ∈ (post.flatMap Segment.source).head?, isNameChar c = false := by
  refine ⟨interpolate_eq_substitute env value, ne_empty_of_literal_mem_piecesFrom [] _,
    isChain_piecesFrom [] _, filterMap_name_piecesFrom [] _, fun pre name post h => ?_⟩
  have htile := flatMap_source_segments value.toList
  rw [h] at htile
  exact ⟨by simpa [Segment.source] using htile.symm, segments_ref_longest _ pre name post h⟩

example : interpolate [("HOME", "/h")] "\\$a\\\\b$HOME/c\\d$1" = .ok "$a\\b/h/c\\d$1" := by
  decide +kernel

end BookLinks.Web
