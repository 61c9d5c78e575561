import Mathlib.Data.List.Basic
import Mathlib.Data.List.TakeWhile
import ServiceWiring.Path

/-!
Paths and their texts. A slash divides the segments of a text, so that joining two paths is reading
the joined text. Joining is associative, and the relative path without segments changes nothing. A
path in normal form is read back from its text; two texts name the same path exactly if the paths
are written alike.
-/

namespace ServiceWiring.Path

variable {p : Path} {cs first rest : List Char}

/-! The segments of a text -/

def segmentsOf (cs : List Char) : List String :=
  ((splitSlashes cs).filter isSegment).map String.ofList

theorem splitSlashes_cons_of_ne {c : Char} (hc : c ≠ '/') (cs : List Char) :
    ∃ run more, splitSlashes cs = run :: more ∧ splitSlashes (c :: cs) = (c :: run) :: more := by
  cases hsplit : splitSlashes cs with
  | nil =>
    unfold splitSlashes at hsplit
    split at hsplit
    · cases hsplit
    · cases hsplit
    · split at hsplit <;> cases hsplit
  | cons run more =>
    refine ⟨run, more, rfl, ?_⟩
    rw [splitSlashes.eq_3 c cs hc, hsplit]

/-- A slash divides a text: its two sides are split each on its own. -/
theorem splitSlashes_append_slash (first rest : List Char) :
    splitSlashes (first ++ '/' :: rest) = splitSlashes first ++ splitSlashes rest := by
  induction first with
  | nil => rfl
  | cons c more ih =>
    by_cases hc : c = '/'
    · subst hc
      exact congrArg ([] :: ·) ih
    · obtain ⟨run, runs, hmore, hsplit⟩ := splitSlashes_cons_of_ne hc more
      obtain ⟨long, others, hlong, hjoined⟩ :=
        splitSlashes_cons_of_ne hc (more ++ '/' :: rest)
      rw [ih, hmore, List.cons_append] at hlong
      obtain ⟨rfl, rfl⟩ := List.cons.inj hlong
      rw [List.cons_append, hjoined, hsplit, List.cons_append]

theorem splitSlashes_of_not_mem (hplain : '/' ∉ cs) : splitSlashes cs = [cs] := by
  induction cs with
  | nil => rfl
  | cons c rest ih =>
    have hc : c ≠ '/' := fun h => hplain (h ▸ List.mem_cons_self)
    have hrest : splitSlashes rest = [rest] := ih fun h => hplain (List.mem_cons_of_mem c h)
    obtain ⟨run, more, hsplit, hcons⟩ := splitSlashes_cons_of_ne hc rest
    rw [hrest] at hsplit
    obtain ⟨rfl, rfl⟩ := List.cons.inj hsplit
    exact hcons

theorem slash_not_mem_of_mem_splitSlashes {run : List Char} (hrun : run ∈ splitSlashes cs) :
    '/' ∉ run := by
  induction cs generalizing run with
  | nil =>
    obtain rfl := List.mem_singleton.1 hrun
    exact List.not_mem_nil
  | cons c rest ih =>
    by_cases hc : c = '/'
    · subst hc
      rcases List.mem_cons.1 hrun with rfl | hmore
      · exact List.not_mem_nil
      · exact ih hmore
    · obtain ⟨head, more, hsplit, hcons⟩ := splitSlashes_cons_of_ne hc rest
      rw [hsplit] at ih
      rw [hcons] at hrun
      rcases List.mem_cons.1 hrun with rfl | hmore
      · have hhead : '/' ∉ head := ih List.mem_cons_self
        exact List.not_mem_cons_of_ne_of_not_mem (Ne.symm hc) hhead
      · exact ih (List.mem_cons_of_mem head hmore)

theorem segmentsOf_append_slash (first rest : List Char) :
    segmentsOf (first ++ '/' :: rest) = segmentsOf first ++ segmentsOf rest := by
  rw [segmentsOf, splitSlashes_append_slash, List.filter_append, List.map_append]
  rfl

@[simp]
theorem segmentsOf_nil : segmentsOf [] = [] := rfl

/-- A slash at the end of a text is of no account. -/
theorem segmentsOf_concat_slash (cs : List Char) : segmentsOf (cs ++ ['/']) = segmentsOf cs := by
  rw [segmentsOf_append_slash, segmentsOf_nil, List.append_nil]

/-! The anchor of a text -/

theorem anchorOf_eq_relative_iff : anchorOf cs = .relative ↔ cs.head? ≠ some '/' := by
  cases cs with
  | nil => simp [anchorOf]
  | cons c rest =>
    by_cases hc : c = '/'
    · subst hc
      simp only [anchorOf, List.takeWhile_cons, beq_self_eq_true, if_true, List.length_cons]
      split <;> simp_all
    · simp [anchorOf, hc]

theorem isAbsolute_iff : p.isAbsolute = true ↔ p.anchor ≠ .relative := by
  simp [isAbsolute]

/-- A text names an absolute path exactly if it begins with a slash. -/
theorem isAbsolute_ofString {text : String} :
    (ofString text).isAbsolute = true ↔ text.toList.head? = some '/' := by
  rw [isAbsolute_iff, ofString, Ne, anchorOf_eq_relative_iff, not_not]

/-- The anchor of a text is settled before its first character that is no slash. -/
theorem anchorOf_append (hsettled : (∃ c ∈ first, c ≠ '/') ∨ rest.head? ≠ some '/') :
    anchorOf (first ++ rest) = anchorOf first := by
  have hleading : (first ++ rest).takeWhile (· == '/') = first.takeWhile (· == '/') := by
    rw [List.takeWhile_append]
    split
    · next hlength =>
      have hall : first.takeWhile (· == '/') = first :=
        (List.takeWhile_prefix _).eq_of_length hlength
      have hrest : rest.head? ≠ some '/' := by
        rcases hsettled with ⟨c, hmem, hc⟩ | hrest
        · have hslash := List.takeWhile_eq_self_iff.1 hall c hmem
          exact absurd (beq_iff_eq.1 hslash) hc
        · exact hrest
      have hnone : rest.takeWhile (· == '/') = [] := by
        cases rest with
        | nil => rfl
        | cons c more =>
          have hc : ¬ c = '/' := fun h => hrest (congrArg some h)
          simp [hc]
      rw [hnone, List.append_nil, hall]
    · rfl
  rw [anchorOf, anchorOf, hleading]

/-- A text with a slash in it; the anchor is settled before `rest`. -/
theorem ofString_of_slash {text : String} (htext : text.toList = first ++ '/' :: rest)
    (hsettled : (∃ c ∈ first, c ≠ '/') ∨ rest.head? ≠ some '/') :
    ofString text = ⟨anchorOf (first ++ ['/']), segmentsOf first ++ segmentsOf rest⟩ := by
  have hanchor : anchorOf text.toList = anchorOf (first ++ ['/']) := by
    rw [htext, ← List.singleton_append, ← List.append_assoc]
    apply anchorOf_append
    rcases hsettled with ⟨c, hmem, hc⟩ | hrest
    · exact .inl ⟨c, List.mem_append_left _ hmem, hc⟩
    · exact .inr hrest
  have hsegments : segmentsOf text.toList = segmentsOf first ++ segmentsOf rest := by
    rw [htext, segmentsOf_append_slash]
  exact congrArg₂ Path.mk hanchor hsegments

/-! Joining -/

theorem join_of_isAbsolute (base : Path) (habsolute : p.isAbsolute = true) : base.join p = p := by
  rw [join, if_pos habsolute]

theorem join_of_relative (base : Path) (hrelative : p.isAbsolute = false) :
    base.join p = ⟨base.anchor, base.segments ++ p.segments⟩ := by
  rw [join, hrelative, if_neg Bool.false_ne_true]

theorem isAbsolute_join (base p : Path) :
    (base.join p).isAbsolute = true ↔ base.isAbsolute = true ∨ p.isAbsolute = true := by
  cases hp : p.isAbsolute with
  | true => simp [join_of_isAbsolute base hp, hp]
  | false =>
    rw [join_of_relative base hp]
    simp [isAbsolute]

/-- What `p` is from `base`, seen from `outer`, is what `p` is from `outer.join base`. -/
theorem join_join (outer base p : Path) : outer.join (base.join p) = (outer.join base).join p := by
  cases hp : p.isAbsolute with
  | true => rw [join_of_isAbsolute base hp, join_of_isAbsolute outer hp, join_of_isAbsolute _ hp]
  | false =>
    cases hbase : base.isAbsolute with
    | true =>
      have hjoined : (base.join p).isAbsolute = true := (isAbsolute_join base p).2 (.inl hbase)
      rw [join_of_isAbsolute outer hjoined, join_of_isAbsolute outer hbase]
    | false =>
      have hjoined : (base.join p).isAbsolute = false := by
        rw [← Bool.not_eq_true, isAbsolute_join, hbase, hp]
        simp
      calc
        outer.join (base.join p) = ⟨outer.anchor, outer.segments ++ (base.join p).segments⟩ :=
          join_of_relative outer hjoined
        _ = ⟨outer.anchor, outer.segments ++ base.segments ++ p.segments⟩ := by
          rw [join_of_relative base hp, List.append_assoc]
        _ = (outer.join base).join p := by
          rw [join_of_relative _ hp, join_of_relative outer hbase]

/-- The relative path without segments stands for the directory that one is in. -/
@[simp]
theorem here_join (p : Path) : (⟨.relative, []⟩ : Path).join p = p := by
  cases hp : p.isAbsolute with
  | true => exact join_of_isAbsolute _ hp
  | false =>
    have hanchor : p.anchor = .relative := by simpa [isAbsolute] using hp
    rw [join_of_relative _ hp, List.nil_append, ← hanchor]

def file (dir : Path) (name : String) : Path := dir.join ⟨.relative, [name]⟩

@[simp]
theorem name_file (dir : Path) (name : String) : (dir.file name).name = name := by
  rw [file, join_of_relative dir rfl, Path.name, List.getLast?_concat, Option.getD_some]

@[simp]
theorem parent_file (dir : Path) (name : String) : (dir.file name).parent = dir := by
  rw [file, join_of_relative dir rfl, parent, List.dropLast_concat]

/-- The text `rest` seen from a directory. It stands alone if it begins with a slash; otherwise it
follows the text of the directory, with a slash between them where none is. -/
def joinTexts (base rest : String) : String :=
  if rest.toList.head? = some '/' then rest
  else if base.toList = [] ∨ base.toList.getLast? = some '/' then base ++ rest
  else base ++ "/" ++ rest

/-- Joining paths is joining their texts. -/
theorem ofString_joinTexts (base rest : String) :
    ofString (joinTexts base rest) = (ofString base).join (ofString rest) := by
  by_cases hslash : rest.toList.head? = some '/'
  · rw [joinTexts, if_pos hslash, join_of_isAbsolute _ (isAbsolute_ofString.2 hslash)]
  · have hrelative : (ofString rest).isAbsolute = false := by
      rw [← Bool.not_eq_true, isAbsolute_ofString]
      exact hslash
    rw [joinTexts, if_neg hslash, join_of_relative _ hrelative]
    by_cases hempty : base.toList = []
    · have hbase : base = "" := String.toList_inj.1 hempty
      rw [if_pos (.inl hempty), hbase, String.empty_append]
      exact congrArg (Path.mk · _) (anchorOf_eq_relative_iff.2 hslash)
    · by_cases hlast : base.toList.getLast? = some '/'
      · obtain ⟨front, hfront⟩ := List.getLast?_eq_some_iff.1 hlast
        have htext : (base ++ rest).toList = front ++ '/' :: rest.toList := by
          rw [String.toList_append, hfront, List.append_assoc, List.singleton_append]
        have hbase : segmentsOf base.toList = segmentsOf front := by
          rw [hfront, segmentsOf_concat_slash]
        rw [if_pos (.inr hlast), ofString_of_slash htext (.inr hslash), ← hfront, ← hbase]
        rfl
      · have htext : (base ++ "/" ++ rest).toList = base.toList ++ '/' :: rest.toList := by
          simp [String.toList_append]
        have hother : ∃ c ∈ base.toList, c ≠ '/' := by
          refine ⟨base.toList.getLast hempty, List.getLast_mem hempty, fun hc => hlast ?_⟩
          rw [List.getLast?_eq_some_getLast hempty, hc]
        rw [if_neg (not_or.2 ⟨hempty, hlast⟩), ofString_of_slash htext (.inl hother),
          anchorOf_append (.inl hother)]
        rfl

/-! Normal forms -/

/-- The segments are such as a text can have: none is empty, a single dot or divided by a slash. -/
def IsNormal (p : Path) : Prop :=
  ∀ segment ∈ p.segments, isSegment segment.toList = true ∧ '/' ∉ segment.toList

theorem isNormal_ofString (text : String) : (ofString text).IsNormal := by
  intro segment hmem
  obtain ⟨run, hrun, rfl⟩ := List.mem_map.1 hmem
  obtain ⟨hsplit, hsegment⟩ := List.mem_filter.1 hrun
  rw [String.toList_ofList]
  exact ⟨hsegment, slash_not_mem_of_mem_splitSlashes hsplit⟩

/-- Runs without slashes are got back from the text that joins them. -/
theorem splitSlashes_intercalate {runs : List (List Char)} (hruns : runs ≠ [])
    (hplain : ∀ run ∈ runs, '/' ∉ run) : splitSlashes (['/'].intercalate runs) = runs := by
  induction runs with
  | nil => exact absurd rfl hruns
  | cons run more ih =>
    have hrun : splitSlashes run = [run] := splitSlashes_of_not_mem (hplain run List.mem_cons_self)
    cases more with
    | nil => rw [List.intercalate_singleton, hrun]
    | cons next others =>
      have hothers := ih (List.cons_ne_nil next others)
        fun run hmem => hplain run (List.mem_cons_of_mem _ hmem)
      rw [List.intercalate_cons_cons, List.append_assoc, List.singleton_append,
        splitSlashes_append_slash, hrun, hothers, List.singleton_append]

/-- The segments of a path in normal form with slashes between them. -/
theorem segmentsOf_body (hnormal : p.IsNormal) :
    segmentsOf (String.intercalate "/" p.segments).toList = p.segments := by
  by_cases hnone : p.segments = []
  · rw [hnone]
    rfl
  · have hruns : p.segments.map String.toList ≠ [] := by simpa using hnone
    have hplain : ∀ run ∈ p.segments.map String.toList, '/' ∉ run := by
      intro run hrun
      obtain ⟨segment, hmem, rfl⟩ := List.mem_map.1 hrun
      exact (hnormal segment hmem).2
    have hfilter : (p.segments.map String.toList).filter isSegment =
        p.segments.map String.toList := by
      rw [List.filter_eq_self]
      intro run hrun
      obtain ⟨segment, hmem, rfl⟩ := List.mem_map.1 hrun
      exact (hnormal segment hmem).1
    have hslash : ("/" : String).toList = ['/'] := rfl
    rw [segmentsOf, String.toList_intercalate, hslash, splitSlashes_intercalate hruns hplain,
      hfilter, List.map_map]
    simp [Function.comp_def]

theorem head?_body (hnormal : p.IsNormal) :
    (String.intercalate "/" p.segments).toList.head? ≠ some '/' := by
  cases hsegments : p.segments with
  | nil => simp [String.intercalate]
  | cons segment more =>
    obtain ⟨hsegment, hplain⟩ := hnormal segment (by simp [hsegments])
    obtain ⟨c, rest, htext⟩ : ∃ c rest, segment.toList = c :: rest := by
      cases htext : segment.toList with
      | nil => simp [htext, isSegment] at hsegment
      | cons c rest => exact ⟨c, rest, rfl⟩
    have hc : c ≠ '/' := by
      rintro rfl
      exact hplain (htext ▸ List.mem_cons_self)
    cases more <;> simp [String.toList_intercalate, htext, hc]

/-- A path in normal form is read back from its text. -/
theorem ofString_toString (hnormal : p.IsNormal) : ofString p.toString = p := by
  have hbody := segmentsOf_body hnormal
  have hhead := head?_body hnormal
  obtain ⟨anchor, segments⟩ := p
  cases anchor with
  | relative =>
    by_cases hnone : segments = []
    · subst hnone
      rfl
    · have htext : toString ⟨.relative, segments⟩ = String.intercalate "/" segments := by
        simp [toString, hnone]
      rw [htext]
      exact congrArg₂ Path.mk (anchorOf_eq_relative_iff.2 hhead) hbody
  | slash =>
    have htext : (toString ⟨.slash, segments⟩).toList =
        [] ++ '/' :: (String.intercalate "/" segments).toList := by simp [toString]
    rw [ofString_of_slash htext (.inr hhead), hbody]
    rfl
  | doubleSlash =>
    have htext : (toString ⟨.doubleSlash, segments⟩).toList =
        ['/'] ++ '/' :: (String.intercalate "/" segments).toList := by simp [toString]
    rw [ofString_of_slash htext (.inr hhead), hbody]
    rfl

/-- Paths in normal form are the same exactly if they are written alike. -/
theorem toString_inj {q : Path} (hp : p.IsNormal) (hq : q.IsNormal) :
    p.toString = q.toString ↔ p = q := by
  constructor
  · intro htext
    rw [← ofString_toString hp, htext, ofString_toString hq]
  · exact congrArg toString

end ServiceWiring.Path
