import ServiceWiring.Console.Message

/-!
What a console shows of a text. It drops some control characters and puts blanks for tabs, as many
as lead to the next tab stop; everything else is printed as it is. How many blanks there are depends
on what stands in front of a tab, but nothing else does, so what is shown of a text is what is shown
of its parts.
-/

namespace ServiceWiring.Console

variable {first rest out : List Char} {text : String}

/-- The second text is one that may be shown for the first: it lacks the characters that are dropped
and has blanks for each tab. -/
inductive Shows : List Char → List Char → Prop
  | nil : Shows [] []
  | dropped {c : Char} {rest out : List Char} : isDropped c = true → Shows rest out →
      Shows (c :: rest) out
  | tab {blanks : Nat} {rest out : List Char} : 0 < blanks → blanks ≤ tabWidth → Shows rest out →
      Shows ('\t' :: rest) (List.replicate blanks ' ' ++ out)
  | char {c : Char} {rest out : List Char} : isDropped c = false → c ≠ '\t' → Shows rest out →
      Shows (c :: rest) (c :: out)

/-- There are one to eight blanks for a tab, at whatever column it stands. -/
theorem shows_expandTabs (columns : Char → Nat) (column : Nat) (text : List Char) :
    Shows text (expandTabs columns column (text.filter (!isDropped ·))) := by
  induction text generalizing column with
  | nil => exact .nil
  | cons c rest ih =>
    cases hdropped : isDropped c with
    | true =>
      rw [List.filter_cons_of_neg (by simp [hdropped])]
      exact .dropped hdropped (ih column)
    | false =>
      rw [List.filter_cons_of_pos (by simp [hdropped]), expandTabs]
      by_cases hfeed : c = '\n'
      · rw [if_pos hfeed]
        exact .char hdropped (by rw [hfeed]; decide) (ih 0)
      by_cases htab : c = '\t'
      · rw [if_neg hfeed, if_pos htab, htab]
        exact .tab (by simp only [tabWidth]; omega) (by simp only [tabWidth]; omega) (ih _)
      · rw [if_neg hfeed, if_neg htab]
        exact .char hdropped htab (ih _)

theorem shows_shown (screen : Screen) (text : String) : Shows text.toList (shown screen text) :=
  shows_expandTabs screen.columns 0 text.toList

/-- What is shown of a text is what is shown of its parts. -/
theorem Shows.exists_of_append (hshows : Shows (first ++ rest) out) :
    ∃ front back, out = front ++ back ∧ Shows first front ∧ Shows rest back := by
  induction first generalizing out with
  | nil => exact ⟨[], out, rfl, .nil, hshows⟩
  | cons c first ih =>
    cases hshows with
    | dropped hdropped hafter =>
      obtain ⟨front, back, rfl, hfirst, hrest⟩ := ih hafter
      exact ⟨front, back, rfl, .dropped hdropped hfirst, hrest⟩
    | tab hsome hfew hafter =>
      obtain ⟨front, back, rfl, hfirst, hrest⟩ := ih hafter
      exact ⟨_, back, (List.append_assoc _ front back).symm, .tab hsome hfew hfirst, hrest⟩
    | char hdropped htab hafter =>
      obtain ⟨front, back, rfl, hfirst, hrest⟩ := ih hafter
      exact ⟨c :: front, back, rfl, .char hdropped htab hfirst, hrest⟩

def IsPlain (text : List Char) : Prop := ∀ c ∈ text, isDropped c = false ∧ c ≠ '\t'

instance (text : List Char) : Decidable (IsPlain text) := List.decidableBAll _ text

theorem Shows.eq_of_isPlain (hshows : Shows first out) (hplain : IsPlain first) : out = first := by
  induction hshows with
  | nil => rfl
  | dropped hdropped _ _ =>
    have hkept := (hplain _ List.mem_cons_self).1
    rw [hdropped] at hkept
    cases hkept
  | tab _ _ _ _ => exact absurd rfl (hplain _ List.mem_cons_self).2
  | char _ _ _ ih => rw [ih fun c hmem => hplain c (List.mem_cons_of_mem _ hmem)]

theorem exists_linesOf_eq_cons (text : List Char) : ∃ line more, linesOf text = line :: more := by
  unfold linesOf
  split
  · exact ⟨_, _, rfl⟩
  · exact ⟨_, _, rfl⟩
  · split <;> exact ⟨_, _, rfl⟩

theorem intercalate_linesOf (text : List Char) : ['\n'].intercalate (linesOf text) = text := by
  induction text with
  | nil => rfl
  | cons c rest ih =>
    obtain ⟨line, more, hlines⟩ := exists_linesOf_eq_cons rest
    rw [hlines] at ih
    by_cases hc : c = '\n'
    · subst hc
      rw [linesOf, hlines, List.intercalate_cons_cons, ih]
      rfl
    · rw [linesOf.eq_3 c rest hc, hlines]
      cases more with
      | nil => simpa using ih
      | cons next more => simpa using ih

/-- Where there are no colours text is printed as it stands. -/
theorem paint_of_no_colour {style : Style} (hstyle : style.usesColour = false) (tone : Tone)
    (text : List Char) : paint style tone text = String.ofList text ++ "\n" := by
  have hjoined : String.intercalate "\n" ((linesOf text).map String.ofList) =
      String.ofList text := by
    rw [← String.toList_inj, String.toList_intercalate, String.toList_ofList, List.map_map]
    simpa [Function.comp_def] using intercalate_linesOf text
  simp only [paint, hstyle, Bool.false_eq_true, if_false, hjoined]

end ServiceWiring.Console
