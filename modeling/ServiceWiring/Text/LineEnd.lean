/-!
Line ends. A carriage return, alone or together with the line feed behind it, is one line end.
Unified text stays as it is when it is unified again.
-/

namespace ServiceWiring.Text

def unifyLineEnds : List Char → List Char
  | [] => []
  | '\r' :: '\n' :: rest => '\n' :: unifyLineEnds rest
  | c :: rest => (if c = '\r' then '\n' else c) :: unifyLineEnds rest

/-- No carriage return is left. -/
theorem cr_not_mem_unifyLineEnds (cs : List Char) : '\r' ∉ unifyLineEnds cs := by
  fun_induction unifyLineEnds cs with
  | case1 => simp
  | case2 rest ih => simp [ih]
  | case3 c rest _ ih =>
    by_cases cr : c = '\r'
    · simp [cr, ih]
    · simp [cr, ih, Ne.symm cr]

theorem unifyLineEnds_eq_self {cs : List Char} (h : '\r' ∉ cs) : unifyLineEnds cs = cs := by
  fun_induction unifyLineEnds cs with
  | case1 => rfl
  | case2 rest ih => simp at h
  | case3 c rest _ ih =>
    simp only [List.mem_cons, not_or] at h
    simp [Ne.symm h.1, ih h.2]

@[simp]
theorem unifyLineEnds_idem (cs : List Char) :
    unifyLineEnds (unifyLineEnds cs) = unifyLineEnds cs :=
  unifyLineEnds_eq_self (cr_not_mem_unifyLineEnds cs)

end ServiceWiring.Text
