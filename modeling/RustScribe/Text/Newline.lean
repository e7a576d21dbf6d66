namespace RustScribe.Text

/-- Each carriage return becomes a line feed, together with the line feed that
directly follows it, if one does. -/
def unifyNewlines : List Char → List Char
  | [] => []
  | '\r' :: '\n' :: rest => '\n' :: unifyNewlines rest
  | char :: rest => (if char = '\r' then '\n' else char) :: unifyNewlines rest

theorem not_mem_unifyNewlines (chars : List Char) : '\r' ∉ unifyNewlines chars := by
  fun_induction unifyNewlines chars with
  | case1 => simp
  | case2 rest ih => simpa using ih
  | case3 char rest _ ih =>
      by_cases carriage : char = '\r' <;> simp [carriage, ih]
      exact fun same => carriage same.symm

/-- Texts are read one after the other, unless the second begins with a line feed. -/
theorem unifyNewlines_append (before : List Char) {after : List Char}
    (apart : after.head? ≠ some '\n') :
    unifyNewlines (before ++ after) = unifyNewlines before ++ unifyNewlines after := by
  fun_induction unifyNewlines before with
  | case1 => rfl
  | case2 rest ih => simp [unifyNewlines, ih]
  | case3 char rest unpaired ih =>
      have unpaired : ∀ others, char = '\r' → rest ++ after ≠ '\n' :: others := by
        intro others carriage feed
        cases rest with
        | nil => exact apart (by rw [show after = _ from feed]; rfl)
        | cons first rest =>
            obtain ⟨rfl, -⟩ := List.cons.inj feed
            exact unpaired rest carriage rfl
      rw [List.cons_append, unifyNewlines.eq_3 _ _ unpaired, ih, List.cons_append]

theorem unifyNewlines_pair (before after : List Char) :
    unifyNewlines (before ++ '\r' :: '\n' :: after) =
      unifyNewlines before ++ '\n' :: unifyNewlines after := by
  rw [unifyNewlines_append before (by simp), unifyNewlines]

theorem unifyNewlines_return (before : List Char) {after : List Char}
    (lone : after.head? ≠ some '\n') :
    unifyNewlines (before ++ '\r' :: after) =
      unifyNewlines before ++ '\n' :: unifyNewlines after := by
  have split := unifyNewlines_append ['\r'] lone
  rw [unifyNewlines_append before (by simp), show '\r' :: after = ['\r'] ++ after from rfl, split]
  rfl

theorem unifyNewlines_eq_self {chars : List Char} (clean : '\r' ∉ chars) :
    unifyNewlines chars = chars := by
  fun_induction unifyNewlines chars with
  | case1 => rfl
  | case2 rest _ => simp at clean
  | case3 char rest _ ih =>
      simp only [List.mem_cons, not_or] at clean
      rw [if_neg (fun same => clean.1 same.symm), ih clean.2]

end RustScribe.Text
