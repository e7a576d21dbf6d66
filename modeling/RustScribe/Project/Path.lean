namespace RustScribe.Project

/-! Paths below a project directory, as their names from the top down. -/

abbrev Path := List String

namespace Path

/-- Empty names, as those of a final or doubled slash, are no part of a path. -/
def parse (text : String) : Path :=
  ((text.toList.splitOn '/').filter fun name => !name.isEmpty).map String.ofList

def render (path : Path) : String :=
  "/".intercalate path

/-- The directories a path lies in, outermost first, without the project's own. -/
def ancestors : Path → List Path
  | [] => []
  | [_] => []
  | name :: rest => [name] :: (ancestors rest).map (name :: ·)

theorem mem_ancestors_iff {path ancestor : Path} :
    ancestor ∈ path.ancestors ↔
      ancestor ≠ [] ∧ ∃ name rest, path = ancestor ++ name :: rest := by
  fun_induction ancestors path generalizing ancestor with
  | case1 => simp
  | case2 last =>
      simp only [List.not_mem_nil, false_iff, not_and, not_exists]
      intro nonempty name rest same
      cases ancestor with
      | nil => exact nonempty rfl
      | cons head tail => simp at same
  | case3 name rest more ih =>
      cases ancestor with
      | nil => simp
      | cons head tail =>
          simp only [List.mem_cons, List.cons.injEq, List.mem_map, ne_eq, reduceCtorEq,
            not_false_eq_true, true_and, List.cons_append]
          constructor
          · rintro (⟨rfl, rfl⟩ | ⟨inner, found, rfl, rfl⟩)
            · cases rest with
              | nil => exact absurd rfl more
              | cons next others => exact ⟨next, others, rfl, rfl⟩
            · obtain ⟨_, next, others, same⟩ := ih.mp found
              exact ⟨next, others, rfl, same⟩
          · rintro ⟨next, others, rfl, same⟩
            by_cases top : tail = []
            · exact .inl ⟨rfl, top⟩
            · exact .inr ⟨tail, ih.mpr ⟨top, next, others, same⟩, rfl, rfl⟩

end Path

end RustScribe.Project
