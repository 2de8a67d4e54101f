import Forecast.Text.Replace

/-!
# Replacing around foreign text

A run of characters that are in no pattern is left where it stands, and what is before and behind it
is replaced apart.  A character that is a pattern of its own is gone afterwards, and stays away as
long as no replacement brings it back.
-/

namespace Forecast

variable {pattern replacement chars before run after : List Char} {char : Char}

theorem prefix_append_cons_iff (foreign : char ∉ pattern) :
    pattern <+: before ++ char :: after ↔ pattern <+: before := by
  refine ⟨fun starts => ?_, fun starts => starts.trans (List.prefix_append ..)⟩
  rcases Nat.le_total pattern.length before.length with short | long
  · exact List.prefix_of_prefix_length_le starts (List.prefix_append ..) short
  · rcases List.prefix_or_prefix_of_prefix starts (List.prefix_append before _) with inside | around
    · exact inside
    · obtain ⟨rest, rfl⟩ := around
      cases rest with
      | nil => simp
      | cons first rest =>
        rw [List.prefix_append_right_inj, List.cons_prefix_cons] at starts
        simp [starts.1] at foreign

theorem replaceAll_append_cons (foreign : char ∉ pattern) (nonempty : pattern ≠ []) :
    replaceAll pattern replacement (before ++ char :: after)
      = replaceAll pattern replacement before
        ++ char :: replaceAll pattern replacement after := by
  fun_induction replaceAll pattern replacement before with
  | case1 =>
    have differs : ¬pattern.isPrefixOf (char :: after) = true := by
      rw [List.isPrefixOf_iff_prefix, ← List.nil_append (char :: after),
        prefix_append_cons_iff foreign, List.prefix_nil]
      exact nonempty
    rw [List.nil_append, List.nil_append, replaceAll, if_neg differs]
  | case2 first rest starts ih =>
    rw [List.isPrefixOf_iff_prefix] at starts
    have within : pattern.length - 1 ≤ rest.length := by
      have := starts.length_le
      rw [List.length_cons] at this
      omega
    have startsAll : pattern.isPrefixOf (first :: (rest ++ char :: after)) = true :=
      List.isPrefixOf_iff_prefix.mpr ((prefix_append_cons_iff foreign).mpr starts)
    rw [List.cons_append, replaceAll, if_pos startsAll, List.drop_append_of_le_length within, ih,
      List.append_assoc]
  | case3 first rest differs ih =>
    have differsAll : ¬pattern.isPrefixOf (first :: (rest ++ char :: after)) = true := by
      rw [List.isPrefixOf_iff_prefix] at differs ⊢
      exact fun starts => differs ((prefix_append_cons_iff foreign).mp starts)
    rw [List.cons_append, replaceAll, if_neg differsAll, ih, List.cons_append]

/-- Text of characters that are not in the pattern parts what is replaced. -/
theorem replaceAll_append_run (foreign : ∀ char ∈ run, char ∉ pattern) (run_ne : run ≠ [])
    (nonempty : pattern ≠ []) :
    replaceAll pattern replacement (before ++ (run ++ after))
      = replaceAll pattern replacement before
        ++ (run ++ replaceAll pattern replacement after) := by
  induction run generalizing before with
  | nil => exact absurd rfl run_ne
  | cons first rest ih =>
    have foreignRest : ∀ char ∈ rest, char ∉ pattern := fun char member =>
      foreign char (.tail _ member)
    rw [List.cons_append, replaceAll_append_cons (foreign first List.mem_cons_self) nonempty]
    cases rest with
    | nil => rfl
    | cons second rest =>
      have apart := @ih [] foreignRest (by simp)
      rw [replaceAll, List.nil_append, List.nil_append] at apart
      rw [apart]
      rfl

theorem mem_of_mem_replaceAll (member : char ∈ replaceAll pattern replacement chars) :
    char ∈ chars ∨ char ∈ replacement := by
  fun_induction replaceAll pattern replacement chars with
  | case1 => exact .inl member
  | case2 first rest _ ih =>
    rcases List.mem_append.mp member with inReplacement | inRest
    · exact .inr inReplacement
    · exact (ih inRest).imp_left fun dropped => .tail _ (List.mem_of_mem_drop dropped)
  | case3 first rest _ ih =>
    rcases List.mem_cons.mp member with rfl | inRest
    · exact .inl List.mem_cons_self
    · exact (ih inRest).imp_left (.tail _)

theorem not_mem_replaceAll_singleton (clean : char ∉ replacement) :
    char ∉ replaceAll [char] replacement chars := by
  intro member
  fun_induction replaceAll [char] replacement chars with
  | case1 => cases member
  | case2 first rest _ ih =>
    rcases List.mem_append.mp member with inReplacement | inRest
    · exact clean inReplacement
    · exact ih inRest
  | case3 first rest differs ih =>
    rcases List.mem_cons.mp member with rfl | inRest
    · simp at differs
    · exact ih inRest

/-! ## One replacement after the other -/

/-- Patterns that are replaced one after the other. -/
def replaceEach (spellings : List (List Char × List Char)) (chars : List Char) : List Char :=
  spellings.foldl (fun chars spelling => replaceAll spelling.1 spelling.2 chars) chars

theorem replaceEach_append_run {spellings : List (List Char × List Char)}
    (foreign : ∀ spelling ∈ spellings, ∀ char ∈ run, char ∉ spelling.1) (run_ne : run ≠ [])
    (nonempty : ∀ spelling ∈ spellings, spelling.1 ≠ []) :
    replaceEach spellings (before ++ (run ++ after))
      = replaceEach spellings before ++ (run ++ replaceEach spellings after) := by
  induction spellings generalizing before after with
  | nil => rfl
  | cons spelling rest ih =>
    rw [List.forall_mem_cons] at foreign nonempty
    simp only [replaceEach, List.foldl_cons] at ih ⊢
    rw [replaceAll_append_run foreign.1 run_ne nonempty.1, ih foreign.2 nonempty.2]

/-- A character that is a pattern of its own is gone if no replacement has it. -/
theorem not_mem_replaceEach {spellings : List (List Char × List Char)}
    (clean : ∀ spelling ∈ spellings, char ∉ spelling.2)
    (gone : char ∉ chars ∨ ∃ spelling ∈ spellings, spelling.1 = [char]) :
    char ∉ replaceEach spellings chars := by
  induction spellings generalizing chars with
  | nil => exact gone.resolve_right (by simp)
  | cons spelling rest ih =>
    rw [List.forall_mem_cons] at clean
    refine ih clean.2 ?_
    rcases gone with absent | ⟨gone, isListed, single⟩
    · exact .inl fun member => (mem_of_mem_replaceAll member).elim absent clean.1
    · rcases List.mem_cons.mp isListed with rfl | later
      · dsimp only
        rw [single]
        exact .inl (not_mem_replaceAll_singleton clean.1)
      · exact .inr ⟨gone, later, single⟩

end Forecast
