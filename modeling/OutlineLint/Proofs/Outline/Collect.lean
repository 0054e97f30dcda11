import Mathlib.Data.List.Induction
import Mathlib.Data.List.Nodup
import OutlineLint.Outline.Named

/-!
# Collecting from lines

What is picked from each line of a text, the lines above it being known.  The
number of lines above a line gives its row, so nothing else is needed to say
what a line contributes.
-/

namespace OutlineLint.Layout

variable {α : Type}

/-- What is picked from the lines that follow the lines above them. -/
def collectBelow (pick : List Text → Text → Option α) (above : List Text) :
    List Text → List α
  | [] => []
  | line :: rest =>
      (pick above line).toList ++ collectBelow pick (above ++ [line]) rest

/-- What is picked from the lines of a text, each with the lines above it. -/
def collect (pick : List Text → Text → Option α) (lines : List Text) : List α :=
  collectBelow pick [] lines

@[simp]
theorem collect_nil (pick : List Text → Text → Option α) :
    collect pick [] = [] :=
  rfl

theorem collectBelow_append
    (pick : List Text → Text → Option α) (above first second : List Text) :
    collectBelow pick above (first ++ second) =
      collectBelow pick above first ++
        collectBelow pick (above ++ first) second := by
  induction first generalizing above with
  | nil => simp [collectBelow]
  | cons line rest ih => simp [collectBelow, ih]

theorem collect_snoc
    (pick : List Text → Text → Option α) (lines : List Text) (line : Text) :
    collect pick (lines ++ [line]) =
      collect pick lines ++ (pick lines line).toList := by
  rw [collect, collectBelow_append, collect, collectBelow, collectBelow,
    List.nil_append, List.append_nil]

theorem collect_prefix_append
    (pick : List Text → Text → Option α) (first second : List Text) :
    collect pick first <+: collect pick (first ++ second) := by
  rw [collect, collect, collectBelow_append]
  exact List.prefix_append _ _

/--
What is picked below some lines is what another rule picks below others, if the
two rules agree on every line.
-/
theorem collectBelow_eq_map
    {β : Type} (pick : List Text → Text → Option α)
    (other : List Text → Text → Option β)
    (change : β → α) (above otherAbove : List Text) {lines : List Text}
    (agree : ∀ (before : List Text) (line : Text) (after : List Text),
      lines = before ++ line :: after →
        pick (above ++ before) line =
          (other (otherAbove ++ before) line).map change) :
    collectBelow pick above lines =
      (collectBelow other otherAbove lines).map change := by
  induction lines generalizing above otherAbove with
  | nil => rfl
  | cons line rest ih =>
      have here := agree [] line rest rfl
      have later := ih (above ++ [line]) (otherAbove ++ [line])
        (fun before next after whole => by
          have shifted := agree (line :: before) next after (by rw [whole]; rfl)
          simpa using shifted)
      rw [List.append_nil, List.append_nil] at here
      rw [collectBelow, collectBelow, List.map_append, here, later]
      cases other otherAbove line <;> rfl

theorem mem_collect_iff
    (pick : List Text → Text → Option α) (lines : List Text) (picked : α) :
    picked ∈ collect pick lines ↔
      ∃ (above : List Text) (line : Text) (below : List Text),
        lines = above ++ line :: below ∧ pick above line = some picked := by
  induction lines using List.reverseRecOn with
  | nil => simp
  | append_singleton lines last ih =>
      rw [collect_snoc, List.mem_append, ih, Option.mem_toList]
      constructor
      · rintro (⟨above, line, below, rfl, found⟩ | found)
        · exact ⟨above, line, below ++ [last], by simp, found⟩
        · exact ⟨lines, last, [], rfl, found⟩
      · rintro ⟨above, line, below, whole, found⟩
        rcases List.eq_nil_or_concat' below with rfl | ⟨front, final, rfl⟩
        · obtain ⟨rfl, same⟩ := List.append_inj' whole rfl
          cases same
          exact Or.inr found
        · rw [← List.cons_append, ← List.append_assoc] at whole
          obtain ⟨rfl, _⟩ := List.append_inj' whole rfl
          exact Or.inl ⟨above, line, front, rfl, found⟩

theorem collect_eq_nil
    {pick : List Text → Text → Option α} {lines : List Text}
    (nothing : ∀ (above : List Text) (line : Text) (below : List Text),
      lines = above ++ line :: below → pick above line = none) :
    collect pick lines = [] := by
  rw [List.eq_nil_iff_forall_not_mem]
  intro picked member
  obtain ⟨above, line, below, whole, found⟩ :=
    (mem_collect_iff pick lines picked).mp member
  rw [nothing above line below whole] at found
  cases found

/-- What is picked comes in the order of the rows of its lines. -/
theorem pairwise_collect
    {pick : List Text → Text → Option α} (row : α → Int)
    (rowOf : ∀ (above : List Text) (line : Text) (picked : α),
      pick above line = some picked → row picked = above.length + 1)
    (lines : List Text) :
    (collect pick lines).Pairwise fun first second =>
      row first < row second := by
  induction lines using List.reverseRecOn with
  | nil => exact List.Pairwise.nil
  | append_singleton lines line ih =>
      have atMostOne :
          (pick lines line).toList.Pairwise fun first second =>
            row first < row second := by
        cases pick lines line with
        | none => exact List.Pairwise.nil
        | some picked => exact List.pairwise_singleton _ picked
      rw [collect_snoc, List.pairwise_append]
      refine ⟨ih, atMostOne, ?_⟩
      intro earlier isEarlier last isLast
      obtain ⟨above, found, below, whole, picked⟩ :=
        (mem_collect_iff _ _ _).mp isEarlier
      have earlierRow := rowOf above found earlier picked
      have lastRow := rowOf lines line last (Option.mem_toList.mp isLast)
      have shorter : above.length < lines.length := by
        rw [whole]
        simp
      omega

/-- The lines of a text that stand in the same row are one line. -/
theorem eq_of_length_eq
    {above below otherAbove otherBelow : List Text} {line other : Text}
    (whole : above ++ line :: below = otherAbove ++ other :: otherBelow)
    (sameRow : above.length = otherAbove.length) :
    above = otherAbove ∧ line = other := by
  obtain ⟨sameAbove, sameRest⟩ := List.append_inj whole sameRow
  exact ⟨sameAbove, (List.cons.inj sameRest).1⟩

/-! ## First occurrences -/

theorem eraseDups_snoc [BEq α] [LawfulBEq α] (entries : List α) (entry : α) :
    (entries ++ [entry]).eraseDups =
      if entry ∈ entries then entries.eraseDups
        else entries.eraseDups ++ [entry] := by
  rw [List.eraseDups_append]
  by_cases member : entry ∈ entries <;>
    simp [List.removeAll, member, List.eraseDups_cons]

theorem nodup_eraseDups [BEq α] [LawfulBEq α] (entries : List α) :
    entries.eraseDups.Nodup := by
  induction entries using List.reverseRecOn with
  | nil => exact List.nodup_nil
  | append_singleton entries entry ih =>
      rw [eraseDups_snoc]
      split
      · exact ih
      · next new =>
          rw [← List.mem_eraseDups] at new
          rw [← List.concat_eq_append]
          exact ih.concat new

theorem eraseDups_filter
    [BEq α] [LawfulBEq α] (keep : α → Bool) (entries : List α) :
    (entries.filter keep).eraseDups = entries.eraseDups.filter keep := by
  induction entries using List.reverseRecOn with
  | nil => rfl
  | append_singleton entries entry ih =>
      rw [List.filter_append, eraseDups_snoc]
      by_cases kept : keep entry = true
      · have single : [entry].filter keep = [entry] := by simp [kept]
        rw [single, eraseDups_snoc, ih]
        by_cases known : entry ∈ entries
        · rw [if_pos (List.mem_filter.mpr ⟨known, kept⟩), if_pos known]
        · rw [if_neg (fun member => known (List.mem_filter.mp member).1),
            if_neg known, List.filter_append, single]
      · have single : [entry].filter keep = [] := by simp [kept]
        rw [single, List.append_nil, ih]
        split
        · rfl
        · rw [List.filter_append, single, List.append_nil]

/--
Changing the entry of a name in a list that has one entry for each distinct name
gives such a list for the names and the changed one.
-/
theorem alter_map_eraseDups
    {Entry : Type} [Named Entry]
    (wanted : Text) (fresh : Entry) (change : Entry → Entry)
    (names : List Text) (entryOf changed : Text → Entry)
    (named : ∀ other : Text, Named.name (entryOf other) = other)
    (others : ∀ other : Text, other ≠ wanted → changed other = entryOf other)
    (old : wanted ∈ names → changed wanted = change (entryOf wanted))
    (new : wanted ∉ names → changed wanted = change fresh) :
    Named.alter wanted fresh change (names.eraseDups.map entryOf) =
      (names ++ [wanted]).eraseDups.map changed := by
  rw [Named.alter_map wanted fresh change _ _ (nodup_eraseDups names) named,
    eraseDups_snoc]
  by_cases known : wanted ∈ names
  · rw [if_pos (List.mem_eraseDups.mpr known), if_pos known, List.append_nil]
    apply List.map_congr_left
    intro other _
    by_cases same : other = wanted
    · subst same
      rw [if_pos rfl, old known]
    · rw [if_neg same, others other same]
  · rw [if_neg (fun member => known (List.mem_eraseDups.mp member)),
      if_neg known, List.map_append, List.map_singleton, new known]
    congr 1
    apply List.map_congr_left
    intro other member
    have different : other ≠ wanted := by
      rintro rfl
      exact known (List.mem_eraseDups.mp member)
    rw [if_neg different, others other different]

end OutlineLint.Layout
