import Mathlib.Data.List.Induction
import OutlineLint.FileTree.Basic

/-!
# Routes that the file system refuses

Looking up a route fails in three ways.  The route leads nowhere, it leads
through a file, or something in it is too long: the whole path, or a name that
directories lead to.  A name that is never reached may be of any length.
-/

namespace OutlineLint

theorem Route.upward_not_mem_step
    {here : Route} (plain : upward ∉ here) (component : Bytes) :
    upward ∉ here.step component := by
  unfold Route.step
  split
  · exact plain
  · split
    · exact fun member => plain (List.dropLast_subset here member)
    · next different =>
        simp only [List.mem_append, List.mem_singleton, not_or]
        exact ⟨plain, fun same => different same.symm⟩

/-- Resolving takes all steps upward. -/
theorem Route.upward_not_mem_resolve
    {directory : Route} (plain : upward ∉ directory) (path : Bytes) :
    upward ∉ Route.resolve directory path := by
  have steps (components : List Bytes) (start : Route)
      (plainStart : upward ∉ start) :
      upward ∉ components.foldl Route.step start := by
    induction components generalizing start with
    | nil => exact plainStart
    | cons component rest ih =>
        exact ih _ (upward_not_mem_step plainStart component)
  rw [resolve]
  apply steps
  split
  · exact List.not_mem_nil
  · exact plain

namespace FileTree

/-- Some component is a name that is too long, and directories lead to it. -/
inductive ReachesLongName (tree : FileTree) : Route → List Bytes → Prop where
  | here {here : Route} {name : Bytes} {rest : List Bytes}
      (long : nameLimit < name.length) :
      ReachesLongName tree here (name :: rest)
  | further {here : Route} {name : Bytes} {rest : List Bytes}
      (isDirectory : tree.node? (here ++ [name]) = some .directory)
      (reaches : ReachesLongName tree (here ++ [name]) rest) :
      ReachesLongName tree here (name :: rest)

theorem isTooLong_iff (name : Bytes) :
    isTooLong name = true ↔ nameLimit < name.length :=
  decide_eq_true_iff

/-! ## Walking down -/

theorem walk_append
    (tree : FileTree) (here : Route) (first second : List Bytes) :
    tree.walk here (first ++ second) =
      match tree.walk here first with
      | .error error => .error error
      | .ok there => tree.walk there second := by
  induction first generalizing here with
  | nil => rfl
  | cons component rest ih =>
      rw [List.cons_append, walk, walk]
      split
      · exact ih _
      · split
        · rfl
        · split
          · rfl
          · rfl
          · exact ih _

theorem walk_eq_nameTooLong_iff
    (tree : FileTree) (here : Route) {components : List Bytes}
    (plain : Route.upward ∉ components) :
    tree.walk here components = .error .nameTooLong ↔
      tree.ReachesLongName here components := by
  induction components generalizing here with
  | nil =>
      constructor
      · intro refused
        cases refused
      · intro reaches
        cases reaches
  | cons name rest ih =>
      rw [List.mem_cons, not_or] at plain
      have notUpward : ¬ name = Route.upward := fun same => plain.1 same.symm
      rw [walk, if_neg notUpward]
      by_cases long : isTooLong name = true
      · rw [if_pos long]
        exact ⟨fun _ => .here ((isTooLong_iff name).mp long), fun _ => rfl⟩
      · rw [if_neg long]
        rw [isTooLong_iff] at long
        constructor
        · intro refused
          split at refused
          · cases refused
          · cases refused
          · next isDirectory =>
              exact .further isDirectory ((ih _ plain.2).mp refused)
        · intro reaches
          cases reaches with
          | here isLong => exact absurd isLong long
          | further isDirectory reaches =>
              rw [isDirectory]
              exact (ih _ plain.2).mpr reaches

theorem walk_error_cases
    {tree : FileTree} {here : Route} {components : List Bytes}
    {error : AccessError} (refused : tree.walk here components = .error error) :
    error = .missing ∨ error = .notDirectory ∨ error = .nameTooLong := by
  induction components generalizing here with
  | nil => cases refused
  | cons component rest ih =>
      rw [walk] at refused
      split at refused
      · exact ih refused
      · split at refused
        · cases refused
          exact Or.inr (Or.inr rfl)
        · split at refused
          · cases refused
            exact Or.inl rfl
          · cases refused
            exact Or.inr (Or.inl rfl)
          · exact ih refused

/-! ## Looking up -/

theorem locate_error_cases
    {tree : FileTree} {directory : Route} {path : PathName}
    {error : AccessError}
    (refused : tree.locate directory path = .error error) :
    error = .missing ∨ error = .notDirectory ∨ error = .nameTooLong := by
  simp only [locate] at refused
  generalize (if path.root.isEmpty = true then directory else []) =
    start at refused
  split at refused
  · cases refused
    exact Or.inr (Or.inr rfl)
  · split at refused
    · cases refused
    · split at refused
      · next walkError =>
          cases refused
          exact walk_error_cases walkError
      · split at refused
        · cases refused
        · split at refused
          · cases refused
            exact Or.inr (Or.inr rfl)
          · cases refused

/-- Looking up fails only in these ways. -/
theorem status_error_cases
    {tree : FileTree} {directory : Route} {path : PathName}
    {error : AccessError}
    (refused : tree.status directory path = .error error) :
    error = .missing ∨ error = .notDirectory ∨ error = .nameTooLong := by
  unfold status at refused
  split at refused
  · next locateError =>
      cases refused
      exact locate_error_cases locateError
  · split at refused
    · cases refused
      exact Or.inl rfl
    · cases refused

theorem status_ofRoute_root
    (tree : FileTree) (directory : Route)
    (accepted : ¬ isTooLongPath (PathName.ofRoute []) = true) :
    tree.status directory (PathName.ofRoute []) = .ok .directory := by
  have located : tree.locate directory (PathName.ofRoute []) = .ok [] := by
    rw [locate]
    exact if_neg accepted
  rw [status, located]
  rfl

/--
Below the root a route is looked up by a walk to the directory
above its last component.
-/
theorem status_ofRoute_snoc
    (tree : FileTree) (directory : Route) {front : Route} {last : Bytes}
    (accepted : ¬ isTooLongPath (PathName.ofRoute (front ++ [last])) = true)
    (notUpward : ¬ last = Route.upward) :
    tree.status directory (PathName.ofRoute (front ++ [last])) =
      match tree.walk [] front with
      | .error error => .error error
      | .ok here =>
          if isTooLong last then
            .error .nameTooLong
          else
            match tree.node? (here ++ [last]) with
            | none => .error .missing
            | some node => .ok node := by
  have lastComponent :
      (PathName.ofRoute (front ++ [last])).components.getLast? = some last :=
    List.getLast?_concat
  have above :
      (PathName.ofRoute (front ++ [last])).components.dropLast = front :=
    List.dropLast_concat
  have start :
      (if (PathName.ofRoute (front ++ [last])).root.isEmpty then directory
          else []) = [] :=
    rfl
  rw [status, locate]
  simp only [if_neg accepted, lastComponent, above, start]
  cases tree.walk [] front with
  | error error => rfl
  | ok here =>
      simp only [if_neg notUpward]
      by_cases long : isTooLong last = true
      · simp only [if_pos long]
      · cases found : tree.node? (here ++ [last]) with
        | none => simp only [if_neg long, found]
        | some node => simp only [if_neg long, found]

/-- A resolved route is refused for its length in one of two ways. -/
theorem status_ofRoute_eq_nameTooLong_iff
    (tree : FileTree) (directory : Route) {route : Route}
    (plain : Route.upward ∉ route) :
    tree.status directory (PathName.ofRoute route) = .error .nameTooLong ↔
      pathLimit < route.path.length ∨ tree.ReachesLongName [] route := by
  rw [← walk_eq_nameTooLong_iff tree [] plain]
  by_cases longPath : pathLimit < route.path.length
  · have refused : isTooLongPath (PathName.ofRoute route) = true :=
      decide_eq_true longPath
    have located :
        tree.locate directory (PathName.ofRoute route) =
            .error .nameTooLong := by
      rw [locate]
      exact if_pos refused
    rw [status, located]
    exact ⟨fun _ => Or.inl longPath, fun _ => rfl⟩
  · have accepted : ¬ isTooLongPath (PathName.ofRoute route) = true := by
      intro refused
      exact longPath (of_decide_eq_true refused)
    rw [or_iff_right longPath]
    cases route using List.reverseRecOn with
    | nil =>
        rw [status_ofRoute_root tree directory accepted]
        exact ⟨nofun, nofun⟩
    | append_singleton front last =>
        rw [List.mem_append, List.mem_singleton, not_or] at plain
        have notUpward : ¬ last = Route.upward := fun same => plain.2 same.symm
        rw [status_ofRoute_snoc tree directory accepted notUpward, walk_append]
        cases tree.walk [] front with
        | error error => simp
        | ok here =>
            simp only [walk, if_neg notUpward]
            by_cases long : isTooLong last = true
            · simp only [if_pos long]
            · simp only [if_neg long]
              cases tree.node? (here ++ [last]) with
              | none => exact ⟨nofun, nofun⟩
              | some node => cases node <;> exact ⟨nofun, nofun⟩

end FileTree

end OutlineLint
