import OutlineLint.Proofs.FileTree.Refusal

/-!
# Entries that a tree holds

A tree holds an entry at a route if all that lies above the entry are
directories.  Looking up a route gives the entry that the tree holds there, as
long as neither the path nor a name in it is too long.  Where nothing is held
the look-up fails, for the way there ends early or leads through a file.
-/

namespace OutlineLint.FileTree

/-- The entry is at the route, with directories all the way down to it. -/
structure Holds (tree : FileTree) (route : Route) (node : Node) : Prop where
  entry : tree.node? route = some node
  above : ∀ front, front <+: route → front ≠ route →
    tree.node? front = some .directory

theorem holds_root_iff (tree : FileTree) (node : Node) :
    tree.Holds [] node ↔ node = .directory := by
  constructor
  · intro held
    exact (Option.some.inj held.entry).symm
  · rintro rfl
    exact ⟨rfl,
      fun front atStart below => absurd (List.prefix_nil.mp atStart) below⟩

theorem holds_snoc_iff
    (tree : FileTree) (front : Route) (last : Bytes) (node : Node) :
    tree.Holds (front ++ [last]) node ↔
      tree.node? (front ++ [last]) = some node ∧
        tree.Holds front .directory := by
  constructor
  · intro held
    have frontAbove : front ≠ front ++ [last] := by simp
    refine
      ⟨held.entry, held.above front (List.prefix_append _ _) frontAbove, ?_⟩
    intro above atStart _
    refine held.above above (atStart.trans (List.prefix_append _ _)) ?_
    rintro rfl
    exact absurd atStart.length_le (by simp)
  · rintro ⟨entry, held⟩
    refine ⟨entry, fun above atStart proper => ?_⟩
    have inFront : above <+: front :=
      (List.prefix_concat_iff.mp atStart).resolve_left proper
    rcases Decidable.em (above = front) with rfl | notFront
    · exact held.entry
    · exact held.above above inFront notFront

/-! ## Walking to an entry -/

/--
A walk down short names ends where it leads to if all on
the way are directories.
-/
theorem walk_root_eq_ok_iff
    (tree : FileTree) {route : Route} (plain : Route.upward ∉ route)
    (short : ∀ name ∈ route, name.length ≤ nameLimit) (there : Route) :
    tree.walk [] route = .ok there ↔
      there = route ∧ tree.Holds route .directory := by
  induction route using List.reverseRecOn generalizing there with
  | nil =>
      rw [holds_root_iff, walk, Except.ok.injEq]
      exact ⟨fun same => ⟨same.symm, rfl⟩, fun atRoot => atRoot.1.symm⟩
  | append_singleton front last ih =>
      simp only [List.mem_append, List.mem_singleton, not_or] at plain short
      have notUpward : ¬ last = Route.upward := fun same => plain.2 same.symm
      have notLong : ¬ isTooLong last = true := by
        rw [isTooLong_iff, Nat.not_lt]
        exact short last (Or.inr rfl)
      have walked := ih plain.1 fun name member => short name (Or.inl member)
      rw [holds_snoc_iff, walk_append]
      cases reached : tree.walk [] front with
      | error error =>
          constructor
          · intro found
            contradiction
          · rintro ⟨rfl, -, held⟩
            rw [(walked front).mpr ⟨rfl, held⟩] at reached
            contradiction
      | ok here =>
          obtain ⟨rfl, held⟩ := (walked here).mp reached
          dsimp only
          rw [walk, if_neg notUpward, if_neg notLong]
          cases found : tree.node? (here ++ [last]) with
          | none => simp
          | some node =>
              cases node with
              | file contents => simp
              | directory => simp [walk, held, eq_comm]

/-! ## Looking up an entry -/

theorem not_reachesLongName_of_short
    {tree : FileTree} {here : Route} {components : List Bytes}
    (short : ∀ name ∈ components, name.length ≤ nameLimit) :
    ¬ tree.ReachesLongName here components := by
  intro reaches
  induction reaches with
  | here long => exact absurd (short _ List.mem_cons_self) (Nat.not_le.mpr long)
  | further _ _ ih =>
      exact ih fun name member => short name (List.mem_cons_of_mem _ member)

/-- Looking up a route finds what the tree holds there. -/
theorem status_ofRoute_eq_ok_iff
    (tree : FileTree) (directory : Route) {route : Route}
    (plain : Route.upward ∉ route)
    (short : ∀ name ∈ route, name.length ≤ nameLimit)
    (shortPath : route.path.length ≤ pathLimit) (node : Node) :
    tree.status directory (PathName.ofRoute route) = .ok node ↔
      tree.Holds route node := by
  have accepted :
      ¬ isTooLongPath (PathName.ofRoute route) = true := fun refused =>
    absurd (of_decide_eq_true refused) (Nat.not_lt.mpr shortPath)
  cases route using List.reverseRecOn with
  | nil =>
      rw [status_ofRoute_root tree directory accepted, holds_root_iff,
        Except.ok.injEq]
      exact eq_comm
  | append_singleton front last =>
      simp only [List.mem_append, List.mem_singleton, not_or] at plain short
      have notUpward : ¬ last = Route.upward := fun same => plain.2 same.symm
      have notLong : ¬ isTooLong last = true := by
        rw [isTooLong_iff, Nat.not_lt]
        exact short last (Or.inr rfl)
      have walked :=
        tree.walk_root_eq_ok_iff plain.1 fun name member =>
          short name (Or.inl member)
      rw [status_ofRoute_snoc tree directory accepted notUpward, holds_snoc_iff]
      cases reached : tree.walk [] front with
      | error error =>
          constructor
          · intro found
            contradiction
          · rintro ⟨-, held⟩
            rw [(walked front).mpr ⟨rfl, held⟩] at reached
            contradiction
      | ok here =>
          obtain ⟨rfl, held⟩ := (walked here).mp reached
          simp only [if_neg notLong]
          cases tree.node? (here ++ [last]) with
          | none => simp
          | some found => simp [held]

/-- Where nothing is held, the look-up of a route fails for that reason. -/
theorem status_ofRoute_eq_error_of_not_holds
    {tree : FileTree} (directory : Route) {route : Route}
    (plain : Route.upward ∉ route)
    (short : ∀ name ∈ route, name.length ≤ nameLimit)
    (shortPath : route.path.length ≤ pathLimit)
    (nothing : ∀ node, ¬ tree.Holds route node) :
    tree.status directory (PathName.ofRoute route) = .error .missing ∨
      tree.status directory (PathName.ofRoute route) =
        .error .notDirectory := by
  cases search : tree.status directory (PathName.ofRoute route) with
  | ok node =>
      exact absurd
        ((tree.status_ofRoute_eq_ok_iff directory plain short shortPath node).mp
            search)
        (nothing node)
  | error error =>
      rcases status_error_cases search with rfl | rfl | rfl
      · exact Or.inl rfl
      · exact Or.inr rfl
      · rcases (status_ofRoute_eq_nameTooLong_iff tree directory plain).mp
            search with
          longPath | reaches
        · omega
        · exact absurd reaches (not_reachesLongName_of_short short)

end OutlineLint.FileTree
