import Mathlib.Data.List.Induction
import OutlineLint.Proofs.FileTree.Writing

/-!
# What writing changes

If a path leads anywhere, it leads to the route that its text means.  A file is
written at that route and nowhere else.  Making a directory, with the ones that
lead to it, makes directories where nothing was, each at a route that a leading
part of the path means.  This holds as well when the making fails on its way.
-/

namespace OutlineLint

/-! ## The routes that path names mean -/

/-- One step along a path name. -/
def Route.advance (here : Route) (component : Bytes) : Route :=
  if component = Route.upward then here.dropLast else here ++ [component]

theorem Route.step_eq_ite_advance (here : Route) (component : Bytes) :
    here.step component =
      if !component.isEmpty && component != current then here.advance component
        else here := by
  rw [step, advance]
  by_cases empty : component.isEmpty = true
  · simp [empty]
  · by_cases dot : component = current <;> simp [empty, dot]

namespace PathName

/-- The route that a path name means in a directory, whatever is in the tree. -/
def routeIn (path : PathName) (directory : Route) : Route :=
  path.components.foldl Route.advance
    (if path.root.isEmpty then directory else [])

/--
A leading part of the path name, which may be empty or
the whole, means the route.
-/
def LeadsThrough (path : PathName) (directory route : Route) : Prop :=
  ∃ leading : List Bytes,
    leading <+: path.components ∧
      route = (PathName.mk path.root leading).routeIn directory

theorem isEmpty_rootOf (path : Bytes) :
    (rootOf path).isEmpty = !(path.head? = some Ascii.slash : Bool) := by
  cases path with
  | nil => rfl
  | cons first rest =>
      by_cases slash : first = Ascii.slash
      · subst slash
        rw [rootOf, List.takeWhile_cons_of_pos (by simp)]
        split <;> simp_all
      · rw [rootOf, List.takeWhile_cons_of_neg (by simpa using slash)]
        simp [slash]

/-- A path name means what the text that it was made of is resolved to. -/
theorem routeIn_ofPath (directory : Route) (path : Bytes) :
    (ofPath path).routeIn directory = Route.resolve directory path := by
  have start :
      (if (rootOf path).isEmpty then directory else []) =
        if path.head? = some Ascii.slash then [] else directory := by
    rw [isEmpty_rootOf]
    by_cases slash : path.head? = some Ascii.slash <;> simp [slash]
  have steps (here : Route) (components : List Bytes) :
      components.foldl
          (fun here component =>
            if !component.isEmpty && component != Route.current then
                here.advance component
              else here)
          here =
        components.foldl Route.step here := by
    simp only [← Route.step_eq_ite_advance]
  rw [routeIn, Route.resolve, ofPath, List.foldl_filter, steps, start]

theorem routeIn_snoc
    (root : Bytes) (front : List Bytes) (last : Bytes) (directory : Route) :
    (PathName.mk root (front ++ [last])).routeIn directory =
      ((PathName.mk root front).routeIn directory).advance last := by
  rw [routeIn, routeIn, List.foldl_append]
  rfl

theorem LeadsThrough.of_leading
    {root : Bytes} {front components : List Bytes} {directory route : Route}
    (leads : LeadsThrough ⟨root, front⟩ directory route)
    (isFront : front <+: components) :
    LeadsThrough ⟨root, components⟩ directory route := by
  obtain ⟨leading, isLeading, routeEq⟩ := leads
  exact ⟨leading, isLeading.trans isFront, routeEq⟩

theorem leadsThrough_self (path : PathName) (directory : Route) :
    path.LeadsThrough directory (path.routeIn directory) :=
  ⟨path.components, List.prefix_rfl, rfl⟩

end PathName

namespace FileTree

theorem eq_foldl_of_walk
    {tree : FileTree} {here there : Route} {components : List Bytes}
    (walked : tree.walk here components = .ok there) :
    there = components.foldl Route.advance here := by
  induction components generalizing here with
  | nil =>
      cases walked
      rfl
  | cons component rest ih =>
      rw [walk] at walked
      rw [List.foldl_cons, Route.advance]
      split at walked
      · next upward =>
          rw [if_pos upward]
          exact ih walked
      · next notUpward =>
          rw [if_neg notUpward]
          split at walked
          · cases walked
          · split at walked
            · cases walked
            · cases walked
            · exact ih walked

/-- A path name leads nowhere but to the route that it means. -/
theorem eq_routeIn_of_locate
    {tree : FileTree} {directory route : Route} {path : PathName}
    (located : tree.locate directory path = .ok route) :
    route = path.routeIn directory := by
  obtain ⟨root, components⟩ := path
  rw [locate] at located
  split at located
  · cases located
  · cases components using List.reverseRecOn with
    | nil =>
        cases located
        rfl
    | append_singleton front last =>
        simp only [List.getLast?_concat, List.dropLast_concat] at located
        rw [PathName.routeIn_snoc, Route.advance, PathName.routeIn]
        split at located
        · cases located
        · next here walked =>
            rw [← eq_foldl_of_walk walked]
            split at located
            · next upward =>
                cases located
                rw [if_pos upward]
            · next notUpward =>
                rw [if_neg notUpward]
                split at located
                · cases located
                · cases located
                  rfl

/-! ## Trees with further directories -/

/--
Directories have been made at some of the routes, and nothing else has changed.
-/
def Grown (routes : Route → Prop) (before after : FileTree) : Prop :=
  ∀ route : Route,
    after.node? route = before.node? route ∨
      routes route ∧ before.node? route = none ∧
        after.node? route = some .directory

section Grown

variable {routes others : Route → Prop} {first second third : FileTree}

theorem Grown.refl (tree : FileTree) : Grown routes tree tree :=
  fun _ => Or.inl rfl

theorem Grown.trans
    (left : Grown routes first second) (right : Grown routes second third) :
    Grown routes first third := by
  intro route
  rcases left route with same | ⟨allowed, absent, isDirectory⟩
  · rw [← same]
    exact right route
  · rcases right route with sameLater | ⟨_, stillAbsent, _⟩
    · exact Or.inr ⟨allowed, absent, sameLater.trans isDirectory⟩
    · rw [isDirectory] at stillAbsent
      cases stillAbsent

theorem Grown.mono
    (grown : Grown routes first second)
    (wider : ∀ route : Route, routes route → others route) :
    Grown others first second := by
  intro route
  rcases grown route with same | ⟨allowed, made⟩
  · exact Or.inl same
  · exact Or.inr ⟨wider route allowed, made⟩

end Grown

theorem grown_makeDirectory
    {tree changed : FileTree} {directory : Route} {path : PathName}
    (made : tree.makeDirectory directory path = .ok changed) :
    Grown (path.LeadsThrough directory) tree changed := by
  rw [makeDirectory] at made
  split at made
  · cases made
  · next route located =>
      cases eq_routeIn_of_locate located
      split at made
      · cases made
      · next absent =>
          cases made
          intro other
          by_cases same : other = path.routeIn directory
          · subst same
            have below : path.routeIn directory ≠ [] := by
              intro isRoot
              rw [isRoot, node?_root] at absent
              cases absent
            exact Or.inr ⟨path.leadsThrough_self directory, absent,
              node?_put_self tree _ _ below⟩
          · exact Or.inl (node?_put_of_ne tree same _)

theorem tree_accept
    (tree : FileTree) (directory : Route) (path : PathName)
    (error : AccessError) :
    (tree.accept directory path error).tree = tree := by
  rw [accept]
  split <;> rfl

theorem grown_makeDirectoriesFrom
    (tree : FileTree) (directory : Route) (root : Bytes)
    (reversed : List Bytes) :
    Grown (PathName.LeadsThrough ⟨root, reversed.reverse⟩ directory) tree
      (tree.makeDirectoriesFrom directory root reversed).tree := by
  induction reversed with
  | nil =>
      rw [makeDirectoriesFrom]
      split
      · next made => exact grown_makeDirectory made
      · rw [tree_accept]
        exact Grown.refl tree
  | cons last above ih =>
      have isFront : above.reverse <+: (last :: above).reverse := by
        rw [List.reverse_cons]
        exact List.prefix_append _ _
      have parents := ih.mono fun route leads => leads.of_leading isFront
      rw [makeDirectoriesFrom]
      dsimp only
      split
      · next made => exact grown_makeDirectory made
      · split
        · exact parents
        · split
          · next made => exact parents.trans (grown_makeDirectory made)
          · rw [tree_accept]
            exact parents
      · rw [tree_accept]
        exact Grown.refl tree

/--
Only directories on the way of the path are made, whether
or not all of them can be.
-/
theorem grown_makeDirectories
    (tree : FileTree) (directory : Route) (path : PathName) :
    Grown (path.LeadsThrough directory) tree
      (tree.makeDirectories directory path).tree := by
  have grown :=
    grown_makeDirectoriesFrom tree directory path.root path.components.reverse
  rw [List.reverse_reverse] at grown
  exact grown

/-! ## Written files -/

/--
A written file is at the route that its path means, where no directory was.
-/
theorem node?_of_writeFile
    {tree changed : FileTree} {directory : Route} {path : PathName}
    {contents : Bytes}
    (written : tree.writeFile directory path contents = .ok changed) :
    tree.node? (path.routeIn directory) ≠ some .directory ∧
      changed.node? (path.routeIn directory) = some (.file contents) ∧
        ∀ other : Route, other ≠ path.routeIn directory →
          changed.node? other = tree.node? other := by
  rw [writeFile] at written
  split at written
  · cases written
  · next route located =>
      cases eq_routeIn_of_locate located
      split at written
      · cases written
      · next notDirectory =>
          have noDirectory :
              tree.node? (path.routeIn directory) ≠ some .directory :=
            notDirectory
          have below : path.routeIn directory ≠ [] := by
            intro isRoot
            rw [isRoot] at noDirectory
            exact noDirectory (node?_root tree)
          cases written
          exact ⟨noDirectory, node?_put_self tree _ _ below,
            fun other different => node?_put_of_ne tree different _⟩

end FileTree

end OutlineLint
