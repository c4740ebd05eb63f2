import GameFixes.Layout
import Mathlib.Data.List.Basic

/-!
# Absolute layouts

Seen from an absolute working directory everything of a project lies at an absolute path, and it
stays there if its paths are given by flags:

* `Path.isAbsolute_join`, `Path.join_of_isAbsolute`: what is inside an absolute path is absolute,
  and an absolute path is inside no other one;
* `Path.isAbsolute_of_mem_ancestors`: what is around an absolute path is absolute;
* `Layout.IsSettled`: a layout of absolute paths, three of which follow from the others;
* `Layout.exists_resolve`: every layout is one, whatever flags and variables give;
* `Layout.IsSettled.resolve_flags`: such a layout is resolved to itself;
* `Layout.resolve_settles`: all of this together.
-/

namespace GameFixes

namespace Path

variable {p q base : String}

theorem isAbsolute_iff : isAbsolute p = true ↔ ∃ rest, p.toList = '/' :: rest := by
  rw [isAbsolute, beq_iff_eq, List.head?_eq_some_iff]

theorem isAbsolute_append (h : isAbsolute p = true) (q : String) : isAbsolute (p ++ q) = true := by
  obtain ⟨rest, hrest⟩ := isAbsolute_iff.1 h
  exact isAbsolute_iff.2 ⟨rest ++ q.toList, by rw [String.toList_append, hrest, List.cons_append]⟩

/-- An absolute path replaces the one it is joined to. -/
theorem join_of_isAbsolute (h : isAbsolute p = true) (base : String) : join base p = p := by
  rw [join, if_pos h]

theorem isAbsolute_join (h : isAbsolute base = true) (p : String) :
    isAbsolute (join base p) = true := by
  unfold join
  split_ifs with hp hend
  · exact hp
  · exact isAbsolute_append h p
  · exact isAbsolute_append (isAbsolute_append h "/") p

theorem isAbsolute_of_parent? (h : isAbsolute p = true) (hq : parent? p = some q) :
    isAbsolute q = true := by
  obtain ⟨rest, hrest⟩ := isAbsolute_iff.1 h
  rw [parent?, hrest] at hq
  dsimp only [anchor] at hq
  split at hq
  · cases hq
  · obtain rfl := Option.some.inj hq
    exact isAbsolute_iff.2 ⟨_, String.toList_ofList⟩

/-- What is around an absolute path is absolute. -/
theorem isAbsolute_of_mem_ancestors (h : isAbsolute p = true) (hq : q ∈ ancestors p) :
    isAbsolute q = true := by
  unfold ancestors at hq
  generalize p.length = fuel at hq
  induction fuel generalizing p with
  | zero => rwa [List.mem_singleton.1 hq]
  | succ fuel ih =>
    rcases List.mem_cons.1 hq with rfl | hq
    · exact h
    · cases hparent : parent? p with
      | none =>
        rw [hparent] at hq
        cases hq
      | some parent =>
        rw [hparent] at hq
        exact ih (isAbsolute_of_parent? h hparent) hq

end Path

namespace Layout

/-- The paths of a layout. -/
def paths (l : Layout) : List String :=
  [l.projectRoot.path, l.stateDir, l.dataDir.path, l.fixesDir.path, l.extraIds, l.database,
    l.config.path]

/-- The flags that give a layout. -/
def flags (l : Layout) : Overrides where
  projectRoot := l.projectRoot.path
  dataDir := l.dataDir.path
  fixesDir := l.fixesDir.path
  config := l.config.path

/-- All paths of a layout are absolute, and three of them follow from the others. -/
structure IsSettled (l : Layout) : Prop where
  absolute : ∀ path ∈ l.paths, Path.isAbsolute path = true
  stateDir : l.stateDir = Path.join l.projectRoot.path stateDirName
  extraIds : l.extraIds = Path.join l.dataDir.path extraIdsName
  database : l.database = Path.join l.dataDir.path databaseName

variable {isDir : String → Bool} {env : Environment} {cwd variableName base : String}
  {flag : Option String} {overrides : Overrides} {l : Layout}

theorem isAbsolute_findRoot (h : Path.isAbsolute cwd = true) :
    Path.isAbsolute (findRoot isDir cwd) = true := by
  rw [findRoot]
  cases hfind : (Path.ancestors cwd).find? fun dir => isDir (Path.join dir stateDirName) with
  | none => exact h
  | some dir => exact Path.isAbsolute_of_mem_ancestors h (List.mem_of_find?_eq_some hfind)

/-- What is given is seen from an absolute path. -/
theorem isAbsolute_given? (hbase : Path.isAbsolute base = true) {placed : Placed}
    (h : given? env variableName base flag = some placed) :
    Path.isAbsolute placed.path = true := by
  cases flag with
  | some path =>
    obtain rfl := Option.some.inj h
    exact Path.isAbsolute_join hbase path
  | none =>
    obtain ⟨path, -, rfl⟩ := Option.map_eq_some_iff.1 h
    exact Path.isAbsolute_join hbase path

theorem isAbsolute_getD_given? (hbase : Path.isAbsolute base = true) {rule : Placed}
    (hrule : Path.isAbsolute rule.path = true) :
    Path.isAbsolute ((given? env variableName base flag).getD rule).path = true := by
  cases h : given? env variableName base flag with
  | none => exact hrule
  | some placed => exact isAbsolute_given? hbase h

/-- An absolute flag gives itself. -/
theorem given?_of_isAbsolute {path : String} (h : Path.isAbsolute path = true) :
    given? env variableName base (some path) = some ⟨path, .flag⟩ := by
  rw [given?, Path.join_of_isAbsolute h]

theorem ne_empty_of_isAbsolute (h : Path.isAbsolute cwd = true) : cwd ≠ "" := by
  rintro rfl
  exact absurd h (by decide)

/-- Seen from an absolute working directory there is a layout of absolute paths. -/
theorem exists_resolve (isDir : String → Bool) (env : Environment)
    (hcwd : Path.isAbsolute cwd = true) (overrides : Overrides) :
    ∃ l, resolve isDir env cwd overrides = .ok l ∧ l.IsSettled := by
  rw [resolve, if_neg (ne_empty_of_isAbsolute hcwd)]
  extract_lets root state data fixes config
  have hroot : Path.isAbsolute root.path = true :=
    isAbsolute_getD_given? hcwd (isAbsolute_findRoot hcwd)
  have hstate : Path.isAbsolute state = true := Path.isAbsolute_join hroot _
  have hdata : Path.isAbsolute data.path = true :=
    isAbsolute_getD_given? hroot (Path.isAbsolute_join hstate _)
  have hfixes : Path.isAbsolute fixes.path = true :=
    isAbsolute_getD_given? hroot (Path.isAbsolute_join hdata _)
  have hconfig : Path.isAbsolute config.path = true :=
    isAbsolute_getD_given? hroot (Path.isAbsolute_join hstate _)
  refine ⟨_, rfl, ?_, rfl, rfl, rfl⟩
  simp only [paths, List.forall_mem_cons]
  exact ⟨hroot, hstate, hdata, hfixes, Path.isAbsolute_join hdata _,
    Path.isAbsolute_join hdata _, hconfig, List.forall_mem_nil _⟩

/-- A settled layout that flags give is the same from everywhere. -/
theorem IsSettled.resolve_flags (h : l.IsSettled) (isDir : String → Bool) (env : Environment)
    (hcwd : Path.isAbsolute cwd = true) :
    resolve isDir env cwd l.flags = .ok { l with
      projectRoot := ⟨l.projectRoot.path, .flag⟩
      dataDir := ⟨l.dataDir.path, .flag⟩
      fixesDir := ⟨l.fixesDir.path, .flag⟩
      config := ⟨l.config.path, .flag⟩ } := by
  have habsolute := h.absolute
  simp only [paths, List.forall_mem_cons] at habsolute
  obtain ⟨hroot, -, hdata, hfixes, -, -, hconfig, -⟩ := habsolute
  rw [resolve, if_neg (ne_empty_of_isAbsolute hcwd)]
  simp only [flags, given?_of_isAbsolute hroot, given?_of_isAbsolute hdata,
    given?_of_isAbsolute hfixes, given?_of_isAbsolute hconfig, Option.getD_some, h.stateDir,
    h.extraIds, h.database]

/-- **A layout can be given by its own paths.** Seen from an absolute working directory all paths
of a layout are absolute, whatever flags and variables give. If flags give the four that flags can
give, the layout has the same paths again, from every absolute working directory, under all
variables, and whatever directories there are. -/
theorem resolve_settles (isDir : String → Bool) (env : Environment)
    (hcwd : Path.isAbsolute cwd = true) (overrides : Overrides) :
    ∃ l, resolve isDir env cwd overrides = .ok l ∧
      (∀ path ∈ l.paths, Path.isAbsolute path = true) ∧
      ∀ isDir' env' cwd', Path.isAbsolute cwd' = true →
        ∃ l', resolve isDir' env' cwd' l.flags = .ok l' ∧ l'.paths = l.paths := by
  obtain ⟨l, hl, hsettled⟩ := exists_resolve isDir env hcwd overrides
  refine ⟨l, hl, hsettled.absolute, fun isDir' env' cwd' hcwd' => ?_⟩
  exact ⟨_, hsettled.resolve_flags isDir' env' hcwd', rfl⟩

/-- An empty flag leads to the working directory, with a slash behind it; that slash stays. -/
theorem resolve_settles_emptyFlag : ∃ l,
    resolve (fun _ => false) ∅ "/w" { projectRoot := some "", dataDir := some "d" } = .ok l ∧
    l.paths = ["/w/", "/w/.fixtool", "/w/d", "/w/d/protonfixes", "/w/d/proton-steamids.txt",
      "/w/d/providers.db", "/w/.fixtool/config.toml"] ∧
    ∃ l', resolve (fun _ => true) (TextMap.insert ∅ "FIXTOOL_CONFIG" "c") "/" l.flags = .ok l' ∧
      l'.paths = l.paths := by
  have hcwd : Path.isAbsolute "/w" = true := by decide
  obtain ⟨l, hl, -, hstays⟩ := resolve_settles (fun _ => false) ∅ hcwd
    { projectRoot := some "", dataDir := some "d" }
  refine ⟨l, hl, ?_, hstays _ _ _ (by decide)⟩
  obtain rfl := Except.ok.inj hl
  decide

end Layout

end GameFixes
