import GameFixes.Proofs.Text.Utf8
import GameFixes.Proofs.Tree.Writing
import Mathlib.Data.List.Infix

/-!
# Paths of names

A rooted path that says names, one after another, leads through directories to the place of its
names. What stands there decides what the path is good for:

* `Tree.walk_map_into`: names lead through directories;
* `Site.locate_of_spells`: so a path leads where its last name does;
* `Site.isDir_of_spells`, `Site.list?_of_spells`, `Site.read?_of_spells`,
  `Site.target?_of_spells`: a directory is found and listed, a file is read, and where nothing
  stands a file can be written;
* `Tree.exists_walk_append`: steps that lead to a directory can be gone on from there;
* `Site.exists_locate_join`, `Site.placeOf_join`: so a name behind any path of a directory is looked
  up in it, and leads to what it names there;
* `Tree.mem_children_iff`: what a directory holds is what stands one name further.
-/

namespace GameFixes

/-! ### Names -/

namespace Tree

variable {t : Tree} {followLast : Bool} {budget : Nat} {p : Place} {name : FileName}
  {steps : List Step}

/-- Directories stand at a place and on the way to it. -/
def HasDirs (t : Tree) (p : Place) : Prop := ∀ q, q <+: p → t.at? q = some .dir

theorem HasDirs.at? (h : t.HasDirs p) : t.at? p = some .dir := h p (List.prefix_refl p)

theorem hasDirs_nil (t : Tree) : t.HasDirs [] := by
  intro q hq
  rw [List.prefix_nil.1 hq]
  rfl

theorem hasDirs_concat (h : t.HasDirs p) (hname : t.at? (p ++ [name]) = some .dir) :
    t.HasDirs (p ++ [name]) := by
  intro q hq
  rcases List.prefix_concat_iff.1 hq with rfl | hq
  · exact hname
  · exact h q hq

theorem walk_into_of_dir (hname : isName name = true) (h : t.at? (p ++ [name]) = some .dir) :
    t.walk followLast budget p (.into name :: steps) =
      t.walk followLast budget (p ++ [name]) steps := by
  rw [Tree.walk, if_neg (by simp [hname]), h]

theorem walk_into_of_none (hname : isName name = true) (h : t.at? (p ++ [name]) = none) :
    t.walk followLast budget p [.into name] = .ok (.free p name) := by
  rw [Tree.walk, if_neg (by simp [hname]), h]
  rfl

/-- Names lead through directories. -/
theorem walk_map_into {names : List FileName} (hnames : ∀ name ∈ names, isName name = true)
    (h : t.HasDirs (p ++ names)) (steps : List Step) :
    t.walk followLast budget p (names.map .into ++ steps) =
      t.walk followLast budget (p ++ names) steps := by
  induction names generalizing p with
  | nil => rw [List.map_nil, List.nil_append, List.append_nil]
  | cons name names ih =>
    rw [List.forall_mem_cons] at hnames
    have hsplit : p ++ name :: names = p ++ [name] ++ names := by simp
    rw [hsplit] at h ⊢
    rw [List.map_cons, List.cons_append,
      walk_into_of_dir hnames.1 (h _ (List.prefix_append (p ++ [name]) names)), ih hnames.2 h]

end Tree

/-! ### Paths -/

/-- A rooted path says names, one after another. -/
def Spells (path : String) (names : List FileName) : Prop :=
  isRooted (bytesOf path) = true ∧
    (decide (pathLimit ≤ (bytesOf path).length) || (bytesOf path).contains 0) = false ∧
    stepsOf (bytesOf path) = names.map .into ∧ ∀ name ∈ names, isName name = true

instance : DecidableRel Spells := fun _ _ => inferInstanceAs (Decidable (_ ∧ _))

theorem Spells.isEmpty_bytesOf {path : String} {names : List FileName} (h : Spells path names) :
    (bytesOf path).isEmpty = false := by
  cases hp : bytesOf path with
  | nil => simp [hp, Spells, isRooted] at h
  | cons => rfl

namespace Site

variable {s : Site} {path : String} {dir : Place} {name : FileName} {content : List UInt8}

theorem locate_of_spells {names : List FileName} (h : Spells path names) (followLast : Bool) :
    s.locate followLast (bytesOf path) =
      s.tree.walk followLast linkLimit [] (names.map .into) := by
  rw [locate, h.isEmpty_bytesOf, h.2.1, if_neg (by decide), if_neg (by decide), if_pos h.1,
    h.2.2.1]

/-- A path leads through directories to its last name. -/
theorem locate_of_spells_concat (h : Spells path (dir ++ [name])) (hdir : s.tree.HasDirs dir)
    (followLast : Bool) :
    s.locate followLast (bytesOf path) = s.tree.walk followLast linkLimit dir [.into name] := by
  have hnames : ∀ n ∈ dir, isName n = true :=
    fun n hn => h.2.2.2 n (List.mem_append_left _ hn)
  rw [locate_of_spells h, List.map_append, List.map_singleton,
    Tree.walk_map_into hnames (by rwa [List.nil_append]), List.nil_append]

/-- A path leads to the directory of its names. -/
theorem placeOf_of_spells (h : Spells path dir) (hdir : s.tree.HasDirs dir) :
    s.placeOf path = .ok dir := by
  rw [placeOf_eq_ok_iff, locate_of_spells h, ← List.append_nil (dir.map _),
    Tree.walk_map_into h.2.2.2 (by rwa [List.nil_append]), Tree.walk, List.nil_append]

theorem isDir_of_spells (h : Spells path dir) (hdir : s.tree.HasDirs dir) :
    s.isDir path = true := by
  rw [isDir, node, placeOf_of_spells h hdir]
  simp only [hdir.at?]

theorem list?_of_spells (h : Spells path dir) (hdir : s.tree.HasDirs dir) :
    s.list? path = some (s.tree.children dir) := by
  rw [list?, placeOf_of_spells h hdir]
  simp only [hdir.at?]

theorem read?_of_spells (dir : Place) (h : Spells path (dir ++ [name])) (hdir : s.tree.HasDirs dir)
    (hfile : s.tree.at? (dir ++ [name]) = some (.file content)) :
    s.read? path = some content := by
  refine read?_of_placeOf (placeOf_eq_ok_iff.2 ?_) hfile
  rw [locate_of_spells_concat h hdir]
  exact Tree.walk_into_of_isFile (h.2.2.2 name (by simp)) hfile rfl

section Free

variable (dir : Place) (h : Spells path (dir ++ [name])) (hdir : s.tree.HasDirs dir)
  (hfree : s.tree.at? (dir ++ [name]) = none)

include h hdir hfree

theorem locate_of_spells_of_free (followLast : Bool) :
    s.locate followLast (bytesOf path) = .ok (.free dir name) := by
  rw [locate_of_spells_concat h hdir]
  exact Tree.walk_into_of_none (h.2.2.2 name (by simp)) hfree

theorem target?_of_spells : s.target? path = some (dir ++ [name]) :=
  target?_eq_some_iff.2 (.inr ⟨dir, name, locate_of_spells_of_free dir h hdir hfree true, rfl⟩)

theorem contains_of_spells_of_free : s.contains path = false := by
  rw [contains, node, placeOf, locate_of_spells_of_free dir h hdir hfree]
  rfl

end Free

/-- A directory that is there is not created. -/
theorem createDirs_of_spells (dir : Place) (h : Spells path (dir ++ [name]))
    (hslashes : withoutSlashes (bytesOf path) = bytesOf path)
    (hdirs : s.tree.HasDirs (dir ++ [name])) : s.createDirs path = (s, true) := by
  have hnames : ∀ n ∈ dir, isName n = true :=
    fun n hn => h.2.2.2 n (List.mem_append_left _ hn)
  have hdir : s.tree.HasDirs dir := fun q hq => hdirs q (hq.trans (List.prefix_append _ _))
  have hparent : s.parentPlace (bytesOf path) (dir.map .into) = .ok dir := by
    rw [parentPlace, if_pos h.1, ← List.append_nil (dir.map _),
      Tree.walk_map_into hnames (by rwa [List.nil_append]), Tree.walk, List.nil_append]
    simp only [hdir.at?, if_true]
  have htaken : s.createDir path = .error .taken := by
    have hname : isName name = true := h.2.2.2 name (by simp)
    unfold createDir
    simp only [h.isEmpty_bytesOf, hslashes, h.2.1, h.2.2.1, List.map_append, List.map_singleton,
      List.getLast?_concat, List.dropLast_concat]
    rw [hparent]
    show (if (!isName name) = true then _ else _) = _
    rw [if_neg (by simp [hname]), hdirs.at?, Option.isSome_some, if_pos rfl]
  have hancestors : ∃ around, Path.ancestors path = path :: around := by
    unfold Path.ancestors
    cases path.length <;> exact ⟨_, rfl⟩
  obtain ⟨around, haround⟩ := hancestors
  rw [createDirs, haround, createWithin, htaken, isDir_of_spells h hdirs]
  exact ite_self _

end Site

/-! ### What a directory holds -/

namespace Tree

variable {t : Tree} {p : Place} {name : FileName} {n : Node}

/-- Each place is named once, as it is in every file system. -/
def IsProper (t : Tree) : Prop := (t.nodes.map (·.1)).Nodup

instance : DecidablePred IsProper := fun _ => inferInstanceAs (Decidable (List.Nodup _))

theorem IsProper.at?_eq_some_iff (h : t.IsProper) (hp : p ≠ []) :
    t.at? p = some n ↔ (p, n) ∈ t.nodes := by
  rw [at?, if_neg hp]
  obtain ⟨nodes⟩ := t
  change (nodes.map (·.1)).Nodup at h
  show nodes.lookup p = some n ↔ (p, n) ∈ nodes
  induction nodes with
  | nil => simp
  | cons e nodes ih =>
    obtain ⟨q, m⟩ := e
    rw [List.map_cons, List.nodup_cons] at h
    rw [List.lookup_cons, List.mem_cons, Prod.mk.injEq]
    by_cases hpq : p = q
    · have hnot : (p, n) ∉ nodes := fun hmem => h.1 (hpq ▸ List.mem_map_of_mem (f := (·.1)) hmem)
      simp [hpq, hpq ▸ hnot, eq_comm]
    · rw [beq_eq_false_iff_ne.2 hpq]
      simp [hpq, ih h.2]

/-- What an element of a tree is to a directory. -/
theorem childOf_eq_some_iff {q : Place} {m : Node} :
    (if q.dropLast = p then q.getLast?.map (·, m) else none) = some (name, n) ↔
      q = p ++ [name] ∧ m = n := by
  constructor
  · intro h
    split_ifs at h with hq
    obtain ⟨last, hlast, heq⟩ := Option.map_eq_some_iff.1 h
    obtain ⟨rfl, rfl⟩ := Prod.mk.inj heq
    obtain ⟨start, rfl⟩ := List.getLast?_eq_some_iff.1 hlast
    rw [List.dropLast_concat] at hq
    exact ⟨by rw [hq], rfl⟩
  · rintro ⟨rfl, rfl⟩
    rw [List.dropLast_concat, if_pos rfl, List.getLast?_concat]
    rfl

theorem IsProper.mem_children_iff (h : t.IsProper) :
    (name, n) ∈ t.children p ↔ t.at? (p ++ [name]) = some n := by
  rw [h.at?_eq_some_iff (by simp), children, List.mem_filterMap]
  constructor
  · rintro ⟨⟨q, m⟩, hmem, hq⟩
    obtain ⟨rfl, rfl⟩ := childOf_eq_some_iff.1 hq
    exact hmem
  · intro hmem
    exact ⟨_, hmem, childOf_eq_some_iff.2 ⟨rfl, rfl⟩⟩

/-- No name is held twice. -/
theorem IsProper.pairwise_children (h : t.IsProper) (p : Place) :
    (t.children p).Pairwise fun a b => a.1 ≠ b.1 := by
  refine List.Pairwise.filterMap _ ?_ (List.pairwise_map.1 h)
  rintro ⟨q, m⟩ ⟨q', m'⟩ hne ⟨name, n⟩ hname ⟨name', n'⟩ hname' heq
  obtain ⟨rfl, -⟩ := childOf_eq_some_iff.1 hname
  obtain ⟨rfl, -⟩ := childOf_eq_some_iff.1 hname'
  exact hne (by rw [show name = name' from heq])

/-- Trees that name the same places hold the same. -/
theorem IsProper.of_perm {nodes : List (Place × Node)} (h : t.IsProper)
    (hperm : nodes.Perm t.nodes) : (Tree.mk nodes).IsProper :=
  (hperm.map _).nodup_iff.2 h

theorem IsProper.at?_perm {nodes : List (Place × Node)} (h : t.IsProper)
    (hperm : nodes.Perm t.nodes) (p : Place) : (Tree.mk nodes).at? p = t.at? p := by
  by_cases hp : p = []
  · rw [hp]
    rfl
  · refine Option.ext fun n => ?_
    rw [(h.of_perm hperm).at?_eq_some_iff hp, h.at?_eq_some_iff hp]
    exact hperm.mem_iff

end Tree

/-! ### Names behind a path -/

/-- A name that a directory can hold. -/
def IsEntryName (name : FileName) : Prop :=
  isName name = true ∧ slash ∉ name ∧ name ≠ [] ∧ name ≠ [dot] ∧ name ≠ [dot, dot]

instance : DecidablePred IsEntryName := fun _ => inferInstanceAs (Decidable (_ ∧ _))

/-- A name that a path can say, also if it is too long for a directory. -/
def IsStepName (name : FileName) : Prop :=
  slash ∉ name ∧ 0 ∉ name ∧ name ≠ [] ∧ name ≠ [dot] ∧ name ≠ [dot, dot]

instance : DecidablePred IsStepName := fun _ => inferInstanceAs (Decidable (_ ∧ _))

theorem IsEntryName.isStepName {name : FileName} (h : IsEntryName name) : IsStepName name := by
  obtain ⟨hfits, hslash, hspecial⟩ := h
  simp only [isName, Bool.and_eq_true, Bool.not_eq_true', List.contains_eq_mem,
    decide_eq_false_iff_not] at hfits
  exact ⟨hslash, hfits.2, hspecial⟩

theorem IsStepName.stepOf? {name : FileName} (h : IsStepName name) :
    stepOf? name = some (.into name) := by
  obtain ⟨-, -, hnil, hdot, hdots⟩ := h
  rw [GameFixes.stepOf?, if_neg hnil, if_neg hdot, if_neg hdots]

theorem pathParts_ne_nil (path : List UInt8) : pathParts path ≠ [] := by
  cases path with
  | nil => exact List.cons_ne_nil _ _
  | cons b path =>
    rw [pathParts]
    split_ifs
    · exact List.cons_ne_nil _ _
    · cases pathParts path <;> exact List.cons_ne_nil _ _

/-- The parts on the two sides of a slash. -/
theorem pathParts_append_slash (path path' : List UInt8) :
    pathParts (path ++ slash :: path') = pathParts path ++ pathParts path' := by
  induction path with
  | nil => exact if_pos rfl
  | cons b path ih =>
    rw [List.cons_append, pathParts, pathParts, ih]
    split_ifs
    · rfl
    · obtain ⟨part, parts, hparts⟩ := List.exists_cons_of_ne_nil (pathParts_ne_nil path)
      rw [hparts]
      rfl

theorem pathParts_of_slash_notMem {name : FileName} (h : slash ∉ name) :
    pathParts name = [name] := by
  induction name with
  | nil => rfl
  | cons b name ih =>
    rw [List.mem_cons, not_or] at h
    rw [pathParts, if_neg (Ne.symm h.1), ih h.2]

/-- The steps that the parts of a path ask for. -/
def partSteps (path : List UInt8) : List Step := (pathParts path).filterMap stepOf?

theorem stepsOf_eq (path : List UInt8) : stepsOf path =
    if path.getLast? = some slash && !(partSteps path).isEmpty then partSteps path ++ [.here]
    else partSteps path := rfl

theorem exists_stepsOf_eq (path : List UInt8) : ∃ rest, (rest = [] ∨ rest = [.here]) ∧
    stepsOf path = partSteps path ++ rest := by
  rw [stepsOf_eq]
  split_ifs
  · exact ⟨_, .inr rfl, rfl⟩
  · exact ⟨_, .inl rfl, (List.append_nil _).symm⟩

/-- A slash at the end of a path asks for no step of its own. -/
theorem partSteps_concat_slash (path : List UInt8) :
    partSteps (path ++ [slash]) = partSteps path := by
  rw [partSteps, pathParts_append_slash, List.filterMap_append]
  exact List.append_nil _

/-- A name behind a path is the last step. -/
theorem stepsOf_append_name (path : List UInt8) {name : FileName} (h : IsStepName name) :
    stepsOf (path ++ slash :: name) = partSteps path ++ [.into name] := by
  have hparts : partSteps (path ++ slash :: name) = partSteps path ++ [.into name] := by
    rw [partSteps, pathParts_append_slash, List.filterMap_append, pathParts_of_slash_notMem h.1,
      List.filterMap_cons_some h.stepOf?]
    rfl
  have hlast : (path ++ slash :: name).getLast? ≠ some slash := by
    intro hlast
    rw [List.append_cons, List.getLast?_append_of_ne_nil _ h.2.2.1] at hlast
    exact h.1 (List.mem_of_getLast? hlast)
  rw [stepsOf_eq, decide_eq_false hlast, Bool.false_and, if_neg Bool.false_ne_true, hparts]

namespace Tree

variable {t : Tree} {budget : Nat} {p q : Place} {steps rest : List Step}

/-- A name on the way to a directory is that of a directory or of a link. -/
theorem of_walk_into (h : t.walk true budget q (.into name :: steps) = .ok (.place p))
    (hdir : t.at? p = some .dir) : isName name = true ∧ (t.at? (q ++ [name]) = some .dir ∨
      ∃ target left, t.at? (q ++ [name]) = some (.link target) ∧ target.isEmpty = false ∧
        budget = left + 1) := by
  rw [Tree.walk] at h
  cases hname : isName name with
  | false =>
    rw [hname, if_pos (by rfl)] at h
    cases h
  | true =>
    rw [hname, if_neg (by decide)] at h
    refine ⟨rfl, ?_⟩
    have hfile {n : Node} (hn : t.at? (q ++ [name]) = some n) (hne : n ≠ .dir) :
        (if steps.isEmpty = true then (.ok (.place (q ++ [name])) : Except Obstacle Landing)
          else .error .notDirectory) ≠ .ok (.place p) := by
      split_ifs
      · intro h
        cases h
        exact hne (Option.some.inj (hn.symm.trans hdir))
      · simp
    cases hq : t.at? (q ++ [name]) with
    | none =>
      rw [hq] at h
      dsimp only at h
      split_ifs at h
      cases h
    | some n =>
      rw [hq] at h
      cases n with
      | dir => exact .inl rfl
      | file content => exact absurd h (hfile hq (by simp))
      | sealed content => exact absurd h (hfile hq (by simp))
      | link target =>
        simp only [Bool.not_true, Bool.and_false, Bool.false_eq_true, if_false] at h
        by_cases htarget : target.isEmpty = true
        · rw [if_pos htarget] at h
          cases h
        · rw [if_neg htarget] at h
          cases budget with
          | zero => cases h
          | succ left => exact .inr ⟨target, left, rfl, by simpa using htarget, rfl⟩

theorem walk_into_of_link {target : List UInt8} (hname : isName name = true)
    (hq : t.at? (q ++ [name]) = some (.link target)) (htarget : target.isEmpty = false) :
    t.walk true (budget + 1) q (.into name :: steps) =
      t.walk true budget (if isRooted target then [] else q) (stepsOf target ++ steps) := by
  rw [Tree.walk, if_neg (by simp [hname]), hq]
  simp [htarget]

/-- Steps that lead to a directory can be gone on from there, also if the first time it was by more
steps that lead nowhere. -/
theorem exists_walk_append (hrest : rest = [] ∨ rest = [.here])
    (h : t.walk true budget q (steps ++ rest) = .ok (.place p)) (hdir : t.at? p = some .dir) :
    ∃ left, ∀ more, t.walk true budget q (steps ++ more) = t.walk true left p more := by
  induction budget using Nat.strong_induction_on generalizing q steps with
  | _ budget ihBudget =>
    induction steps generalizing q with
    | nil =>
      have hp : q = p := by rcases hrest with rfl | rfl <;> simpa [Tree.walk] using h
      exact ⟨budget, fun more => by rw [hp, List.nil_append]⟩
    | cons step steps ihSteps =>
      cases step with
      | here =>
        rw [List.cons_append, Tree.walk] at h
        simpa only [List.cons_append, Tree.walk] using ihSteps h
      | up =>
        rw [List.cons_append, Tree.walk] at h
        simpa only [List.cons_append, Tree.walk] using ihSteps h
      | into name =>
        obtain ⟨hname, hq | ⟨target, left, hq, htarget, rfl⟩⟩ := of_walk_into h hdir
        · rw [List.cons_append, walk_into_of_dir hname hq] at h
          simpa only [List.cons_append, walk_into_of_dir hname hq] using ihSteps h
        · rw [List.cons_append, walk_into_of_link hname hq htarget, ← List.append_assoc] at h
          simpa only [List.cons_append, walk_into_of_link hname hq htarget, List.append_assoc]
            using ihBudget left (Nat.lt_succ_self left) h

/-- Where steps lead depends on what stands in a tree only. -/
theorem walk_congr {t' : Tree} (h : ∀ p, t'.at? p = t.at? p) (followLast : Bool) (budget : Nat)
    (p : Place) (steps : List Step) :
    t'.walk followLast budget p steps = t.walk followLast budget p steps := by
  fun_induction Tree.walk t followLast budget p steps <;> rw [Tree.walk] <;> simp_all

end Tree

namespace Site

variable {s : Site} {dir name : String} {p : Place}

theorem locate_of_length_lt {followLast : Bool} {path : List UInt8} (hne : path ≠ [])
    (hshort : path.length < pathLimit) (hzero : 0 ∉ path) :
    s.locate followLast path = s.tree.walk followLast linkLimit
      (if isRooted path then [] else s.cwd) (stepsOf path) := by
  have hfits : ¬ (pathLimit ≤ path.length || path.contains 0) = true := by
    simpa using ⟨hshort, hzero⟩
  rw [locate, if_neg (by simpa using hne), if_neg hfits]

theorem locate_eq_ok_iff {followLast : Bool} {path : List UInt8} {l : Landing} :
    s.locate followLast path = .ok l ↔ path ≠ [] ∧ path.length < pathLimit ∧ 0 ∉ path ∧
      s.tree.walk followLast linkLimit (if isRooted path then [] else s.cwd) (stepsOf path) =
        .ok l := by
  by_cases hempty : path = []
  · simp [locate, hempty]
  by_cases hlimit : path.length < pathLimit ∧ 0 ∉ path
  · rw [locate_of_length_lt hempty hlimit.1 hlimit.2, and_iff_right hempty, ← and_assoc,
      and_iff_right hlimit]
  · have hover : pathLimit ≤ path.length ∨ 0 ∈ path := by
      rwa [not_and_or, not_lt, not_not] at hlimit
    rw [locate, if_neg (by simpa using hempty), if_pos (by simpa using hover)]
    constructor
    · rintro ⟨⟩
    · rintro ⟨-, hlength, hzero, -⟩
      exact absurd ⟨hlength, hzero⟩ hlimit

/-- A path inside a directory is the path of the directory, and the name behind a slash. -/
theorem exists_bytesOf_join (hname : IsStepName (bytesOf name)) (hdir : dir ≠ "") :
    ∃ path, bytesOf (Path.join dir name) = path ++ slash :: bytesOf name ∧
      (bytesOf dir = path ∨ bytesOf dir = path ++ [slash]) := by
  have habsolute : Path.isAbsolute name = false := by
    rw [← Bool.not_eq_true, Path.isAbsolute, beq_iff_eq]
    intro hhead
    obtain ⟨rest, hrest⟩ := List.head?_eq_some_iff.1 hhead
    refine hname.1 ?_
    rw [bytesOf, hrest]
    exact List.mem_cons_self
  have hempty : dir.isEmpty = false := by simpa using hdir
  rw [Path.join, habsolute, if_neg Bool.false_ne_true, hempty, Bool.false_or]
  split_ifs with hlast
  · obtain ⟨start, hstart⟩ := List.getLast?_eq_some_iff.1 (beq_iff_eq.1 hlast)
    have hbytes : bytesOf dir = Text.encode start ++ [slash] := by
      rw [bytesOf, hstart, Text.encode_append]
      rfl
    refine ⟨Text.encode start, ?_, .inr hbytes⟩
    rw [bytesOf_append, hbytes, List.append_assoc]
    rfl
  · refine ⟨bytesOf dir, ?_, .inl rfl⟩
    rw [bytesOf_append, bytesOf_append, List.append_assoc]
    rfl

theorem isRooted_append_slash {path : List UInt8} (hdir : dir ≠ "")
    (hpath : bytesOf dir = path ∨ bytesOf dir = path ++ [slash]) (bytes : List UInt8) :
    isRooted (path ++ slash :: bytes) = isRooted (bytesOf dir) := by
  cases path with
  | cons b path => rcases hpath with h | h <;> rw [h] <;> rfl
  | nil =>
    rcases hpath with h | h
    · exact absurd (bytesOf_injective (t := "") h) hdir
    · rw [h]
      rfl

/-- A name behind a path that leads to a directory is looked up in that directory. -/
theorem exists_locate_join (hplace : s.placeOf dir = .ok p) (hdir : s.tree.at? p = some .dir)
    (hname : IsStepName (bytesOf name))
    (hshort : (bytesOf (Path.join dir name)).length < pathLimit) :
    ∃ left, s.locate true (bytesOf (Path.join dir name)) =
      s.tree.walk true left p [.into (bytesOf name)] := by
  rw [placeOf_eq_ok_iff] at hplace
  obtain ⟨hne, -, hzero, hwalk⟩ := locate_eq_ok_iff.1 hplace
  have hdirne : dir ≠ "" := by
    rintro rfl
    exact hne rfl
  obtain ⟨path, hjoin, hpath⟩ := exists_bytesOf_join hname hdirne
  have hsteps : partSteps (bytesOf dir) = partSteps path := by
    rcases hpath with hpath | hpath
    · rw [hpath]
    · rw [hpath, partSteps_concat_slash]
  have hzero' : 0 ∉ path ++ slash :: bytesOf name := by
    have hpathzero : 0 ∉ path := fun hmem => hzero (by rcases hpath with h | h <;> simp [h, hmem])
    simp [hpathzero, hname.2.1, slash]
  obtain ⟨rest, hrest, heq⟩ := exists_stepsOf_eq (bytesOf dir)
  rw [heq, hsteps] at hwalk
  obtain ⟨left, hleft⟩ := Tree.exists_walk_append hrest hwalk hdir
  refine ⟨left, ?_⟩
  rw [hjoin] at hshort ⊢
  rw [locate_of_length_lt (by simp) hshort hzero', stepsOf_append_name path hname,
    isRooted_append_slash hdirne hpath, hleft]

/-- A name in a directory that a path leads to. -/
theorem placeOf_join (hplace : s.placeOf dir = .ok p) (hdir : s.tree.at? p = some .dir)
    (hname : IsEntryName (bytesOf name))
    (hshort : (bytesOf (Path.join dir name)).length < pathLimit)
    (h : s.tree.at? (p ++ [bytesOf name]) = some .dir) :
    s.placeOf (Path.join dir name) = .ok (p ++ [bytesOf name]) := by
  obtain ⟨left, hleft⟩ := exists_locate_join hplace hdir hname.isStepName hshort
  rw [placeOf_eq_ok_iff, hleft, Tree.walk_into_of_dir hname.1 h, Tree.walk]

end Site

end GameFixes
