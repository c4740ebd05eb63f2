import GameFixes.Layout
import GameFixes.Proofs.Text
import Mathlib.Data.Fintype.Basic

/-!
# What flags and variables decide

Four paths of a project can be given, each by a flag of its own and a variable of its own. What is
said about one of them changes that path and those that hang off it, and nothing else:

* `GivenPath.SaysSame`: two choices of flags and variables place a path alike, wherever it is seen
  from;
* `saysSame_of_flag`, `saysSame_of_blank`, `saysSame_of_padded`: changes of a variable that say
  nothing new;
* `layoutOf`, `resolve_eq`: a layout from what is said about the four paths;
* `GivenPath.renew`, `layoutOf_eq_renew`: if only what is said about one path differs, a layout
  differs in that path and what hangs off it;
* `resolve_frame`: all of this together.
-/

namespace GameFixes

namespace Layout

/-! ### Choices -/

/-- A path that a flag or a variable can give. -/
inductive GivenPath
  | projectRoot
  | dataDir
  | fixesDir
  | config
  deriving DecidableEq

instance : Fintype GivenPath :=
  ⟨{.projectRoot, .dataDir, .fixesDir, .config}, fun p => by cases p <;> decide⟩

/-- The flags and the variables that a layout is resolved with. -/
structure Choice where
  flags : Overrides
  env : Environment

namespace GivenPath

/-- The name of the variable that gives a path. -/
def variableName : GivenPath → String
  | projectRoot => "FIXTOOL_PROJECT_ROOT"
  | dataDir => "FIXTOOL_DATA_DIR"
  | fixesDir => "FIXTOOL_FIXES_DIR"
  | config => "FIXTOOL_CONFIG"

/-- The flag that gives a path, if it is set. -/
def flag? (p : GivenPath) (c : Choice) : Option String :=
  match p with
  | projectRoot => c.flags.projectRoot
  | dataDir => c.flags.dataDir
  | fixesDir => c.flags.fixesDir
  | config => c.flags.config

/-- The value of the variable that gives a path, if it is set. -/
def value? (p : GivenPath) (c : Choice) : Option String := c.env.get? p.variableName

/-- Something is said about a path: its flag is set, or its variable is not blank. -/
def IsGiven (p : GivenPath) (c : Choice) : Prop :=
  (p.flag? c).isSome ∨ ∃ value, p.value? c = some value ∧ ∃ x ∈ value.toList, Text.isBlank x = false

/-- Two choices differ at most in the flag and the variable of a path. -/
def DifferOnly (p : GivenPath) (c c' : Choice) : Prop :=
  ∀ q ≠ p, q.flag? c' = q.flag? c ∧ q.value? c' = q.value? c

/-- Two choices differ at most in the variable of a path. -/
def DifferOnlyInVariable (p : GivenPath) (c c' : Choice) : Prop :=
  (∀ q : GivenPath, q.flag? c' = q.flag? c) ∧ ∀ q ≠ p, q.value? c' = q.value? c

instance (p : GivenPath) (c c' : Choice) : Decidable (p.DifferOnly c c') :=
  inferInstanceAs (Decidable (∀ _, _))

instance (p : GivenPath) (c c' : Choice) : Decidable (p.DifferOnlyInVariable c c') :=
  inferInstanceAs (Decidable (_ ∧ _))

/-- What a choice says about a path that is seen from `base`. -/
def placed? (p : GivenPath) (c : Choice) (base : String) : Option Placed :=
  given? c.env p.variableName base (p.flag? c)

/-- Two choices place a path alike, wherever it is seen from. -/
def SaysSame (p : GivenPath) (c c' : Choice) : Prop := p.placed? c' = p.placed? c

variable {p q : GivenPath} {c c' : Choice}

/-- A path is placed by its flag and by its variable without the blanks around it. -/
theorem saysSame_of_eq (hflag : p.flag? c' = p.flag? c)
    (hvalue : c'.env.nonBlank? p.variableName = c.env.nonBlank? p.variableName) :
    p.SaysSame c c' := by
  funext base
  simp only [placed?, given?, hflag, hvalue]

/-- A path whose flag is set is placed by it. -/
theorem saysSame_of_flag (hflag : p.flag? c' = p.flag? c) (hset : (p.flag? c).isSome) :
    p.SaysSame c c' := by
  funext base
  obtain ⟨path, hpath⟩ := Option.isSome_iff_exists.1 hset
  simp only [placed?, given?, hflag, hpath]

theorem saysSame_of_value (hflag : p.flag? c' = p.flag? c) (hvalue : p.value? c' = p.value? c) :
    p.SaysSame c c' := by
  refine saysSame_of_eq hflag ?_
  unfold value? at hvalue
  rw [Environment.nonBlank?, Environment.nonBlank?, hvalue]

theorem DifferOnly.saysSame (h : p.DifferOnly c c') (hq : q ≠ p) : q.SaysSame c c' :=
  saysSame_of_value (h q hq).1 (h q hq).2

theorem DifferOnlyInVariable.saysSame (h : p.DifferOnlyInVariable c c') (hp : p.SaysSame c c')
    (q : GivenPath) : q.SaysSame c c' := by
  by_cases hq : q = p
  · rw [hq]
    exact hp
  · exact saysSame_of_value (h.1 q) (h.2 q hq)

/-- A blank variable is as good as none. -/
theorem saysSame_of_blank (hflag : p.flag? c' = p.flag? c) {value : String}
    (hblank : ∀ x ∈ value.toList, Text.isBlank x = true) (hvalue : p.value? c = some value)
    (hnone : p.value? c' = none) : p.SaysSame c c' := by
  refine saysSame_of_eq hflag ?_
  unfold value? at hvalue hnone
  rw [Environment.nonBlank?, Environment.nonBlank?, hvalue, hnone, Option.map_some,
    trimmed_eq_empty_iff.2 hblank]
  rfl

/-- Blanks around the value of a variable say nothing. -/
theorem saysSame_of_padded (hflag : p.flag? c' = p.flag? c) {before value after : String}
    (hbefore : ∀ x ∈ before.toList, Text.isBlank x = true)
    (hafter : ∀ x ∈ after.toList, Text.isBlank x = true)
    (hpadded : p.value? c = some (before ++ value ++ after)) (hvalue : p.value? c' = some value) :
    p.SaysSame c c' := by
  refine saysSame_of_eq hflag ?_
  unfold value? at hpadded hvalue
  have htrim : trimmed (before ++ value ++ after) = trimmed value := by
    rw [trimmed, String.toList_append, String.toList_append, Text.trim_append_blanks hafter,
      Text.trim_append_of_blank hbefore, ← trimmed]
  rw [Environment.nonBlank?, Environment.nonBlank?, hpadded, hvalue, Option.map_some,
    Option.map_some, htrim]

/-- A path about which something is said follows no rule. -/
theorem IsGiven.exists_placed? (h : p.IsGiven c) (base : String) :
    ∃ placed, p.placed? c base = some placed := by
  unfold placed?
  cases hflag : p.flag? c with
  | some path => exact ⟨_, rfl⟩
  | none =>
    rcases h with hset | ⟨value, hvalue, x, hx, hblank⟩
    · rw [hflag] at hset
      cases hset
    · have hne : trimmed value ≠ "" := by
        intro htrim
        rw [trimmed_eq_empty_iff.1 htrim x hx] at hblank
        cases hblank
      unfold value? at hvalue
      refine ⟨⟨Path.join base (trimmed value), .env⟩, ?_⟩
      simp [given?, Environment.nonBlank?, hvalue, hne]

end GivenPath

/-! ### Layouts of two choices -/

section

variable (isDir : String → Bool) (cwd : String)

/-- The layout for what is said about the four paths, as seen from where each is looked for. -/
def layoutOf (said : GivenPath → String → Option Placed) : Layout :=
  let root := (said .projectRoot cwd).getD ⟨findRoot isDir cwd, .heuristic⟩
  let state := Path.join root.path stateDirName
  let data := (said .dataDir root.path).getD ⟨Path.join state dataDirName, .default⟩
  { projectRoot := root
    stateDir := state
    dataDir := data
    fixesDir := (said .fixesDir root.path).getD ⟨Path.join data.path fixesDirName, .default⟩
    extraIds := Path.join data.path extraIdsName
    database := Path.join data.path databaseName
    config := (said .config root.path).getD ⟨Path.join state configName, .default⟩ }

/-- A layout depends on a choice by what that says about the four paths. -/
theorem resolve_eq (c : Choice) : resolve isDir c.env cwd c.flags =
    if cwd = "" then .error .noWorkingDirectory
    else .ok (layoutOf isDir cwd fun p => p.placed? c) := rfl

/-- A layout with a path, and what hangs off it, as in another layout. -/
def GivenPath.renew (p : GivenPath) (l l' : Layout) : Layout :=
  match p with
  | projectRoot => l'
  | dataDir =>
    { l with
      dataDir := l'.dataDir
      fixesDir := l'.fixesDir
      extraIds := l'.extraIds
      database := l'.database }
  | fixesDir => { l with fixesDir := l'.fixesDir }
  | config => { l with config := l'.config }

/-- What is said about one path concerns that path and what hangs off it. -/
theorem layoutOf_eq_renew {p : GivenPath} {said said' : GivenPath → String → Option Placed}
    (h : ∀ q ≠ p, said' q = said q) :
    layoutOf isDir cwd said' =
      p.renew (layoutOf isDir cwd said) (layoutOf isDir cwd said') := by
  cases p with
  | projectRoot => rfl
  | dataDir =>
    simp only [GivenPath.renew, layoutOf, h .projectRoot (by decide), h .config (by decide)]
  | fixesDir =>
    simp only [GivenPath.renew, layoutOf, h .projectRoot (by decide), h .dataDir (by decide),
      h .config (by decide)]
  | config =>
    simp only [GivenPath.renew, layoutOf, h .projectRoot (by decide), h .dataDir (by decide),
      h .fixesDir (by decide)]

variable {isDir cwd} {c c' : Choice}

/-- A checkout that is given somewhere does not hang off the data directory. -/
theorem fixesDir_layoutOf (h : ∀ p : GivenPath, p ≠ .dataDir → p.SaysSame c c')
    (hgiven : GivenPath.fixesDir.IsGiven c) :
    (layoutOf isDir cwd fun p => p.placed? c').fixesDir =
      (layoutOf isDir cwd fun p => p.placed? c).fixesDir := by
  have hroot : GivenPath.projectRoot.placed? c' = _ := h .projectRoot (by decide)
  have hfixes : GivenPath.fixesDir.placed? c' = _ := h .fixesDir (by decide)
  choose placed hplaced using hgiven.exists_placed?
  simp only [layoutOf, hroot, hfixes, hplaced, Option.getD_some]

/-- What becomes of the layouts becomes of what is resolved. -/
theorem resolve_eq_map {f : Layout → Layout}
    (h : (layoutOf isDir cwd fun p => p.placed? c') = f (layoutOf isDir cwd fun p => p.placed? c)) :
    resolve isDir c'.env cwd c'.flags = (resolve isDir c.env cwd c.flags).map f := by
  rw [resolve_eq, resolve_eq, h]
  split_ifs
  · rfl
  · rfl

/-- Choices that say the same about all paths lead to the same layout. -/
theorem resolve_of_saysSame (h : ∀ p : GivenPath, p.SaysSame c c') :
    resolve isDir c'.env cwd c'.flags = resolve isDir c.env cwd c.flags := by
  have hsaid : (fun p : GivenPath => p.placed? c') = fun p => p.placed? c := funext h
  rw [resolve_eq, resolve_eq, hsaid]

end

/-- **What is said about a path changes that path and what hangs off it.** Two choices of flags and
variables that differ only in what they say about the data directory lead to the same root, state
directory and settings file, and to the same checkout if anything is said about that; two that
differ only in what they say about the checkout or about the settings file lead to the same layout
otherwise. A variable does not matter if the flag for its path is set; if it is blank, it is as good
as none; and blanks around its value do not matter. -/
theorem resolve_frame (isDir : String → Bool) (cwd : String) :
    (∀ c c' : Choice, GivenPath.dataDir.DifferOnly c c' →
      (∃ data fixes extraIds database,
        resolve isDir c'.env cwd c'.flags = (resolve isDir c.env cwd c.flags).map fun l =>
          { l with dataDir := data, fixesDir := fixes, extraIds, database }) ∧
      (GivenPath.fixesDir.IsGiven c → ∃ data extraIds database,
        resolve isDir c'.env cwd c'.flags = (resolve isDir c.env cwd c.flags).map fun l =>
          { l with dataDir := data, extraIds, database })) ∧
    (∀ c c' : Choice, GivenPath.fixesDir.DifferOnly c c' →
      ∃ fixes, resolve isDir c'.env cwd c'.flags =
        (resolve isDir c.env cwd c.flags).map fun l => { l with fixesDir := fixes }) ∧
    (∀ c c' : Choice, GivenPath.config.DifferOnly c c' →
      ∃ config, resolve isDir c'.env cwd c'.flags =
        (resolve isDir c.env cwd c.flags).map fun l => { l with config := config }) ∧
    ∀ (p : GivenPath) (c c' : Choice), p.DifferOnlyInVariable c c' →
      ((p.flag? c).isSome →
        resolve isDir c'.env cwd c'.flags = resolve isDir c.env cwd c.flags) ∧
      (∀ value : String, (∀ x ∈ value.toList, Text.isBlank x = true) →
        p.value? c = some value → p.value? c' = none →
        resolve isDir c'.env cwd c'.flags = resolve isDir c.env cwd c.flags) ∧
      ∀ before value after : String, (∀ x ∈ before.toList, Text.isBlank x = true) →
        (∀ x ∈ after.toList, Text.isBlank x = true) →
        p.value? c = some (before ++ value ++ after) → p.value? c' = some value →
        resolve isDir c'.env cwd c'.flags = resolve isDir c.env cwd c.flags := by
  have hrenew {p : GivenPath} {c c' : Choice} (h : p.DifferOnly c c') :=
    layoutOf_eq_renew isDir cwd fun q hq => h.saysSame hq
  refine ⟨fun c c' h => ⟨?_, fun hgiven => ?_⟩, fun c c' h => ?_, fun c c' h => ?_,
    fun p c c' h => ⟨fun hset => ?_, fun value hblank hvalue hnone => ?_,
      fun before value after hbefore hafter hpadded hvalue => ?_⟩⟩
  · exact ⟨_, _, _, _, resolve_eq_map (hrenew h)⟩
  · have hlayout := hrenew h
    rw [GivenPath.renew, fixesDir_layoutOf (fun q hq => h.saysSame hq) hgiven] at hlayout
    exact ⟨_, _, _, resolve_eq_map hlayout⟩
  · exact ⟨_, resolve_eq_map (hrenew h)⟩
  · exact ⟨_, resolve_eq_map (hrenew h)⟩
  · exact resolve_of_saysSame (h.saysSame (GivenPath.saysSame_of_flag (h.1 p) hset))
  · exact resolve_of_saysSame
      (h.saysSame (GivenPath.saysSame_of_blank (h.1 p) hblank hvalue hnone))
  · exact resolve_of_saysSame
      (h.saysSame (GivenPath.saysSame_of_padded (h.1 p) hbefore hafter hpadded hvalue))

/-- Seen from inside a project, a flag for the data directory leaves a checkout alone that a
variable gives, and what is said about the checkout or the settings file concerns only that. -/
theorem resolve_frame_insideProject :
    let resolve := fun env flags => resolve (· == "/w/.fixtool") env "/w/sub" flags
    let set := fun (name value : String) => TextMap.insert (∅ : Environment) name value
    (∃ data extraIds database,
      resolve (set "FIXTOOL_FIXES_DIR" " f\n") { dataDir := some "d" } =
        (resolve (set "FIXTOOL_FIXES_DIR" " f\n") {}).map fun l =>
          { l with dataDir := data, extraIds, database }) ∧
    (∃ fixes, resolve ∅ { fixesDir := some "/f" } =
      (resolve ∅ {}).map fun l => { l with fixesDir := fixes }) ∧
    (∃ config, resolve (set "FIXTOOL_CONFIG" "c.toml") {} =
      (resolve ∅ {}).map fun l => { l with config := config }) ∧
    resolve (set "FIXTOOL_PROJECT_ROOT" "x") { projectRoot := some "/r" } =
      resolve ∅ { projectRoot := some "/r" } ∧
    resolve ∅ {} = resolve (set "FIXTOOL_CONFIG" " \t") {} ∧
    resolve (set "FIXTOOL_DATA_DIR" "d") {} =
      resolve (set "FIXTOOL_DATA_DIR" ("\n" ++ "d" ++ " ")) {} := by
  intro resolve set
  obtain ⟨hdata, hfixes, hconfig, hvariable⟩ := resolve_frame (· == "/w/.fixtool") "/w/sub"
  refine ⟨?_, ?_, ?_, ?_, ?_, ?_⟩
  · exact (hdata ⟨{}, set "FIXTOOL_FIXES_DIR" " f\n"⟩ ⟨{ dataDir := some "d" }, _⟩ (by decide)).2
      (.inr ⟨" f\n", rfl, 'f', by decide, by decide⟩)
  · exact hfixes ⟨{}, ∅⟩ ⟨{ fixesDir := some "/f" }, ∅⟩ (by decide)
  · exact hconfig ⟨{}, ∅⟩ ⟨{}, set "FIXTOOL_CONFIG" "c.toml"⟩ (by decide)
  · exact (hvariable .projectRoot ⟨{ projectRoot := some "/r" }, ∅⟩
      ⟨_, set "FIXTOOL_PROJECT_ROOT" "x"⟩ (by decide)).1 rfl
  · exact (hvariable .config ⟨{}, set "FIXTOOL_CONFIG" " \t"⟩ ⟨{}, ∅⟩ (by decide)).2.1
      " \t" (List.all_eq_true.1 rfl) rfl rfl
  · exact (hvariable .dataDir ⟨{}, set "FIXTOOL_DATA_DIR" ("\n" ++ "d" ++ " ")⟩
      ⟨{}, set "FIXTOOL_DATA_DIR" "d"⟩ (by decide)).2.2 "\n" "d" " "
      (List.forall_mem_singleton.2 rfl) (List.forall_mem_singleton.2 rfl) rfl rfl

end Layout

end GameFixes
