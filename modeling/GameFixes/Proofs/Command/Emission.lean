import GameFixes.Command.Run
import GameFixes.Proofs.Checkout
import GameFixes.Proofs.Command.Routine
import GameFixes.Proofs.Installer.Conversion
import GameFixes.Proofs.Tree.Writing

/-!
# What a conversion emits

A conversion reads the fixes of a group, and emits their documents as text or as files:

* `emitted?`: the session after documents are emitted in it;
* `Loads`: the group is there and its fixes can be read;
* `runOn_convert`: a conversion emits what its fixes are converted to, and then stops if that ended
  with an error.
-/

namespace GameFixes.Command

open Checkout (FixScript)
open Installer (Format Rendering)
open Routine

variable {l : Layout} {s s' s₁ : Session} {group : String} {scripts : List FixScript}
  {format : Format} {outDir : Option String}

/-! ### Emitting -/

/-- The file of a document in a directory: its path and what it holds. -/
def outputFile (format : Format) (dir : String) (r : Rendering) : String × List UInt8 :=
  (Path.join dir (r.fileName format), bytesOf r.text)

/-- The session after documents are emitted in it, one after another, if they can be. -/
def emitted? (format : Format) (outDir : Option String) (rs : List Rendering) (s : Session) :
    Option Session :=
  match outDir with
  | some dir =>
    (s.site.writeAll? (rs.map (outputFile format dir))).map fun site => { s with site := site }
  | none => some { s with lines := s.lines ++ rs.flatMap fun r => [r.id, trimmedEnd r.text] }

@[simp] theorem emitted?_nil (format : Format) (outDir : Option String) (s : Session) :
    emitted? format outDir [] s = some s := by
  cases outDir <;> simp [emitted?]

theorem emitted?_cons (format : Format) (outDir : Option String) (r : Rendering)
    (rs : List Rendering) (s : Session) :
    emitted? format outDir (r :: rs) s =
      (emitted? format outDir [r] s).bind (emitted? format outDir rs) := by
  cases outDir with
  | none => simp [emitted?]
  | some dir =>
    simp only [emitted?, List.map_cons, List.map_nil, Site.writeAll?_cons]
    cases s.site.write? _ _ <;> rfl

/-- Whether a document can be emitted does not depend on what it says. -/
theorem isSome_emitted?_singleton (format : Format) (dir : String) (r : Rendering) (s : Session) :
    (emitted? format (some dir) [r] s).isSome =
      (s.site.target? (Path.join dir (r.fileName format))).isSome := by
  simp only [emitted?, outputFile, List.map_cons, List.map_nil, Site.writeAll?_cons,
    Site.write?_eq]
  cases s.site.target? _ <;> rfl

/-- Documents can be emitted one after another if each of them can be. -/
theorem exists_emitted?_eq_some {rs : List Rendering}
    (h : ∀ r ∈ rs, (emitted? format outDir [r] s).isSome = true) :
    ∃ s', emitted? format outDir rs s = some s' := by
  cases outDir with
  | none => exact ⟨_, rfl⟩
  | some dir =>
    have hfiles : ∀ f ∈ rs.map (outputFile format dir), (s.site.write? f.1 f.2).isSome = true := by
      intro f hf
      obtain ⟨r, hr, rfl⟩ := List.mem_map.1 hf
      have hone := h r hr
      rwa [isSome_emitted?_singleton, ← Option.isSome_map, ← Site.write?_eq] at hone
    obtain ⟨site, hsite⟩ := Site.exists_writeAll?_eq_some hfiles
    exact ⟨_, by rw [emitted?, hsite]; rfl⟩

theorem runOn_emit_eq_ok_iff {r : Rendering} :
    runOn (emit format outDir r) s = (.ok (), s') ↔ emitted? format outDir [r] s = some s' := by
  cases outDir with
  | none =>
    simp [emit, emitted?]
  | some dir =>
    rw [emit, runOn_act_write]
    simp only [emitted?, List.map_cons, List.map_nil, Site.writeAll?_cons, outputFile]
    cases s.site.write? _ _ with
    | none => simp
    | some site => simp

/-- Documents are emitted one after another. -/
theorem runOn_forM_emit_eq_ok_iff {rs : List Rendering} :
    runOn (rs.forM (emit format outDir)) s = (.ok (), s') ↔
      emitted? format outDir rs s = some s' := by
  induction rs generalizing s with
  | nil => simp
  | cons r rs ih =>
    show runOn (emit format outDir r >>= fun _ => rs.forM (emit format outDir)) s = _ ↔ _
    rw [runOn_bind_eq_ok_iff, emitted?_cons, Option.bind_eq_some_iff]
    constructor
    · rintro ⟨⟨⟩, t, hr, hrs⟩
      exact ⟨t, runOn_emit_eq_ok_iff.1 hr, ih.1 hrs⟩
    · rintro ⟨t, hr, hrs⟩
      exact ⟨(), t, runOn_emit_eq_ok_iff.2 hr, ih.2 hrs⟩

/-! ### Loading -/

/-- A layout has a group with fixes that can be read. -/
structure Loads (l : Layout) (s : Session) (group : String) (scripts : List FixScript) : Prop where
  fixesDir : s.site.isDir l.fixesDir.path = true
  groupDir : s.site.isDir (Path.join l.fixesDir.path group) = true
  scripts : ∃ settings, Settings.load s.site l.config.path = .ok settings ∧
    Checkout.scripts s.site l.fixesDir.path group settings.idPrefix = .ok scripts

/-- The session in which documents are emitted: a directory for them is there. -/
def withOutDir? (outDir : Option String) (s : Session) : Option Session :=
  match outDir with
  | some dir =>
    match s.site.createDirs dir with
    | (site, true) => some { s with site := site }
    | (_, false) => none
  | none => some s

/-- The fixes of a group that are asked for, all of them or those with an identifier. -/
def selected (id : Option String) (scripts : List FixScript) : List FixScript :=
  match id with
  | some id => scripts.filter (·.id = id)
  | none => scripts

theorem runOn_needCheckout (h : s.site.isDir l.fixesDir.path = true) :
    runOn (needCheckout l) s = (.ok (), s) := by
  rw [needCheckout, runOn_bind_of_ok (runOn_get s), h]
  rfl

/-- The fixes that are asked for are loaded if there are any. -/
theorem runOn_loadGroup {settings : Settings} {id : Option String}
    (hfixes : s.site.isDir l.fixesDir.path = true)
    (hgroup : s.site.isDir (Path.join l.fixesDir.path group) = true)
    (hscripts : Checkout.scripts s.site l.fixesDir.path group settings.idPrefix = .ok scripts)
    (hid : id = none ∨ selected id scripts ≠ []) :
    runOn (loadGroup l settings group id) s = (.ok (selected id scripts), s) := by
  have hask : runOn (ask (Checkout.scripts · l.fixesDir.path group settings.idPrefix)) s =
      (.ok scripts, s) := by
    rw [runOn_ask, hscripts]
  rw [loadGroup, runOn_bind_of_ok (runOn_needCheckout hfixes), runOn_bind_of_ok (runOn_get s),
    hgroup]
  show runOn (ask (Checkout.scripts · l.fixesDir.path group settings.idPrefix) >>= _) s = _
  rw [runOn_bind_of_ok hask]
  cases id with
  | none => rfl
  | some id =>
    unfold selected at hid ⊢
    dsimp only at hid ⊢
    split
    · next h => simp [h] at hid
    · next h => rfl

/-- Emits the documents of a conversion, and stops if that ended with an error. -/
def emitAll (format : Format) (outDir : Option String)
    (converted : List Rendering × Option Installer.CompileError) : Routine Unit := do
  converted.1.forM (emit format outDir)
  match converted.2 with
  | some e => fail (.compile e)
  | none => pure ()

/-- A directory is created if and only if documents can be emitted in the session after it. -/
theorem runOn_act_createDirs_eq_ok_iff {dir : String} {failure : Failure} :
    runOn (act (Action.createDirs dir failure)) s = (.ok (), s₁) ↔
      withOutDir? (some dir) s = some s₁ := by
  rw [runOn_act_createDirs, withOutDir?]
  rcases s.site.createDirs dir with ⟨site, _ | _⟩ <;> simp

theorem runOn_convert (hload : Loads l s group scripts) (hdir : withOutDir? outDir s = some s₁)
    {id : Option String} (hid : id = none ∨ selected id scripts ≠ []) (keepGoing : Bool) :
    runOn (runRequest l (.convert group id format outDir keepGoing)) s =
      runOn (emitAll format outDir
        (Installer.convert format keepGoing (selected id scripts))) s₁ := by
  obtain ⟨settings, hsettings, hscripts⟩ := hload.scripts
  have hask : runOn (settingsOf l) s = (.ok settings, s) := by
    rw [settingsOf, runOn_ask, hsettings]
  rw [runRequest, runConvert, runOn_bind_of_ok hask,
    runOn_bind_of_ok (runOn_loadGroup hload.fixesDir hload.groupDir hscripts hid)]
  cases outDir with
  | none =>
    obtain rfl := Option.some.inj hdir
    rfl
  | some dir =>
    exact runOn_bind_of_ok (runOn_act_createDirs_eq_ok_iff.2 hdir)

theorem runOn_emitAll_of_none {rs : List Rendering} (h : emitted? format outDir rs s = some s') :
    runOn (emitAll format outDir (rs, none)) s = (.ok (), s') := by
  rw [emitAll, runOn_bind_of_ok (runOn_forM_emit_eq_ok_iff.2 h)]
  rfl

theorem runOn_emitAll_of_some {rs : List Rendering} (h : emitted? format outDir rs s = some s')
    (e : Installer.CompileError) :
    runOn (emitAll format outDir (rs, some e)) s = (.error (.failed (.compile e)), s') := by
  rw [emitAll, runOn_bind_of_ok (runOn_forM_emit_eq_ok_iff.2 h)]
  rfl

/-- The fixes of a group stand in strict order if no two of them have one identifier. -/
theorem Loads.pairwise_lt (h : Loads l s group scripts) (hids : (scripts.map (·.id)).Nodup) :
    scripts.Pairwise fun f g => f.id < g.id := by
  obtain ⟨settings, -, hscripts⟩ := h.scripts
  exact ((Checkout.scripts_pairwise hscripts).and (List.pairwise_map.1 hids)).imp
    fun h => lt_of_le_of_ne h.1 h.2

end GameFixes.Command
