import GameFixes.Proofs.Command.Convert
import GameFixes.Proofs.Text

/-!
# The files of a conversion

A conversion into a directory writes the document of each fix file to the file that goes by its
identifier. What such a file holds in the end is the last document that was written where its path
leads:

* `HasDocument`, `outputPath`: the document of a fix file and the path that it is written to;
* `KeepsDocuments`: every document is in the end where it was written;
* `keepsDocuments_iff`: this is so unless two documents that differ are written to one place.
-/

namespace GameFixes.Command

open Checkout (FixFile FixScript)
open Installer (Document Format Rendering compile documentOf? documents)
open Routine

variable {l : Layout} {s s' s₁ : Session} {group dir : String} {scripts : List FixScript}
  {files : List FixFile} {file : FixFile} {format : Format} {outDir : Option String}
  {keepGoing : Bool}

/-! ### Conversions that reach their end -/

/-- A group of which all fixes are loaded is there, and they can be read. -/
theorem of_runOn_loadGroup {settings : Settings} {t : Session}
    (h : runOn (loadGroup l settings group none) s = (.ok scripts, t)) :
    s.site.isDir l.fixesDir.path = true ∧
      s.site.isDir (Path.join l.fixesDir.path group) = true ∧
      Checkout.scripts s.site l.fixesDir.path group settings.idPrefix = .ok scripts ∧ s = t := by
  have hfixes : s.site.isDir l.fixesDir.path = true := by
    by_contra hnot
    have hstop : runOn (needCheckout l) s =
        (.error (.failed (.checkoutNotFound l.fixesDir.path)), s) := by
      rw [needCheckout, runOn_bind_of_ok (runOn_get s), Bool.eq_false_of_not_eq_true hnot]
      rfl
    rw [loadGroup, runOn_bind_of_error hstop] at h
    cases h
  rw [loadGroup, runOn_bind_of_ok (runOn_needCheckout hfixes),
    runOn_bind_of_ok (runOn_get s)] at h
  cases hgroup : s.site.isDir (Path.join l.fixesDir.path group) with
  | false =>
    rw [hgroup] at h
    cases h
  | true =>
    rw [hgroup] at h
    change runOn (ask (Checkout.scripts · l.fixesDir.path group settings.idPrefix) >>= pure) s = _
      at h
    rw [runOn_bind_eq_ok_iff] at h
    obtain ⟨fixes, t', hask, hpure⟩ := h
    obtain ⟨hscripts, rfl⟩ := runOn_ask_eq_ok_iff.1 hask
    cases hpure
    exact ⟨hfixes, rfl, hscripts, rfl⟩

/-- A conversion of a whole group that reaches its end has loaded the group. -/
theorem loads_of_runOn_convert
    (h : runOn (runRequest l (.convert group none format outDir keepGoing)) s = (.ok (), s')) :
    ∃ scripts s₁, Loads l s group scripts ∧ withOutDir? outDir s = some s₁ := by
  rw [runRequest, runConvert, runOn_bind_eq_ok_iff] at h
  obtain ⟨settings, t, hask, h⟩ := h
  obtain ⟨hsettings, rfl⟩ := runOn_ask_eq_ok_iff.1 hask
  rw [runOn_bind_eq_ok_iff] at h
  obtain ⟨scripts, t', hload, h⟩ := h
  obtain ⟨hfixes, hgroup, hscripts, rfl⟩ := of_runOn_loadGroup hload
  have hloads : Loads l s group scripts := ⟨hfixes, hgroup, settings, hsettings, hscripts⟩
  cases outDir with
  | none => exact ⟨scripts, s, hloads, rfl⟩
  | some dir =>
    change runOn (act (Action.createDirs dir (.createDir dir)) >>= _) s = _ at h
    rw [runOn_bind_eq_ok_iff] at h
    obtain ⟨_, s₁, hcreate, -⟩ := h
    exact ⟨scripts, s₁, hloads, runOn_act_createDirs_eq_ok_iff.1 hcreate⟩

/-- A conversion that reaches its end has emitted the documents of all fixes. -/
theorem emitted?_of_runOn_convert (hload : Loads l s group scripts)
    (hdir : withOutDir? outDir s = some s₁)
    (h : runOn (runRequest l (.convert group none format outDir keepGoing)) s = (.ok (), s')) :
    emitted? format outDir (documents format scripts) s₁ = some s' := by
  rw [runOn_convert hload hdir (.inl rfl), selected, emitAll, runOn_bind_eq_ok_iff] at h
  obtain ⟨_, t, hemit, h⟩ := h
  rw [runOn_forM_emit_eq_ok_iff] at hemit
  cases herror : (Installer.convert format keepGoing scripts).2 with
  | some e =>
    rw [herror] at h
    cases h
  | none =>
    rw [herror] at h
    cases h
    rwa [Installer.convert_of_error_eq_none herror] at hemit

/-! ### Documents and their files -/

/-- The fix of a fix file compiles to a document that is not empty. -/
def HasDocument (s : Session) (group : String) (file : FixFile) (d : Document) : Prop :=
  ∃ f, Checkout.readScript s.site group file = .ok f ∧ compile f.id f.operations = .ok d ∧
    d.isEmpty = false

/-- The path that the document of a fix file is written to. -/
def outputPath (dir : String) (format : Format) (file : FixFile) : String :=
  Path.join dir (file.id ++ "." ++ format.extension)

/-- Each document of some fix files is what the file that it is written to holds. -/
def KeepsDocuments (s s' : Session) (group : String) (format : Format) (dir : String)
    (files : List FixFile) : Prop :=
  ∀ file ∈ files, ∀ d, HasDocument s group file d →
    s'.site.read? (outputPath dir format file) = some (bytesOf (format.render d))

theorem HasDocument.unique {d d' : Document} (h : HasDocument s group file d)
    (h' : HasDocument s group file d') : d = d' := by
  obtain ⟨f, hf, hd, -⟩ := h
  obtain ⟨f', hf', hd', -⟩ := h'
  obtain rfl := Except.ok.inj (hf.symm.trans hf')
  exact Except.ok.inj (hd.symm.trans hd')

/-- What is written for a fix file, and where to. -/
def outputOf? (s : Session) (group : String) (format : Format) (dir : String) (file : FixFile) :
    Option (String × List UInt8) :=
  (Checkout.readScript s.site group file).toOption.bind fun f =>
    (documentOf? format f).map (outputFile format dir)

theorem outputOf?_eq_some_iff {output : String × List UInt8} :
    outputOf? s group format dir file = some output ↔ ∃ d, HasDocument s group file d ∧
      (outputPath dir format file, bytesOf (format.render d)) = output := by
  unfold outputOf? HasDocument
  cases h : Checkout.readScript s.site group file with
  | error e => simp [Except.toOption]
  | ok f =>
    obtain ⟨text, -, rfl⟩ := Checkout.readScript_eq_ok_iff.1 h
    simp only [Except.toOption, Option.bind_some, Option.map_eq_some_iff,
      Installer.documentOf?_eq_some_iff, Except.ok.injEq, exists_eq_left']
    constructor
    · rintro ⟨_, ⟨d, hd, hne, rfl⟩, rfl⟩
      exact ⟨d, ⟨hd, hne⟩, rfl⟩
    · rintro ⟨d, ⟨hd, hne⟩, rfl⟩
      exact ⟨_, ⟨d, hd, hne, rfl⟩, rfl⟩

/-- The documents of fixes are written for their fix files. -/
theorem map_outputFile_documents
    (h : List.Forall₂ (fun file f => Checkout.readScript s.site group file = .ok f) files scripts) :
    (documents format scripts).map (outputFile format dir) =
      files.filterMap (outputOf? s group format dir) := by
  induction h with
  | nil => rfl
  | @cons file f files scripts hf _ ih =>
    have hout : outputOf? s group format dir file =
        (documentOf? format f).map (outputFile format dir) := by
      rw [outputOf?, hf]
      rfl
    rw [Installer.documents_cons, List.map_append, ih, List.filterMap_cons, hout]
    cases documentOf? format f <;> rfl

/-! ### Two documents -/

/-- A script with another operation. -/
def fsyncSource : String := "def main():\n    util.disable_fsync()\n"

theorem compile_fsyncSource (title : String) : compile title (Script.operations fsyncSource) =
    .ok { wine := some { fsync := some false } } := by
  have hoperations : Script.operations fsyncSource = [.bare "disable_fsync"] := by decide +kernel
  rw [hoperations]
  rfl

/-- Two fixes with different documents, by their stems. -/
def switchingFixes (stem stem' : String) : List (String × String) :=
  [(stem, esyncSource), (stem', fsyncSource)]

theorem documents_switchingFixes (format : Format) (stem stem' : String) :
    documents format ((switchingFixes stem stem').map smallFix) =
      [⟨plainId defaultIdPrefix stem, format.render { wine := some { esync := some false } }⟩,
        ⟨plainId defaultIdPrefix stem',
          format.render { wine := some { fsync := some false } }⟩] := by
  simp only [switchingFixes, List.map_cons, List.map_nil, Installer.documents_cons,
    documentOf?, smallFix, compile_esyncSource, compile_fsyncSource]
  rfl

/-- The name of the file that the document of a fix is written to. -/
def outputName (f : String × String) : FileName :=
  bytesOf (plainId defaultIdPrefix f.1 ++ "." ++ Format.extension .json)

section

variable {stem stem' : String} (h : IsSmallGroup (switchingFixes stem stem'))

include h

theorem hasDocument_esync : HasDocument (smallSession (switchingFixes stem stem')) "g"
    (smallFixFile (stem, esyncSource)) { wine := some { esync := some false } } :=
  ⟨_, readScript_small h (by simp [switchingFixes]), compile_esyncSource _, rfl⟩

theorem hasDocument_fsync : HasDocument (smallSession (switchingFixes stem stem')) "g"
    (smallFixFile (stem', fsyncSource)) { wine := some { fsync := some false } } :=
  ⟨_, readScript_small h (by simp [switchingFixes]), compile_fsyncSource _, rfl⟩

theorem exists_hasDocument_switchingFixes :
    ∀ file ∈ (switchingFixes stem stem').map smallFixFile,
      ∃ d, HasDocument (smallSession (switchingFixes stem stem')) "g" file d := by
  rw [switchingFixes, List.map_cons, List.map_singleton, List.forall_mem_cons,
    List.forall_mem_singleton]
  exact ⟨⟨_, hasDocument_esync h⟩, ⟨_, hasDocument_fsync h⟩⟩

/-- Both documents are written if their names are short. -/
theorem exists_runOn_switchingFixes
    (hspells : ∀ f ∈ switchingFixes stem stem',
      Spells (outputPath "/o" .json (smallFixFile f)) [bytesOf "o", outputName f]) :
    ∃ s', runOn (runRequest smallLayout (.convert "g" none .json (some "/o") false))
      (smallSession (switchingFixes stem stem')) = (.ok (), s') := by
  have hcompiles : ∀ f ∈ (switchingFixes stem stem').map smallFix, Installer.Compiles f := by
    rw [switchingFixes, List.map_cons, List.map_singleton, List.forall_mem_cons,
      List.forall_mem_singleton]
    exact ⟨⟨_, compile_esyncSource _⟩, ⟨_, compile_fsyncSource _⟩⟩
  have hwrite : ∀ r ∈ documents .json ((switchingFixes stem stem').map smallFix),
      (emitted? .json (some "/o") [r] (smallSession (switchingFixes stem stem'))).isSome := by
    rw [switchingFixes, List.forall_mem_cons, List.forall_mem_singleton] at hspells
    unfold outputPath outputName smallFixFile at hspells
    refine exists_emitted?_small ?_
    rw [documents_switchingFixes, List.forall_mem_cons, List.forall_mem_singleton]
    exact hspells
  obtain ⟨s', hs'⟩ := exists_emitted?_eq_some hwrite
  exact ⟨s', runOn_convert_of_compiles (loads_small h) (withOutDir?_small _) (.inl rfl) hcompiles
    hs' false⟩

end

/-! ### What the files hold -/

section Outputs

variable {settings : Settings}
  (hsettings : Settings.load s.site l.config.path = .ok settings)
  (hfiles : Checkout.fixFiles s.site (Path.join l.fixesDir.path group) settings.idPrefix =
    .ok files)
  (hrun : runOn (runRequest l (.convert group none format (some dir) keepGoing)) s = (.ok (), s'))

include hsettings hfiles hrun

/-- The documents are written one after another once the directory is there. -/
theorem exists_writeAll?_of_runOn_convert : ∃ s₁, withOutDir? (some dir) s = some s₁ ∧
    s₁.site.writeAll? (files.filterMap (outputOf? s group format dir)) = some s'.site := by
  obtain ⟨scripts, s₁, hload, hdir⟩ := loads_of_runOn_convert hrun
  have hemit := emitted?_of_runOn_convert hload hdir hrun
  obtain ⟨settings', hsettings', hscripts⟩ := hload.scripts
  obtain rfl := Except.ok.inj (hsettings.symm.trans hsettings')
  obtain ⟨files', hfiles', hread⟩ := Checkout.scripts_eq_ok_iff.1 hscripts
  obtain rfl := Except.ok.inj (hfiles.symm.trans hfiles')
  obtain ⟨site, hsite, rfl⟩ := Option.map_eq_some_iff.1 hemit
  rw [map_outputFile_documents hread] at hsite
  exact ⟨s₁, hdir, hsite⟩

/-- The path of a document leads where the document would have been put alone. -/
theorem placeOf_outputPath {d : Document} {q : Place} (hfile : file ∈ files)
    (hd : HasDocument s group file d) (hdir : withOutDir? (some dir) s = some s₁)
    (hq : s₁.site.target? (outputPath dir format file) = some q) :
    s'.site.placeOf (outputPath dir format file) = .ok q := by
  obtain ⟨t, ht, hwrite⟩ := exists_writeAll?_of_runOn_convert hsettings hfiles hrun
  obtain rfl := Option.some.inj (hdir.symm.trans ht)
  have hmem : (outputPath dir format file, bytesOf (format.render d)) ∈
      files.filterMap (outputOf? s group format dir) :=
    List.mem_filterMap.2 ⟨file, hfile, outputOf?_eq_some_iff.2 ⟨d, hd, rfl⟩⟩
  exact Site.placeOf_writeAll?_target hwrite hmem hq

/-- What is read in the end where a document is written is the document of the last fix file that
writes there. -/
theorem exists_last_document {d : Document} (hfile : file ∈ files)
    (hd : HasDocument s group file d) : ∃ last d',
    IsLast (fun g => (∃ d, HasDocument s group g d) ∧
      s'.site.placeOf (outputPath dir format g) = s'.site.placeOf (outputPath dir format file))
      files last ∧
    HasDocument s group last d' ∧
    s'.site.read? (outputPath dir format file) = some (bytesOf (format.render d')) := by
  obtain ⟨_, -, hwrite⟩ := exists_writeAll?_of_runOn_convert hsettings hfiles hrun
  obtain ⟨q, g, hq, hwritten, hat⟩ := Site.keeps_of_writeAll? hwrite _
    (List.mem_filterMap.2 ⟨file, hfile, outputOf?_eq_some_iff.2 ⟨d, hd, rfl⟩⟩)
  obtain ⟨last, hlast, hg⟩ := exists_isLast_of_filterMap hwritten
  obtain ⟨d', hd', rfl⟩ := outputOf?_eq_some_iff.1 hg
  refine ⟨last, d', hlast.congr fun x _ => ?_, hd', Site.read?_of_placeOf hq hat⟩
  rw [hq]
  constructor
  · rintro ⟨b, hb, hplace⟩
    obtain ⟨e, he, rfl⟩ := outputOf?_eq_some_iff.1 hb
    exact ⟨⟨e, he⟩, hplace⟩
  · rintro ⟨⟨e, he⟩, hplace⟩
    exact ⟨_, outputOf?_eq_some_iff.2 ⟨e, he, rfl⟩, hplace⟩

/-- **A conversion into a directory keeps every document if and only if those that are written to
one place are the same.** What stands at such a place in the end is the document of the last fix
file that is written there, in the order of the identifiers. -/
theorem keepsDocuments_iff :
    (∀ file ∈ files, ∀ d, HasDocument s group file d → ∃ last d',
      IsLast (fun g => (∃ d, HasDocument s group g d) ∧
        s'.site.placeOf (outputPath dir format g) = s'.site.placeOf (outputPath dir format file))
        files last ∧
      HasDocument s group last d' ∧
      s'.site.read? (outputPath dir format file) = some (bytesOf (format.render d'))) ∧
    (KeepsDocuments s s' group format dir files ↔
      ∀ file ∈ files, ∀ file' ∈ files, ∀ d d', HasDocument s group file d →
        HasDocument s group file' d' →
        s'.site.placeOf (outputPath dir format file) =
          s'.site.placeOf (outputPath dir format file') →
        format.render d = format.render d') := by
  have hlast : ∀ file ∈ files, ∀ d, HasDocument s group file d → _ :=
    fun file hfile d => exists_last_document hsettings hfiles hrun hfile
  refine ⟨hlast, fun hkeeps file hfile file' hfile' d d' hd hd' hplace => ?_,
    fun h file hfile d hd => ?_⟩
  · have hread := hkeeps file hfile d hd
    rw [Site.read?_congr hplace, hkeeps file' hfile' d' hd'] at hread
    exact (bytesOf_injective (Option.some.inj hread)).symm
  · obtain ⟨last, d', hl, hd', hread⟩ := hlast file hfile d hd
    rw [hread, h last hl.mem file hfile d' d hd' hd hl.prop.2]

end Outputs

/-- Two fixes with a document each, whose identifiers differ, both keep it. -/
theorem keepsDocuments_iff_twoFixes :
    let found := switchingFixes "1" "2"
    let files := found.map smallFixFile
    ∃ s', runOn (runRequest smallLayout (.convert "g" none .json (some "/o") false))
        (smallSession found) = (.ok (), s') ∧
      (∀ file ∈ files, ∃ d, HasDocument (smallSession found) "g" file d) ∧
      KeepsDocuments (smallSession found) s' "g" .json "/o" files := by
  intro found files
  have hsmall : IsSmallGroup found := ⟨by decide, by decide, by decide, by decide⟩
  have hspells : ∀ f ∈ found,
      Spells (outputPath "/o" .json (smallFixFile f)) [bytesOf "o", outputName f] := by decide
  obtain ⟨s', hrun⟩ := exists_runOn_switchingFixes hsmall hspells
  refine ⟨s', hrun, exists_hasDocument_switchingFixes hsmall,
    (keepsDocuments_iff settings_small (fixFiles_small hsmall) hrun).2.2
      fun file hfile file' hfile' d d' hd hd' hplace => ?_⟩
  obtain ⟨f, hf, rfl⟩ := List.mem_map.1 hfile
  obtain ⟨f', hf', rfl⟩ := List.mem_map.1 hfile'
  have hat : ∀ f ∈ found, ∀ d, HasDocument (smallSession found) "g" (smallFixFile f) d →
      s'.site.placeOf (outputPath "/o" .json (smallFixFile f)) =
        .ok [bytesOf "o", outputName f] := fun f hf d hd =>
    placeOf_outputPath settings_small (fixFiles_small hsmall) hrun (List.mem_map_of_mem hf) hd
      (withOutDir?_small found) (target?_small (hspells f hf))
  -- the files that the documents are written to have different names
  have hsame : ∀ f ∈ found, ∀ f' ∈ found, outputName f = outputName f' → f = f' := by decide
  rw [hat f hf d hd, hat f' hf' d' hd', Except.ok.injEq, List.cons.injEq, List.cons.injEq] at hplace
  obtain rfl := hsame f hf f' hf' hplace.2.1
  rw [hd.unique hd']

/-! ### One identifier twice -/

/-- Two fixes for one game, one of which has the prefix in its name, are converted, and the document
of the first is lost. -/
theorem not_forall_keepsDocuments : ¬ ∀ (l : Layout) (s s' : Session) (group dir : String)
    (format : Format) (settings : Settings) (files : List FixFile),
    Settings.load s.site l.config.path = .ok settings →
    Checkout.fixFiles s.site (Path.join l.fixesDir.path group) settings.idPrefix = .ok files →
    runOn (runRequest l (.convert group none format (some dir) false)) s = (.ok (), s') →
    KeepsDocuments s s' group format dir files := by
  intro h
  have hsmall : IsSmallGroup (switchingFixes "570" "ulwgl-570") :=
    ⟨by decide, by decide, by decide, by decide⟩
  obtain ⟨s', hrun⟩ := exists_runOn_switchingFixes hsmall (by decide)
  have hkeeps := h _ _ _ _ _ _ _ _ settings_small (fixFiles_small hsmall) hrun
  have hesync := hkeeps _ (by simp [switchingFixes]) _ (hasDocument_esync hsmall)
  have hfsync := hkeeps _ (by simp [switchingFixes]) _ (hasDocument_fsync hsmall)
  have hpath : outputPath "/o" .json (smallFixFile ("570", esyncSource)) =
      outputPath "/o" .json (smallFixFile ("ulwgl-570", fsyncSource)) := by decide
  rw [hpath] at hesync
  have hsame := bytesOf_injective (Option.some.inj (hesync.symm.trans hfsync))
  exact absurd hsame (by decide +kernel)

end GameFixes.Command
