import GameFixes.Proofs.Collection
import GameFixes.Proofs.Command.SmallCheckout

/-!
# Converting a group

A conversion keeps going after a fix that does not compile or stops there, and it may be asked for
one fix only:

* `runOn_convert_keepGoing`, `runOn_convert_of_compiles`, `runOn_convert_of_first`: what is emitted
  in each way to convert;
* `convert_modes_agree`: what the ways to convert a group have to do with each other.
-/

namespace GameFixes.Command

open Checkout (FixScript)
open Installer (Format Compiles compile documents)
open Routine

variable {l : Layout} {s s' s₁ : Session} {group : String} {scripts : List FixScript}
  {format : Format} {outDir : Option String}

/-! ### A fix that does not compile -/

/-- A script with one operation. -/
def esyncSource : String := "def main():\n    util.disable_esync()\n"

theorem compile_esyncSource (title : String) : compile title (Script.operations esyncSource) =
    .ok { wine := some { esync := some false } } := by
  have hoperations : Script.operations esyncSource = [.bare "disable_esync"] := by decide +kernel
  rw [hoperations]
  rfl

/-- A script with an operation that nobody knows. -/
def unknownSource : String := "def main():\n    util.nope()\n"

theorem compile_unknownSource (title : String) :
    compile title (Script.operations unknownSource) = .error (.unhandled "nope" title) := by
  have hoperations : Script.operations unknownSource = [.bare "nope"] := by decide +kernel
  rw [hoperations]
  rfl

/-- Two fixes, the second of which does not compile. -/
def twoFixes : List (String × String) := [("1", esyncSource), ("2", unknownSource)]

theorem isSmallGroup_twoFixes : IsSmallGroup twoFixes where
  stem := by decide
  path := by decide
  nodup := by decide
  ascending := by decide

theorem documents_twoFixes (format : Format) : documents format (twoFixes.map smallFix) =
    [⟨"1", format.render { wine := some { esync := some false } }⟩] := by
  simp only [twoFixes, List.map_cons, List.map_nil, Installer.documents_cons,
    Installer.documentOf?, smallFix, compile_esyncSource, compile_unknownSource]
  rfl

theorem isSome_emitted?_twoFixes : ∀ r ∈ documents .json (twoFixes.map smallFix),
    (emitted? .json (some "/o") [r] (smallSession twoFixes)).isSome = true := by
  refine exists_emitted?_small ?_
  rw [documents_twoFixes, List.forall_mem_singleton]
  decide

/-! ### The ways to convert -/

section Ways

variable (hload : Loads l s group scripts) (hdir : withOutDir? outDir s = some s₁)

include hload hdir

/-- A conversion that keeps going emits the documents of all fixes. -/
theorem runOn_convert_keepGoing
    (h : emitted? format outDir (documents format scripts) s₁ = some s') :
    runOn (runRequest l (.convert group none format outDir true)) s = (.ok (), s') := by
  rw [runOn_convert hload hdir (.inl rfl), selected, Installer.convert_keepGoing]
  exact runOn_emitAll_of_none h

/-- A conversion of fixes that all compile emits their documents, whether or not it is to keep
going. -/
theorem runOn_convert_of_compiles {id : Option String} (hid : id = none ∨ selected id scripts ≠ [])
    (hall : ∀ f ∈ selected id scripts, Compiles f)
    (h : emitted? format outDir (documents format (selected id scripts)) s₁ = some s')
    (keepGoing : Bool) :
    runOn (runRequest l (.convert group id format outDir keepGoing)) s = (.ok (), s') := by
  rw [runOn_convert hload hdir hid, Installer.convert_of_compiles hall]
  exact runOn_emitAll_of_none h

/-- A conversion that does not keep going stops at the first fix that does not compile. -/
theorem runOn_convert_of_first {before after : List FixScript} {f : FixScript}
    {e : Installer.CompileError} (hsplit : scripts = before ++ f :: after)
    (hbefore : ∀ g ∈ before, Compiles g) (he : compile f.id f.operations = .error e)
    (h : emitted? format outDir (documents format before) s₁ = some s') :
    runOn (runRequest l (.convert group none format outDir false)) s =
      (.error (.failed (.compile e)), s') := by
  rw [runOn_convert hload hdir (.inl rfl), selected, hsplit,
    Installer.convert_of_first hbefore he]
  exact runOn_emitAll_of_some h e

end Ways

/-- If not all fixes compile there is a first one that does not. -/
theorem exists_first_not_compiles (h : ¬ ∀ f ∈ scripts, Compiles f) :
    ∃ before f after e, scripts = before ++ f :: after ∧ (∀ g ∈ before, Compiles g) ∧
      compile f.id f.operations = .error e := by
  obtain ⟨before, f, after, hsplit, hf, hbefore⟩ :=
    exists_first (p := fun f => ¬ Compiles f) (by simpa using h)
  simp only [not_not] at hbefore
  obtain ⟨e, he⟩ := Installer.not_compiles_iff.1 hf
  exact ⟨before, f, after, e, hsplit, hbefore, he⟩

/-- **The ways to convert a group agree.** Let the fixes of a group be readable, no two of them with
one identifier, and each of their documents such that it can be emitted. Then:

* the documents of all fixes, and those of any of them, are what is written for the fixes that
  compile to a document that is not empty, in the order of their identifiers;
* a conversion that keeps going reaches its end and emits the documents of all fixes;
* one that does not reaches its end if and only if all fixes compile, and then it emits the same;
* otherwise it stops with the error of the first fix that does not compile, after the documents of
  the fixes before it;
* if one fix is asked for and compiles, what is emitted are the documents that go by its
  identifier. -/
theorem convert_modes_agree (hload : Loads l s group scripts)
    (hids : (scripts.map (·.id)).Nodup) (hdir : withOutDir? outDir s = some s₁)
    (hwrite : ∀ r ∈ documents format scripts, (emitted? format outDir [r] s₁).isSome = true) :
    (∀ part, part.Sublist scripts →
      ((documents format part).Pairwise fun r r' => r.id < r'.id) ∧
      ∀ r, r ∈ documents format part ↔ ∃ f ∈ part, ∃ d, compile f.id f.operations = .ok d ∧
        d.isEmpty = false ∧ r = ⟨f.id, format.render d⟩) ∧
    ∃ s', emitted? format outDir (documents format scripts) s₁ = some s' ∧
      runOn (runRequest l (.convert group none format outDir true)) s = (.ok (), s') ∧
      ((∃ s'', runOn (runRequest l (.convert group none format outDir false)) s = (.ok (), s'')) ↔
        ∀ f ∈ scripts, Compiles f) ∧
      ((∀ f ∈ scripts, Compiles f) →
        runOn (runRequest l (.convert group none format outDir false)) s = (.ok (), s')) ∧
      ((¬ ∀ f ∈ scripts, Compiles f) → ∃ before f after e s'', scripts = before ++ f :: after ∧
        (∀ g ∈ before, Compiles g) ∧ compile f.id f.operations = .error e ∧
        emitted? format outDir (documents format before) s₁ = some s'' ∧
        runOn (runRequest l (.convert group none format outDir false)) s =
          (.error (.failed (.compile e)), s'')) ∧
      ∀ f ∈ scripts, Compiles f → ∀ keepGoing, ∃ s'',
        emitted? format outDir ((documents format scripts).filter (·.id = f.id)) s₁ = some s'' ∧
        runOn (runRequest l (.convert group (some f.id) format outDir keepGoing)) s =
          (.ok (), s'') := by
  refine ⟨fun part hpart => ⟨Installer.documents_pairwise ((hload.pairwise_lt hids).sublist hpart),
    fun r => Installer.mem_documents_iff⟩, ?_⟩
  have hemit : ∀ rs, (∀ r ∈ rs, r ∈ documents format scripts) →
      ∃ s', emitted? format outDir rs s₁ = some s' := fun rs hrs =>
    exists_emitted?_eq_some fun r hr => hwrite r (hrs r hr)
  obtain ⟨s', hs'⟩ := hemit _ fun r hr => hr
  have hall : (∀ f ∈ scripts, Compiles f) →
      runOn (runRequest l (.convert group none format outDir false)) s = (.ok (), s') :=
    fun h => runOn_convert_of_compiles hload hdir (.inl rfl) h hs' false
  have hfirst : (¬ ∀ f ∈ scripts, Compiles f) → ∃ before f after e s'',
      scripts = before ++ f :: after ∧ (∀ g ∈ before, Compiles g) ∧
      compile f.id f.operations = .error e ∧
      emitted? format outDir (documents format before) s₁ = some s'' ∧
      runOn (runRequest l (.convert group none format outDir false)) s =
        (.error (.failed (.compile e)), s'') := by
    intro h
    obtain ⟨before, f, after, e, hsplit, hbefore, he⟩ := exists_first_not_compiles h
    obtain ⟨s'', hs''⟩ := hemit (documents format before) fun r hr => by
      rw [hsplit, Installer.documents_append]
      exact List.mem_append_left _ hr
    exact ⟨before, f, after, e, s'', hsplit, hbefore, he, hs'',
      runOn_convert_of_first hload hdir hsplit hbefore he hs''⟩
  refine ⟨s', hs', runOn_convert_keepGoing hload hdir hs', ⟨fun ⟨s'', h⟩ => ?_,
    fun h => ⟨s', hall h⟩⟩, hall, hfirst, fun f hf hc keepGoing => ?_⟩
  · by_contra hnot
    obtain ⟨_, _, _, _, _, -, -, -, -, herror⟩ := hfirst hnot
    rw [h] at herror
    cases herror
  · obtain ⟨s'', hs''⟩ := hemit ((documents format scripts).filter (·.id = f.id))
      fun r hr => (List.mem_filter.1 hr).1
    have hmem : f ∈ selected (some f.id) scripts := List.mem_filter.2 ⟨hf, by simp⟩
    -- no other fix goes by the identifier that is asked for
    have hsel : ∀ g ∈ selected (some f.id) scripts, Compiles g := by
      intro g hg
      obtain ⟨hgs, hid⟩ := List.mem_filter.1 hg
      rwa [List.inj_on_of_nodup_map hids hgs hf (by simpa using hid)]
    refine ⟨s'', hs'', runOn_convert_of_compiles hload hdir (.inr (List.ne_nil_of_mem hmem)) hsel ?_
      keepGoing⟩
    rw [selected, Installer.documents_filter, hs'']

/-- One of two fixes does not compile, so that only a conversion that keeps going reaches its
end. -/
theorem convert_modes_agree_twoFixes :
    (∃ s', runOn (runRequest smallLayout (.convert "g" none .json (some "/o") true))
      (smallSession twoFixes) = (.ok (), s')) ∧
    ¬ ∃ s', runOn (runRequest smallLayout (.convert "g" none .json (some "/o") false))
      (smallSession twoFixes) = (.ok (), s') := by
  obtain ⟨-, t, -, hkeep, hiff, -⟩ := convert_modes_agree (loads_small isSmallGroup_twoFixes)
    (by decide) (withOutDir?_small twoFixes) isSome_emitted?_twoFixes
  refine ⟨⟨t, hkeep⟩, hiff.not.2 fun hall => ?_⟩
  obtain ⟨d, hd⟩ := hall (smallFix ("2", unknownSource)) (by simp [twoFixes])
  cases hd.symm.trans (compile_unknownSource _)

end GameFixes.Command
