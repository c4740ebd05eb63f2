import GameFixes.Proofs.Collection
import GameFixes.Tree.Site
import Mathlib.Data.List.Induction

/-!
# Writing files

What a file that is written changes in a site. It is put at the place that its path leads to, where
a file stands or nothing. No other place changes, and every path leads where it led before:

* `Tree.walk_put`: steps lead where they led, also where a file is new;
* `Site.exists_writeAll?_eq_some`: files that can be written can be written one after another;
* `Site.keeps_of_writeAll?`: then each path leads to what was written last to a path that leads
  there.
-/

namespace GameFixes

/-! ### Steps -/

/-- A landing after a file is put at a place: where nothing stood at the place, the file does. -/
def Landing.settle (q : Place) : Landing → Landing
  | .place p => .place p
  | .free parent name => if parent ++ [name] = q then .place q else .free parent name

namespace Tree

variable {t : Tree} {q p : Place} {name : FileName} {followLast : Bool} {budget : Nat}
  {steps : List Step}

/-- A file can be put at a place: a file stands there, or nothing. -/
def TakesFile (t : Tree) (q : Place) : Prop := ∀ n, t.at? q = some n → n.isFile = true

theorem TakesFile.ne_root (h : t.TakesFile q) : q ≠ [] := by
  rintro rfl
  exact absurd (h .dir t.at?_root) (by decide)

/-- Putting a file changes what stands at its place and nothing else. -/
theorem TakesFile.at?_put (h : t.TakesFile q) (content : List UInt8) (p : Place) :
    (t.put q (.file content)).at? p = if p = q then some (.file content) else t.at? p :=
  Tree.at?_put t q p (.file content) h.ne_root

/-- What is no file stands where it stood. -/
theorem TakesFile.at?_put_of_not_isFile (h : t.TakesFile q) (content : List UInt8) {n : Node}
    (hp : t.at? p = some n) (hn : n.isFile = false) :
    (t.put q (.file content)).at? p = some n := by
  have hpq : p ≠ q := by
    rintro rfl
    rw [h n hp] at hn
    cases hn
  rw [h.at?_put, if_neg hpq, hp]

/-- Where a file stands one stands still. -/
theorem TakesFile.exists_at?_put (h : t.TakesFile q) (content : List UInt8) {n : Node}
    (hp : t.at? p = some n) (hn : n.isFile = true) :
    ∃ n', (t.put q (.file content)).at? p = some n' ∧ n'.isFile = true := by
  rw [h.at?_put]
  split_ifs
  · exact ⟨_, rfl, rfl⟩
  · exact ⟨n, hp, hn⟩

theorem walk_into_of_isFile (hname : isName name = true) {n : Node}
    (hp : t.at? (p ++ [name]) = some n) (hn : n.isFile = true) :
    t.walk followLast budget p [.into name] = .ok (.place (p ++ [name])) := by
  rw [Tree.walk, if_neg (by simp [hname]), hp]
  cases n with
  | file | sealed => rfl
  | dir | link => cases hn

/-- Steps lead where they led before a file was put somewhere. -/
theorem walk_put (hq : t.TakesFile q) (content : List UInt8) {l : Landing}
    (h : t.walk followLast budget p steps = .ok l) :
    (t.put q (.file content)).walk followLast budget p steps = .ok (l.settle q) := by
  fun_induction Tree.walk t followLast budget p steps with
  | case1 budget p =>
    rw [← Except.ok.inj h, Tree.walk]
    rfl
  | case2 budget p steps ih =>
    rw [Tree.walk]
    exact ih h
  | case3 budget p steps ih =>
    rw [Tree.walk]
    exact ih h
  | case5 budget p name steps hname hp hsteps =>
    rw [List.isEmpty_iff.1 hsteps, ← Except.ok.inj h]
    by_cases hpq : p ++ [name] = q
    · rw [walk_into_of_isFile (by simpa using hname) (by rw [hq.at?_put, if_pos hpq]) rfl,
        Landing.settle, if_pos hpq, hpq]
    · rw [Tree.walk, if_neg hname, hq.at?_put, if_neg hpq, hp, Landing.settle, if_neg hpq]
      rfl
  | case7 budget p name steps hname hp ih =>
    rw [Tree.walk, if_neg hname, hq.at?_put_of_not_isFile content hp rfl]
    exact ih h
  | case8 budget p name steps hname c hp hsteps =>
    obtain ⟨n, hn, hfile⟩ := hq.exists_at?_put content hp rfl
    rw [List.isEmpty_iff.1 hsteps, ← Except.ok.inj h,
      walk_into_of_isFile (by simpa using hname) hn hfile]
    rfl
  | case10 budget p name steps hname c hp hsteps =>
    obtain ⟨n, hn, hfile⟩ := hq.exists_at?_put content hp rfl
    rw [List.isEmpty_iff.1 hsteps, ← Except.ok.inj h,
      walk_into_of_isFile (by simpa using hname) hn hfile]
    rfl
  | case12 budget p name steps hname target hp hlast =>
    rw [Tree.walk, if_neg hname, hq.at?_put_of_not_isFile content hp rfl, ← Except.ok.inj h]
    simp only [hlast, if_true]
    rfl
  | case15 p name steps hname target hp hlast htarget budget ih =>
    rw [Tree.walk, if_neg hname, hq.at?_put_of_not_isFile content hp rfl]
    simp only [hlast, htarget]
    exact ih h
  | case4 | case6 | case9 | case11 | case13 | case14 => cases h

/-- Nothing stands where steps lead to nothing. -/
theorem at?_of_walk_eq_free {parent : Place}
    (h : t.walk followLast budget p steps = .ok (.free parent name)) :
    t.at? (parent ++ [name]) = none := by
  fun_induction Tree.walk t followLast budget p steps with
  | case2 _ _ _ ih | case3 _ _ _ ih | case7 _ _ _ _ _ _ ih => exact ih h
  | case15 _ _ _ _ _ _ _ _ _ ih => exact ih h
  | case5 budget p name steps hname hp hsteps =>
    cases h
    exact hp
  | case1 | case4 | case6 | case8 | case9 | case10 | case11 | case12 | case13 | case14 => cases h

end Tree

/-! ### Paths -/

namespace Site

variable {s s' : Site} {path : String} {content : List UInt8} {p q : Place}

/-- The site with a file at a place. -/
def putFile (s : Site) (q : Place) (content : List UInt8) : Site :=
  { s with tree := s.tree.put q (.file content) }

/-- The place at which a file that is written to a path is put. -/
def target? (s : Site) (path : String) : Option Place :=
  match s.locate true (bytesOf path) with
  | .ok (.place p) => if (s.tree.at? p).any Node.isFile then some p else none
  | .ok (.free parent name) => some (parent ++ [name])
  | .error _ => none

theorem write?_eq (s : Site) (path : String) (content : List UInt8) :
    s.write? path content = (s.target? path).map (s.putFile · content) := by
  unfold write? target?
  cases s.locate true (bytesOf path) with
  | error => rfl
  | ok l =>
    cases l with
    | free parent name => rfl
    | place p =>
      dsimp only
      split_ifs <;> rfl

theorem target?_eq_some_iff : s.target? path = some q ↔
    (s.locate true (bytesOf path) = .ok (.place q) ∧
      ∃ n, s.tree.at? q = some n ∧ n.isFile = true) ∨
    ∃ parent name, s.locate true (bytesOf path) = .ok (.free parent name) ∧
      parent ++ [name] = q := by
  unfold target?
  cases s.locate true (bytesOf path) with
  | error => simp
  | ok l =>
    cases l with
    | free parent name => simp
    | place p =>
      simp only [Option.ite_none_right_eq_some, Option.any_eq_true, Option.some.injEq,
        Except.ok.injEq, Landing.place.injEq, reduceCtorEq, false_and, exists_false, or_false]
      constructor
      · rintro ⟨h, rfl⟩
        exact ⟨rfl, h⟩
      · rintro ⟨rfl, h⟩
        exact ⟨h, rfl⟩

theorem placeOf_eq_ok_iff :
    s.placeOf path = .ok p ↔ s.locate true (bytesOf path) = .ok (.place p) := by
  unfold placeOf
  cases s.locate true (bytesOf path) with
  | error => simp
  | ok l => cases l <;> simp

theorem locate_putFile (hq : s.tree.TakesFile q) (content : List UInt8) {followLast : Bool}
    {path : List UInt8} {l : Landing} (h : s.locate followLast path = .ok l) :
    (s.putFile q content).locate followLast path = .ok (l.settle q) := by
  unfold locate at h ⊢
  split_ifs at h ⊢
  · exact Tree.walk_put hq content h
  · exact Tree.walk_put hq content h

theorem at?_of_locate_eq_free {path : List UInt8} {parent : Place} {name : FileName}
    (h : s.locate true path = .ok (.free parent name)) : s.tree.at? (parent ++ [name]) = none := by
  unfold locate at h
  split_ifs at h
  · exact Tree.at?_of_walk_eq_free h
  · exact Tree.at?_of_walk_eq_free h

/-- A file that is written is put where a file stands or nothing. -/
theorem takesFile_of_target? (h : s.target? path = some q) : s.tree.TakesFile q := by
  intro n hn
  rcases target?_eq_some_iff.1 h with ⟨-, m, hm, hfile⟩ | ⟨parent, name, hl, rfl⟩
  · rwa [← Option.some.inj (hm.symm.trans hn)]
  · rw [at?_of_locate_eq_free hl] at hn
    cases hn

/-- A path leads where it led after a file is put somewhere. -/
theorem placeOf_putFile (hq : s.tree.TakesFile q) (content : List UInt8)
    (h : s.placeOf path = .ok p) : (s.putFile q content).placeOf path = .ok p :=
  placeOf_eq_ok_iff.2 (locate_putFile hq content (placeOf_eq_ok_iff.1 h))

/-- A file that could be written can still be written, and is put at the same place. -/
theorem target?_putFile (hq : s.tree.TakesFile q) (content : List UInt8)
    (h : s.target? path = some p) : (s.putFile q content).target? path = some p := by
  rw [target?_eq_some_iff]
  rcases target?_eq_some_iff.1 h with ⟨hl, n, hn, hfile⟩ | ⟨parent, name, hl, rfl⟩
  · exact .inl ⟨locate_putFile hq content hl, hq.exists_at?_put content hn hfile⟩
  · rw [locate_putFile hq content hl, Landing.settle]
    by_cases hpq : parent ++ [name] = q
    · rw [if_pos hpq, hpq]
      exact .inl ⟨rfl, _, by rw [putFile, hq.at?_put, if_pos rfl], rfl⟩
    · rw [if_neg hpq]
      exact .inr ⟨parent, name, rfl, rfl⟩

/-- The path of a file that was written leads to it. -/
theorem placeOf_putFile_target (h : s.target? path = some q) (content : List UInt8) :
    (s.putFile q content).placeOf path = .ok q := by
  have hq := takesFile_of_target? h
  rw [placeOf_eq_ok_iff]
  rcases target?_eq_some_iff.1 h with ⟨hl, -⟩ | ⟨parent, name, hl, rfl⟩
  · exact locate_putFile hq content hl
  · rw [locate_putFile hq content hl, Landing.settle, if_pos rfl]

theorem read?_of_placeOf (hp : s.placeOf path = .ok p)
    (hfile : s.tree.at? p = some (.file content)) : s.read? path = some content := by
  rw [read?, node, hp]
  simp only [hfile]

/-- What a path reads depends on the place only that it leads to. -/
theorem read?_congr {path' : String} (h : s.placeOf path = s.placeOf path') :
    s.read? path = s.read? path' := by
  rw [read?, read?, node, node, h]

/-! ### Several files -/

/-- Writes files one after another, each to its path. -/
def writeAll? (s : Site) (files : List (String × List UInt8)) : Option Site :=
  files.foldlM (fun s f => s.write? f.1 f.2) s

@[simp] theorem writeAll?_nil (s : Site) : s.writeAll? [] = some s := rfl

theorem writeAll?_cons (s : Site) (f : String × List UInt8) (files : List (String × List UInt8)) :
    s.writeAll? (f :: files) = (s.write? f.1 f.2).bind (·.writeAll? files) := rfl

/-- The first of some files is put where its path leads, and then the others are written. -/
theorem writeAll?_cons_eq_some_iff {f : String × List UInt8} {files : List (String × List UInt8)} :
    s.writeAll? (f :: files) = some s' ↔
      ∃ q, s.target? f.1 = some q ∧ (s.putFile q f.2).writeAll? files = some s' := by
  simp only [writeAll?_cons, write?_eq, Option.bind_eq_some_iff, Option.map_eq_some_iff]
  constructor
  · rintro ⟨_, ⟨q, hq, rfl⟩, h⟩
    exact ⟨q, hq, h⟩
  · rintro ⟨q, hq, h⟩
    exact ⟨_, ⟨q, hq, rfl⟩, h⟩

theorem writeAll?_concat (s : Site) (files : List (String × List UInt8))
    (f : String × List UInt8) :
    s.writeAll? (files ++ [f]) = (s.writeAll? files).bind (·.write? f.1 f.2) := by
  unfold writeAll?
  rw [List.foldlM_append]
  simp

/-- Files can be written one after another if each of them can be written. -/
theorem exists_writeAll?_eq_some {files : List (String × List UInt8)}
    (h : ∀ f ∈ files, (s.write? f.1 f.2).isSome = true) : ∃ s', s.writeAll? files = some s' := by
  simp only [write?_eq, Option.isSome_map] at h
  induction files generalizing s with
  | nil => exact ⟨s, rfl⟩
  | cons f files ih =>
    rw [List.forall_mem_cons] at h
    obtain ⟨q, hq⟩ := Option.isSome_iff_exists.1 h.1
    rw [writeAll?_cons, write?_eq, hq]
    refine ih fun g hg => ?_
    obtain ⟨p, hp⟩ := Option.isSome_iff_exists.1 (h.2 g hg)
    rw [target?_putFile (takesFile_of_target? hq) f.2 hp]
    rfl

/-- A path leads where it led after files are written one after another. -/
theorem placeOf_of_writeAll? {files : List (String × List UInt8)}
    (h : s.writeAll? files = some s') (hp : s.placeOf path = .ok p) : s'.placeOf path = .ok p := by
  induction files generalizing s with
  | nil =>
    cases h
    exact hp
  | cons f files ih =>
    obtain ⟨q, hq, h⟩ := writeAll?_cons_eq_some_iff.1 h
    exact ih h (placeOf_putFile (takesFile_of_target? hq) f.2 hp)

/-- The path of each of these files leads where the file would have been put alone. -/
theorem placeOf_writeAll?_target {files : List (String × List UInt8)}
    (h : s.writeAll? files = some s') (hf : (path, content) ∈ files)
    (hp : s.target? path = some p) : s'.placeOf path = .ok p := by
  induction files generalizing s with
  | nil => cases hf
  | cons g files ih =>
    obtain ⟨q, hq, h⟩ := writeAll?_cons_eq_some_iff.1 h
    rcases List.mem_cons.1 hf with rfl | hf
    · cases hq.symm.trans hp
      exact placeOf_of_writeAll? h (placeOf_putFile_target hp content)
    · exact ih h hf (target?_putFile (takesFile_of_target? hq) g.2 hp)

/-- What stands where the paths of files lead that were written one after another: what was written
last to a path that leads there. -/
def Keeps (s : Site) (files : List (String × List UInt8)) : Prop :=
  ∀ f ∈ files, ∃ q g, s.placeOf f.1 = .ok q ∧ IsLast (fun g => s.placeOf g.1 = .ok q) files g ∧
    s.tree.at? q = some (.file g.2)

/-- One more file is the last one where its path leads. -/
theorem Keeps.write? {files : List (String × List UInt8)} (hk : s.Keeps files)
    {f : String × List UInt8} (h : s.write? f.1 f.2 = some s') : s'.Keeps (files ++ [f]) := by
  rw [write?_eq, Option.map_eq_some_iff] at h
  obtain ⟨q, hq, rfl⟩ := h
  have htakes := takesFile_of_target? hq
  have hf := placeOf_putFile_target hq f.2
  have hat : (s.putFile q f.2).tree.at? q = some (.file f.2) := by
    rw [putFile, htakes.at?_put, if_pos rfl]
  have hlast : IsLast (fun g => (s.putFile q f.2).placeOf g.1 = .ok q) (files ++ [f]) f :=
    ⟨files, [], rfl, hf, by simp⟩
  intro x hx
  rcases List.mem_append.1 hx with hx | hx
  · obtain ⟨p, g, hp, hg, hpg⟩ := hk x hx
    by_cases hpq : p = q
    · subst hpq
      exact ⟨p, f, placeOf_putFile htakes f.2 hp, hlast, hat⟩
    · refine ⟨p, g, placeOf_putFile htakes f.2 hp, ?_, ?_⟩
      · rw [isLast_append_iff (by simpa [hf] using Ne.symm hpq)]
        refine hg.congr fun y hy => ?_
        obtain ⟨r, -, hr, -⟩ := hk y hy
        rw [hr, placeOf_putFile htakes f.2 hr]
      · rw [putFile, htakes.at?_put, if_neg hpq, hpg]
  · rw [List.mem_singleton.1 hx]
    exact ⟨q, f, hf, hlast, hat⟩

/-- Files that were written one after another are kept. -/
theorem keeps_of_writeAll? {files : List (String × List UInt8)}
    (h : s.writeAll? files = some s') : s'.Keeps files := by
  induction files using List.reverseRecOn generalizing s' with
  | nil => intro f hf; cases hf
  | append_singleton files f ih =>
    rw [writeAll?_concat, Option.bind_eq_some_iff] at h
    obtain ⟨t, ht, h⟩ := h
    exact (ih ht).write? h

end Site

end GameFixes
