import GameFixes.Command.Session

/-!
# Runs of routines

What a routine leads to in a session: its result or the reason why it stops, and the session after
it. A routine goes on in the session that the part before it leaves, and not at all after a stop:

* `runOn_bind_of_ok`, `runOn_bind_of_error`, `runOn_bind_eq_ok_iff`: routines one after another;
* `runOn_ask`, `runOn_act`, `runOn_sayAll`: what a routine does in one step.
-/

namespace GameFixes.Action

theorem runOn_write (path : String) (content : List UInt8) (s : Site) :
    (write path content).runOn s =
      match s.write? path content with
      | some s' => (.ok (), s')
      | none => (.error (.write path), s) := by
  show (ExceptT.run (match s.write? path content with
    | some s' => set s'
    | none => throw (.write path) : Action Unit)).run s = _
  cases s.write? path content <;> rfl

theorem runOn_createDirs (path : String) (failure : Failure) (s : Site) :
    (createDirs path failure).runOn s =
      (if (s.createDirs path).2 then .ok () else .error failure, (s.createDirs path).1) := by
  show (ExceptT.run (do
    set (s.createDirs path).1
    unless (s.createDirs path).2 do throw failure : Action Unit)).run s = _
  cases (s.createDirs path).2 <;> rfl

end GameFixes.Action

namespace GameFixes.Command.Routine

variable {α β : Type} {s s' s'' : Session} {a : α} {b : β} {e : Halt} {r : Routine α}
  {f : α → Routine β}

/-- Runs a routine in a session: how it ends, and the session after it. -/
def runOn (r : Routine α) (s : Session) : Except Halt α × Session := (ExceptT.run r).run s

@[simp] theorem runOn_pure (a : α) (s : Session) : runOn (pure a) s = (.ok a, s) := rfl

@[simp] theorem runOn_get (s : Session) : runOn get s = (.ok s, s) := rfl

@[simp] theorem runOn_sayAll (lines : List String) (s : Session) :
    runOn (sayAll lines) s = (.ok (), { s with lines := s.lines ++ lines }) := rfl

/-! ### One routine after another -/

theorem runOn_bind (r : Routine α) (f : α → Routine β) (s : Session) :
    runOn (r >>= f) s =
      match runOn r s with
      | (.ok a, s') => runOn (f a) s'
      | (.error e, s') => (.error e, s') := by
  show (ExceptT.bindCont f ((ExceptT.run r).run s).1).run ((ExceptT.run r).run s).2 = _
  unfold runOn
  rcases (ExceptT.run r).run s with ⟨_ | _, _⟩ <;> rfl

/-- A routine goes on with the result of the part before it, in the session after that part. -/
theorem runOn_bind_of_ok (h : runOn r s = (.ok a, s')) : runOn (r >>= f) s = runOn (f a) s' := by
  rw [runOn_bind, h]

/-- A routine does not go on after a part that stops. -/
theorem runOn_bind_of_error (h : runOn r s = (.error e, s')) :
    runOn (r >>= f) s = (.error e, s') := by
  rw [runOn_bind, h]

/-- A routine that reaches its end does so in each of its parts. -/
theorem runOn_bind_eq_ok_iff : runOn (r >>= f) s = (.ok b, s'') ↔
    ∃ a s', runOn r s = (.ok a, s') ∧ runOn (f a) s' = (.ok b, s'') := by
  rw [runOn_bind]
  rcases runOn r s with ⟨_ | a, s'⟩
  · simp
  · simp [and_assoc]

/-! ### Steps -/

theorem runOn_ofResult (result : Except Failure α) (s : Session) :
    runOn (ofResult result) s =
      match result with
      | .ok a => (.ok a, s)
      | .error failure => (.error (.failed failure), s) := by
  cases result <;> rfl

/-- Asking changes nothing. -/
theorem runOn_ask (f : Site → Except Failure α) (s : Session) :
    runOn (ask f) s =
      match f s.site with
      | .ok a => (.ok a, s)
      | .error failure => (.error (.failed failure), s) := by
  rw [ask, runOn_bind_of_ok (runOn_get s), runOn_ofResult]

theorem runOn_ask_eq_ok_iff {f : Site → Except Failure α} :
    runOn (ask f) s = (.ok a, s') ↔ f s.site = .ok a ∧ s = s' := by
  rw [runOn_ask]
  cases f s.site <;> simp

/-- What is done to the site changes nothing else, and stays also where it fails. -/
theorem runOn_act (action : Action α) (s : Session) :
    runOn (act action) s =
      match action.runOn s.site with
      | (.ok a, site) => (.ok a, { s with site := site })
      | (.error failure, site) => (.error (.failed failure), { s with site := site }) := by
  rw [act, runOn_bind_of_ok (runOn_get s)]
  rcases action.runOn s.site with ⟨_ | _, _⟩ <;> rfl

theorem runOn_act_write (path : String) (content : List UInt8) (s : Session) :
    runOn (act (Action.write path content)) s =
      match s.site.write? path content with
      | some site => (.ok (), { s with site := site })
      | none => (.error (.failed (.write path)), s) := by
  rw [runOn_act, Action.runOn_write]
  cases s.site.write? path content <;> rfl

theorem runOn_act_createDirs (path : String) (failure : Failure) (s : Session) :
    runOn (act (Action.createDirs path failure)) s =
      (if (s.site.createDirs path).2 then .ok () else .error (.failed failure),
        { s with site := (s.site.createDirs path).1 }) := by
  rw [runOn_act, Action.runOn_createDirs]
  cases (s.site.createDirs path).2 <;> rfl

end GameFixes.Command.Routine
