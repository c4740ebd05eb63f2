import GameFixes.Depot.Restoring
import GameFixes.Depot.Tool.Command

/-!
# Commands about files

Files are staged, taken away, moved and cleared away.
-/

namespace GameFixes.Depot.Tool

open Work

/-! ### Staging -/

/-- The options for staging. -/
def addRules : String :=
  ("n:dry-run v:verbose i:interactive p:patch e:edit f:force u:update renormalize " ++
    "N:intent-to-add A:all ignore-removal refresh ignore-errors ignore-missing sparse chmod= " ++
    "warn-embedded-repo") ++
    pathRules

/-- Whether all changes are to be staged, if that is said: new files, and those that are gone. -/
def allWanted? (words : Words) : Option Bool :=
  (words.last? ["all", "ignore-removal"]).map fun g => (g.name = "all") = !g.isOff

/-- Whether files are to become programs, if a sign says it. -/
def programSign? (text : String) : Option Bool :=
  if text = "+x" then some true else if text = "-x" then some false else none

/-- Stages files. -/
def addWith (words : Words) : Work Unit := do
  need (!words.has "interactive" && !words.has "patch" && !words.has "edit")
  let wantsAll := allWanted? words
  let updates := words.has "update"
  need (!(updates && wantsAll = some true))
  need (words.has "dry-run" || !words.has "ignore-missing")
  let sign ← match words.value? "chmod" with
    | some text => do pure (some (← given (programSign? text)))
    | none => pure none
  need (← ask (·.canStage))
  let specs ← specsGiven words words.operands
  let before ← ask id
  if specs.isEmpty && !updates && wantsAll ≠ some true then pure ()
  else
    need (!specs.any before.entersNested && !specs.any before.passesLink)
    let isMeant := Pathspec.admits specs
    if words.has "refresh" then need (specs.all before.isStaged)
    else
      let heeds := !words.has "force"
      let takesNew := !updates && !words.has "renormalize"
      need (!takesNew || words.has "ignore-missing" || specs.all (before.canAdd heeds))
      need (takesNew || specs.all fun s => before.isStaged s || s.place = [] ||
        s.manner.isExcluding || (before.standing? s.place).isSome)
      let plan : Workspace.StagePlan :=
        { isMeant := isMeant, takesNew := takesNew, heedsIgnored := heeds
          dropsGone := updates || wantsAll ≠ some false
          isIntent := words.has "intent-to-add"
          isLenient := words.has "ignore-errors" ||
            (!words.hasOff "ignore-errors" && (before.isOn "add.ignoreerrors" ||
              before.isOn "add.ignore-errors")) }
      let staged ← given (if words.has "renormalize" then before.renormalized? plan
        else before.staged? plan)
      let staged := match sign with
        | some b => if specs.isEmpty then staged else staged.setPrograms b isMeant
        | none => staged
      if words.has "dry-run" then pure () else set staged.finish
      need staged.isSound
      need (!(takesNew && heeds && specs.any before.namesIgnored))

/-- Stages files. -/
def add : Command := command true addRules addWith

/-! ### Removing and moving -/

/-- Takes files away. -/
def remove : Command :=
  command true ("n:dry-run q:quiet cached f:force r: ignore-unmatch sparse" ++ pathRules)
    fun words => do
      let specs ← specsGiven words words.operands
      need (!specs.isEmpty)
      need (!(← ask fun w => specs.any w.entersNested))
      let after ← demand (·.remove? ⟨specs, words.has "r", words.has "force", words.has "cached",
        words.has "ignore-unmatch"⟩)
      if words.has "dry-run" then pure () else set after

/-- Moves files. -/
def move : Command :=
  command true "v:verbose n:dry-run f:force k: sparse" fun words => do
    let specs ← demand (·.pathspecs? words.operands)
    match specs.reverse with
    | target :: source :: sources =>
      let after ← demand (·.moveAll? (words.has "force") (words.has "k")
        ((source :: sources).reverse.map (·.place)) target)
      if words.has "dry-run" then pure () else set after
    | _ => failure

/-- Clears away what is not staged. -/
def clearAway : Command :=
  command true "q:quiet n:dry-run f:force i:interactive d: e:exclude=! x: X:" fun words => do
    let w ← ask id
    let isForced := words.has "force"
    let needsForce := !Config.isOff w.settings "clean.requireforce"
    need (isForced || words.has "dry-run" || words.has "interactive" || !needsForce)
    need (!(words.has "x" && words.has "X") && w.canReadStage)
    let specs ← demand (·.pathspecs? words.operands)
    let spared := (words.values "exclude").filterMap fun text => Ignore.ruleOfLine? [] text.toList
    let isSpared (p : Place) (isDir : Bool) : Bool :=
      (spared.any fun r => PathRule.covers w.folds r p isDir) ||
        (Tree.around p).any fun q => spared.any fun r => PathRule.covers w.folds r q true
    if words.has "dry-run" || words.has "interactive" then pure ()
    else
      alter (·.clear
        { isMeant := fun p isDir => Pathspec.admits specs p isDir && !isSpared p isDir
          withDirs := words.has "d" || !specs.isEmpty
          withIgnored := words.has "x"
          onlyIgnored := words.has "X"
          withNested := 1 < (words.counting "force").length })

end GameFixes.Depot.Tool
