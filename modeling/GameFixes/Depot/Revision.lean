import GameFixes.Depot.Remote

/-!
# Revisions

How people name objects: by references, in full or in part, by digits, by what a reference said
before, and by the way from one object to another: to the commits that it comes after, to its tree,
and to what is at a path in that.
-/

namespace GameFixes.Depot

namespace Revision

/-- Where a short name of a reference is looked for, as what stands in front of it and behind it. -/
def shelves : List (List Char × List Char) :=
  [("", ""), ("refs/", ""), ("refs/tags/", ""), ("refs/heads/", ""), ("refs/remotes/", ""),
    ("refs/remotes/", "/HEAD")].map fun e => (e.1.toList, e.2.toList)

/-- The parts of a text before and after the last place where `p` occurs. -/
def splitLast? (p s : List Char) : Option (List Char × List Char) :=
  (Text.splitFirst? p.reverse s.reverse).map fun (a, b) => (b.reverse, a.reverse)

/-- The parts of a text before and after its first colon outside of braces. -/
def atColon? : (depth : Nat) → List Char → Option (List Char × List Char)
  | _, [] => none
  | depth, c :: s =>
    if c = ':' && depth = 0 then some ([], s)
    else
      let depth := if c = '\x7b' then depth + 1 else if c = '\x7d' then depth - 1 else depth
      (atColon? depth s).map fun (a, b) => (c :: a, b)

/-- The number in digits, of which there may be none. -/
def numberOf (digits : List Char) (fallback : Nat) : Nat :=
  ((String.ofList digits).toNat?).getD fallback

end Revision

namespace Workspace

open Revision

/-! ### References -/

/-- The reference that a short name stands for, with its object. -/
def refNamed? (w : Workspace) (name : List Char) : Option (RefName × ObjectName) :=
  shelves.findSome? fun (before, behind) =>
    let ref := before ++ name ++ behind
    if Reference.isName ref then (w.object? ref).map (ref, ·) else none

/-- The branches that counted before, the last one first, as far as is written down. -/
def formerBranches (w : Workspace) : List (List Char) :=
  (w.changesOf Reference.head).filterMap fun (_, _, reason) =>
    (Text.after? "checkout: moving from ".toList reason).bind fun rest =>
      (splitLast? " to ".toList rest).map (·.1)

/-- What a text in braces behind a reference stands for. -/
def atBraces? (w : Workspace) (base inside : List Char) : Option ObjectName :=
  let branch? := if base = [] || base = ['@'] then w.branch? else
    some (Text.withoutStart branchStart base)
  let inside' := inside.map Char.toLower
  if inside' = ['u'] || inside' = "upstream".toList || inside' = "push".toList then
    (branch?.bind w.tracked?).bind w.object?
  else
    match inside with
    | '-' :: digits =>
      if base ≠ [] || !digits.all Char.isDigit || numberOf digits 0 = 0 then none
      else
        match w.formerBranches[numberOf digits 0 - 1]? with
        | some name => ((w.refNamed? name).map (·.2)).or
            (if w.naming.isName name then some (String.ofList name) else none)
        | none => none
    | digits =>
      let ref? := if base = [] then some w.headRef else (w.refNamed? base).map (·.1)
      match ref? with
      | some ref =>
        let changes := w.changesOf ref
        if digits ≠ [] && digits.all Char.isDigit then
          let n := numberOf digits 0
          match changes[n]? with
          | some (_, new, _) => some new
          | none => if n = changes.length && n ≠ 0 then
              (changes.getLast?.map (·.1)).filter (· ≠ w.naming.zero)
            else if n = 0 then w.object? ref else none
        else if inside' = "now".toList then w.object? ref
        else (changes.getLast?.map (·.2.1)).or (w.object? ref)
      | none => none

/-! ### Names -/

/-- The object whose name starts with some digits, if there is only one. -/
def objectStarting? (w : Workspace) (digits : List Char) : Option ObjectName :=
  let digits := digits.map Char.toLower
  if 4 ≤ digits.length && digits.length ≤ w.naming.length && digits.all Glob.isHexDigit then
    match w.archive.objects.filter fun e => (Text.after? digits e.1.toList).isSome with
    | [(name, _)] => some name
    | _ => none
  else none

/-- The object that a plain name stands for. -/
def plainNamed? (w : Workspace) (s : List Char) : Option ObjectName :=
  if w.naming.isName (s.map Char.toLower) then some (String.ofList (s.map Char.toLower))
  else if s = ['@'] then w.tip?
  else
    match if s.getLast? = some '\x7d' then splitLast? "@\x7b".toList s else none with
    | some (base, inside) => w.atBraces? base inside.dropLast
    | none =>
      match w.refNamed? s with
      | some (_, name) => some name
      | none =>
        match splitLast? "-g".toList s with
        | some (_, digits) => (w.objectStarting? digits).or (w.objectStarting? s)
        | none => w.objectStarting? s

/-- The commit a number of steps back along the first commits that commits come after. -/
def ancestorAt? (w : Workspace) : (steps : Nat) → ObjectName → Option ObjectName
  | 0, name => some name
  | n + 1, name => (w.archive.parents name).head?.bind (w.ancestorAt? n)

/-- The object that an object stands for in the role that a word in braces says. -/
def inRole? (w : Workspace) (role : List Char) (name : ObjectName) : Option ObjectName :=
  let a := w.archive
  let hasWord (n : ObjectName) (word : String) : Bool := (a.get? n).any (·.word = word)
  match String.ofList role with
  | "" => a.peeled? name
  | "object" => if a.has name then some name else none
  | "commit" => a.commitNamed? name
  | "tree" => a.treeNamed? name
  | "blob" => (a.peeled? name).filter (hasWord · "blob")
  | "tag" => if hasWord name "tag" then some name else none
  | _ =>
    match role with
    | '/' :: text => (a.ancestors [name]).reverse.find? fun n =>
        (a.commit? n).any fun c => Text.occurs text c.message.toList
    | _ => none

/-- The object that a name with steps behind it stands for. -/
def named? (w : Workspace) : (fuel : Nat) → List Char → Option ObjectName
  | 0, _ => none
  | fuel + 1, s =>
    let digits := (s.reverse.takeWhile Char.isDigit).reverse
    let front := s.take (s.length - digits.length)
    match front.getLast?, front.dropLast with
    | some '^', base =>
      if base = [] then none
      else do
        let name ← w.archive.commitNamed? (← w.named? fuel base)
        match numberOf digits 1 with
        | 0 => return name
        | n + 1 => (w.archive.parents name)[n]?
    | some '~', base =>
      if base = [] then none
      else do
        let name ← w.archive.commitNamed? (← w.named? fuel base)
        w.ancestorAt? (numberOf digits 1) name
    | _, _ =>
      match if s.getLast? = some '\x7d' then splitLast? "^\x7b".toList s else none with
      | some (base, inside) => (w.named? fuel base).bind (w.inRole? inside.dropLast)
      | none => w.plainNamed? s

/-- The place that a path from the directory of the depot says; with a dot in front, the working
directory counts. -/
def placeOfPath (w : Workspace) (path : List Char) : Place :=
  let names := (stepsOf (Text.ofOctets path)).foldl (fun (p : Place) step =>
    match step with
    | .here => p
    | .up => p.dropLast
    | .into name => p ++ [name])
  match path with
  | '.' :: _ => names (w.site.cwd.drop w.top.length)
  | _ => names []

/-- The object at a path in a tree. -/
def atPath? (w : Workspace) (tree : ObjectName) (p : Place) : Option ObjectName :=
  p.foldlM (fun name part =>
    match w.archive.get? name with
    | some (.tree items) => (items.lookup part).map (·.name)
    | _ => none) tree

/-- The object that a text stands for. -/
def revision? (w : Workspace) (text : String) : Option ObjectName :=
  let s := Config.octetsOf text
  match s with
  | ':' :: '/' :: message =>
    let a := w.archive
    (a.ancestors (w.references.map (·.2) ++ w.tip?.toList)).find? fun n =>
      (a.commit? n).any fun c => Text.occurs message c.message.toList
  | ':' :: path =>
    let (side, path) := match path with
      | c :: ':' :: rest => if '0' ≤ c && c ≤ '3' then (c.toNat - 48, rest) else (0, path)
      | _ => (0, path)
    let p := w.placeOfPath path
    if side = 0 then (w.stage.at? p).map (·.item.name)
    else (w.stage.conflicts.lookup p).bind fun c =>
      ((if side = 1 then c.base else if side = 2 then c.ours else c.theirs).map (·.name))
  | s =>
    match atColon? 0 s with
    | some (base, path) => do
      let name ← w.named? (base.length + 1) base
      w.atPath? (← w.archive.treeNamed? name) (w.placeOfPath path)
    | none => w.named? (s.length + 1) s

/-- The commit that a text stands for. -/
def commitMeant? (w : Workspace) (text : String) : Option ObjectName :=
  (w.revision? text).bind w.archive.commitNamed?

end Workspace

end GameFixes.Depot
