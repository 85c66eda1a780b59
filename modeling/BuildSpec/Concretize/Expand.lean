import BuildSpec.Concretize.State

/-!
# Expansion

Building a concretization has three steps.

1. Each requested spec is checked (it must name a package the catalog defines, not a virtual
   one) and split into itself without dependencies (a leaf) and its `^` dependencies (needed),
   recursively.
2. Seeding makes a candidate for each leaf and needed spec, merging specs of one package; a
   setting of an exclusive variant must then agree exactly with the one already there.
3. Expansion passes run until one finds nothing new. A pass visits the packages known at its
   start and records each declared dependency whose condition may apply to the package's spec,
   creating candidates or virtual packages for new targets; then it visits every virtual package
   and adds the providers whose condition the provider's spec does not exclude.

The number of passes is bounded by `(nodes + 1) * (edges + variants + 1) + 1` of what has been
found so far; every pass that finds something also raises the bound, so it is never reached.

A failure stops the build with the log records written up to that point (`Stop`).
-/

namespace BuildSpec

/-- A failed build: the error, and the log records written before it. -/
structure Stop where
  error : Error
  log : Array Log.Entry

namespace Concretization

/-- The result of a step, an error stopping the build with the records written so far. -/
def lift {α : Type} (c : Concretization) (r : Except Error α) : Except Stop α :=
  r.mapError fun e => ⟨e, c.log⟩

/-- Stops the build. -/
def stop {α : Type} (c : Concretization) (e : Error) : Except Stop α := .error ⟨e, c.log⟩

/-- Checks the variant settings of a spec against the declarations of a package. -/
def validateVariants (cat : Catalog) (pkg : String) (s : Spec) : Except Error Unit := do
  let some p := cat.get? pkg | throw (.unknownPackage pkg)
  for v in s.variants.entries do
    let some d := p.variant? v.name | throw (.unknownVariant v.name pkg)
    d.validate v (some pkg)

/-- A new candidate for a package, holding every variant its recipe declares: in key order,
the first declaration of each name. -/
def newCandidate (cat : Catalog) (name : String) (s : Spec) : Except Error Candidate :=
  match cat.get? name with
  | some p => .ok { spec := s, variants := p.decls.foldl Candidate.addVariant [] }
  | none => .error (.unknownPackage name)

mutual

/-- Checks a requested spec and files it, and its dependencies, as leaf or needed. -/
def addRequest (c : Concretization) : Spec → Bool → Except Stop Concretization
  | ⟨name, versions, variants, compiler, deps, concrete⟩, explicit => do
    let s : Spec := ⟨name, versions, variants, compiler, deps, concrete⟩
    let some n := name | c.stop (.anonymousRequested s.text)
    if c.catalog.isVirtual n then c.stop (.virtualRequested n)
    if !c.catalog.contains n then c.stop (.unknownPackage n)
    let c := if explicit then { c with needed := c.needed ++ [s.withoutDependencies] }
      else { c with leaf := c.leaf ++ [s.withoutDependencies] }
    addRequests c deps

/-- Files each dependency of a request as needed. -/
def addRequests (c : Concretization) : List Spec → Except Stop Concretization
  | [] => .ok c
  | d :: ds => do addRequests (← addRequest c d true) ds

end

/-- Merges a spec into the candidate of its package, creating the candidate if needed. -/
def mergeSpec (c : Concretization) (s : Spec) : Except Stop Concretization := do
  let some name := s.name | c.stop (.anonymousRequested s.text)
  c.lift (validateVariants c.catalog name s)
  let some p := c.catalog.get? name | c.stop (.unknownPackage name)
  let c ← match c.candidate? name with
    | some existing => do
      for v in s.variants.entries do
        let exclusive := (p.variant? v.name).any (·.exclusive)
        if let some current := existing.spec.variants.get? v.name then
          if exclusive && current != v then c.stop (.variantConflict v.text current.text)
      let (merged, changed) ← c.lift (existing.spec.constrain s)
      let c := { c with packages := putSorted name { existing with spec := merged } c.packages }
      pure (if changed then c.note .debug Log.expansionArea s!"merged {s.text} into {merged.text}" else c)
    | none => do
      let c := c.note .debug Log.expansionArea s!"new package {name} from {s.text}"
      pure { c with packages := putSorted name (← c.lift (newCandidate c.catalog name s)) c.packages }
  pure { c with graph := c.graph.touch name false }

/-- Makes the candidates of the leaf specs, each requested, then of the needed specs. -/
def seed (c : Concretization) : Except Stop Concretization := do
  let c ← c.leaf.foldlM (fun c s => do
    let c ← c.mergeSpec s
    let name := s.name.getD ""
    pure { c with graph := (c.graph.addEdgeOnce ⟨none, name, .requested⟩).1 }) c
  c.needed.foldlM mergeSpec c

/-- The bound on passes given what has been found so far. -/
def passCeiling (c : Concretization) : Nat :=
  let nodes := c.packages.length + c.virtuals.length
  let edges := total (c.packages.map (·.2.dependencyCount)) + total (c.virtuals.map (·.2.length))
  let variants := total (c.packages.map (·.2.variants.length))
  (nodes + 1) * (edges + variants + 1) + 1

/-- Makes sure the target of applicable dependencies is discovered: a virtual package, or a
candidate once the dependencies' variant settings are checked against the target's recipe.
Tells whether the target was new. -/
def reachTarget (c : Concretization) (name target : String) (applicable : List Dependency) :
    Except Stop (Concretization × Bool) :=
  if c.catalog.isVirtual target then
    if (c.virtual? target).isNone then
      let c := c.note .debug Log.expansionArea s!"{name} needs virtual package {target}"
      pure ({ c with virtuals := putSorted target [] c.virtuals, graph := c.graph.touch target true }, true)
    else pure ({ c with graph := c.graph.touch target true }, false)
  else do
    applicable.forM fun d => c.lift (validateVariants c.catalog target d.spec)
    if (c.candidate? target).isNone then
      let c := c.note .debug Log.expansionArea s!"{name} needs package {target}"
      let cand ← c.lift (newCandidate c.catalog target (Spec.named target))
      pure ({ c with packages := putSorted target cand c.packages, graph := c.graph.touch target false }, true)
    else pure ({ c with graph := c.graph.touch target false }, false)

/-- Records one applicable dependency of `name` on `target`, in the candidate and as an edge. -/
def recordDependency (name target : String) (acc : Candidate × Graph × Bool) (d : Dependency) :
    Candidate × Graph × Bool :=
  let (cand, g, changed) := acc
  let (cand, new) := cand.addDependency d
  let (g, added) := g.addEdgeOnce ⟨some name, target, .depends d.phases⟩
  (cand, g, changed || new || added)

/-- Records the applicable dependencies of one target of a package. -/
def expandTarget (name : String) (s : Spec) (acc : Concretization × Bool) (entry : String × List Dependency) :
    Except Stop (Concretization × Bool) := do
  let (c, changed) := acc
  let (target, deps) := entry
  if !c.catalog.knows target then c.stop (.unknownPackage target)
  let applicable := deps.filter (·.condition.mayApply s)
  if applicable.isEmpty then return (c, changed)
  let (c, new) ← c.reachTarget name target applicable
  let some cand := c.candidate? name | return (c, changed || new)
  let (cand, graph, changed) := applicable.foldl (recordDependency name target) (cand, c.graph, changed || new)
  pure ({ c with packages := putSorted name cand c.packages, graph }, changed)

/-- Records the dependencies of a package that may apply; tells whether anything was new. -/
def expandPackage (c : Concretization) (name : String) : Except Stop (Concretization × Bool) := do
  let some p := c.catalog.get? name | c.stop (.unknownPackage name)
  let some cand := c.candidate? name | return (c, false)
  let c := { c with graph := c.graph.touch name false }
  p.dependencies.foldlM (expandTarget name cand.spec) (c, false)

/-- Files a provider under a virtual package and links them in the graph; tells whether either
was new. -/
def linkProvider (c : Concretization) (name pn : String) : Concretization × Bool :=
  let c := { c with graph := c.graph.touch pn false }
  let (c, new) := match c.virtual? name with
    | some ps => if ps.contains pn then (c, false)
      else ({ c with virtuals := putSorted name (Graph.sortedNames (ps ++ [pn])) c.virtuals }, true)
    | none => (c, false)
  let (graph, added) := c.graph.addEdgeOnce ⟨some name, pn, .providedBy⟩
  ({ c with graph }, new || added)

/-- Adds one provider of a virtual package, unless the provider's spec already excludes it. -/
def addProvider (name : String) (acc : Concretization × Bool) (provider : Spec) :
    Except Stop (Concretization × Bool) := do
  let (c, changed) := acc
  let some pn := provider.name | return (c, changed)
  match c.candidate? pn with
  | some existing =>
    if !existing.spec.satisfies provider false then
      return (c.note .debug Log.expansionArea s!"{pn} can't provide {name}, it is constrained to {existing.spec.text}", changed)
    let (c, new) := c.linkProvider name pn
    pure (c, changed || new)
  | none =>
    let c := c.note .debug Log.expansionArea s!"{pn} provides {name}"
    let cand ← c.lift (newCandidate c.catalog pn (Spec.named pn))
    let (c, _) := { c with packages := putSorted pn cand c.packages }.linkProvider name pn
    pure (c, true)

/-- Adds the providers of a virtual package; tells whether anything was new. -/
def expandVirtual (c : Concretization) (name : String) : Except Stop (Concretization × Bool) :=
  let c := { c with graph := c.graph.touch name true }
  (c.catalog.providersFor name).foldlM (addProvider name) (c, false)

/-- Expands one package of a pass, gathering whether anything was new. -/
def visitPackage (acc : Concretization × Bool) (n : String) : Except Stop (Concretization × Bool) := do
  let (c, changed) ← acc.1.expandPackage n
  pure (c, acc.2 || changed)

/-- Expands one virtual package of a pass, gathering whether anything was new. -/
def visitVirtual (acc : Concretization × Bool) (n : String) : Except Stop (Concretization × Bool) := do
  let (c, changed) ← acc.1.expandVirtual n
  pure (c, acc.2 || changed)

/-- One pass: the packages known at its start, then every virtual package. -/
def pass (c : Concretization) : Except Stop (Concretization × Bool) := do
  let c := { c with passes := c.passes + 1 }
  let c := c.note .trace Log.expansionArea
    s!"expansion pass {c.passes}: {c.packages.length} packages, {c.virtuals.length} virtual packages"
  let (c, changed) ← (c.packages.map (·.1)).foldlM visitPackage (c, false)
  (c.virtuals.map (·.1)).foldlM visitVirtual (c, changed)

/-- Runs passes until one finds nothing new; `fuel` bounds the passes. -/
def expandWith : Nat → Concretization → Except Stop Concretization
  | 0, c => c.stop (.expansionLimit c.passes)
  | fuel + 1, c => do
    if c.passes ≥ c.passCeiling then c.stop (.expansionLimit c.passes)
    let (c, changed) ← c.pass
    if changed then expandWith fuel c
    else pure (c.note .info Log.expansionArea
      s!"expansion reached a fixed point after {c.passes} passes: {c.packages.length} packages, {c.virtuals.length} virtual packages")

/-- A bound on the passes any expansion over a catalog needs: every pass but the last records
something new, and there are fewer things to record than this. -/
def passFuel (cat : Catalog) : Nat :=
  let perPackage := cat.recipes.map fun p =>
    total (p.dependencies.map (·.2.length)) + p.provides.length + p.variants.length + 2
  (cat.size + 1) * (total perPackage + cat.size + 2) + 2

/-- Runs passes until one finds nothing new. -/
def expand (c : Concretization) : Except Stop Concretization := expandWith (passFuel c.catalog) c

/-- Checks and files one requested spec. -/
def fileRequest (c : Concretization) (s : Spec) : Except Stop Concretization := do
  let c ← c.addRequest s false
  pure { c with initial := c.initial ++ [s] }

/-- Checks and files the requested specs and seeds the candidates: the state the first pass
starts from. -/
def prepare (cat : Catalog) (prefs : Prefs) (specs : List Spec) : Except Stop Concretization := do
  let c ← specs.foldlM fileRequest ({ catalog := cat, prefs } : Concretization)
  c.seed

/-- Checks and files the requested specs, seeds the candidates and expands them. -/
def build (cat : Catalog) (prefs : Prefs) (specs : List Spec) : Except Stop Concretization := do
  (← prepare cat prefs specs).expand

end Concretization

end BuildSpec
