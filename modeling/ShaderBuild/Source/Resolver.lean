import ShaderBuild.Source.Assembly

/-! # Expanding includes

A resolver expands the include directives of a file.  Targets are joined onto the resolver's base
directory, whichever file names them, and `active` holds the canonical paths of the files being
expanded, outermost first: a target among them is a cycle, and there may be no more than `maxDepth`
of them when a directive is expanded.  `expand` recurses on the number of files that may still be
opened inside one another; `resolve` and `resolveAll` are the entry points. -/

namespace ShaderBuild

/-- How deep includes nest unless a resolver says otherwise. -/
def defaultMaxDepth : Nat := 32

/-- Where includes are looked up, how deep they may nest, and the files being expanded. -/
structure Resolver where
  baseDir : Path
  maxDepth : Nat := defaultMaxDepth
  active : List Path := []
deriving DecidableEq, Repr

/-- The outcome of resolving one directive: the directive and the resolver afterwards. -/
structure Resolved where
  outcome : Except SourceFault Unit
  directive : Directive
  resolver : Resolver

/-- The outcome of resolving the directives of a file, with the directives and the resolver
afterwards. -/
structure Resolution where
  outcome : Except SourceFault Unit
  directives : List Directive
  resolver : Resolver

namespace Resolver

/-! ### Executable definitions -/

/-- The path by which a file is known while it is expanded: its canonical path, or the path as given
if it has none. -/
def identity (disk : Disk) (p : Path) : Path :=
  match disk.canonical p with
  | .ok c => c
  | .error _ => p

/-- Begin to expand the file known by `p`. -/
def enter (r : Resolver) (p : Path) : Resolver :=
  { r with active := r.active ++ [p] }

/-- End the expansion begun last. -/
def leave (r : Resolver) : Resolver :=
  { r with active := r.active.dropLast }

/-- The number of files that may still be opened inside one another. -/
def room (r : Resolver) : Nat :=
  r.maxDepth + 1 - r.active.length

/-- Expands the target of the directive at a site. -/
abbrev Expander := Resolver → Site → String → Except SourceFault String × Resolver

/-- Read the target of one directive of `file` and store its expansion. -/
def resolveWith (expander : Expander) (r : Resolver) (file : SourceFile) (d : Directive) :
    Resolved :=
  let text := (file.text? d.line).getD ""
  match includePath? text with
  | none => ⟨.error (.malformedInclude ⟨file.path, d.line⟩ text), d, r⟩
  | some target =>
    match expander r ⟨file.path, d.line⟩ target with
    | (.ok expanded, r') =>
      ⟨.ok (), { d with target := some target, resolved := some expanded }, r'⟩
    | (.error e, r') => ⟨.error e, { d with target := some target }, r'⟩

/-- Resolve directives in order up to the first fault. -/
def resolveEach (expander : Expander) (file : SourceFile) :
    Resolver → List Directive → Resolution
  | r, [] => ⟨.ok (), [], r⟩
  | r, d :: ds =>
    match resolveWith expander r file d with
    | ⟨.error e, d', r'⟩ => ⟨.error e, d' :: ds, r'⟩
    | ⟨.ok (), d', r'⟩ =>
      let rest := resolveEach expander file r' ds
      { rest with directives := d' :: rest.directives }

/-- Resolve the directives of a file while it is among the files being expanded. -/
def resolveWithin (expander : Expander) (r : Resolver) (known : Path) (file : SourceFile)
    (ds : List Directive) : Resolution :=
  let inside := resolveEach expander file (r.enter known) ds
  { inside with resolver := inside.resolver.leave }

/-- The canonical path of an include target. -/
def locate (disk : Disk) (site : Site) (path : Path) : Except SourceFault Path :=
  match disk.canonical path with
  | .ok c => .ok c
  | .error .notFound => .error (.includeNotFound path site)
  | .error cause => .error (.readError path cause)

/-- Open an include target that is not being expanded: its canonical path, its lines and its
directives. -/
def openTarget (disk : Disk) (r : Resolver) (site : Site) (target : String) :
    Except SourceFault (Path × SourceFile × List Directive) := do
  if r.maxDepth < r.active.length then
    throw (.includeTooDeep site r.maxDepth)
  let path := r.baseDir.join (.ofString target)
  let known ← locate disk site path
  if r.active.any known.same then
    throw (.includeCycle known r.active site)
  let file ← SourceFile.load disk path
  let outline ← file.outline
  match outline.marker with
  | some marker => throw (.nestedBlock ⟨file.path, marker⟩)
  | none => return (known, file, outline.includes)

/-- The expanded text of an include target, with at most `room` files opened inside one another. -/
def expand (disk : Disk) : (room : Nat) → Expander
  | 0, r, site, _ => (.error (.includeTooDeep site r.maxDepth), r)
  | room + 1, r, site, target =>
    match openTarget disk r site target with
    | .error e => (.error e, r)
    | .ok (known, file, ds) =>
      let inner := resolveWithin (expand disk room) r known file ds
      match inner.outcome with
      | .error e => (.error e, inner.resolver)
      | .ok () => (file.assemble inner.directives, inner.resolver)

/-- Resolve one directive of a file, which is not itself being expanded. -/
def resolve (disk : Disk) (r : Resolver) (file : SourceFile) (d : Directive) : Resolved :=
  resolveWith (expand disk r.room) r file d

/-- Resolve the directives of a file. -/
def resolveAll (disk : Disk) (r : Resolver) (file : SourceFile) (ds : List Directive) :
    Resolution :=
  resolveWithin (expand disk r.room) r (identity disk file.path) file ds

end Resolver

end ShaderBuild
