import ScenarioCheck.Scope.Binding

/-! The bindings of a name that an expression can see. In one block a later binding hides an
earlier one; alternatives of a condition all stay; within a frame only what is bound before the
statement counts, while a function that runs later sees everything around it. -/
namespace ScenarioCheck.Scope

def dropBlock (block : List (Source.Position × Option Nat)) : List Binding → List Binding
  | [] => []
  | b :: rest => if b.block == block then rest else b :: dropBlock block rest

/-- A binding hides the one of its own block that came before, unless only one of them can happen. -/
def hide (kept : List Binding) (b : Binding) : Option (List Binding) :=
  let block := b.site.place.block
  match kept.find? (·.block == block) with
  | none => some kept
  | some k =>
    if k.isAssignment && k.site.place != b.site.place && k.site.place.encloses b.site.place then none
    else if b.isOptional || k.site.place.isExclusive b.site.place then some kept
    else some (dropBlock block kept)

/-- Goes through the bindings of one scope; a limit of zero admits every line. -/
def visible (s : Site) (limit : Nat) : List Binding → List Binding → List Binding
  | kept, [] => kept
  | kept, b :: rest =>
    let isOwn := b.site.place.statement? == s.place.statement?
    if limit > 0 && b.site.line > limit then kept
    else if isOwn && s.isDecorator then visible s limit kept rest
    else if isOwn && s.isBefore && b.isClass then kept
    else if isOwn then if b.isAssignment then kept else [b]
    else if b.isOptional && b.site.place.encloses s.place then visible s limit [b] rest
    else match hide kept b with
      | none => visible s limit kept rest
      | some kept =>
        if b.site.place.isExclusive s.place then visible s limit kept rest
        else match b.origin with
          | .deleted => visible s limit [] rest
          | _ =>
            let clears := b.isTarget && !b.isOptional && b.site.place.block == s.place.block
            visible s limit ((if clears then [] else kept) ++ [b]) rest

/-- Of several names of caught exceptions only those of handlers around the expression count. -/
def withinHandlers (s : Site) (bs : List Binding) : List Binding :=
  if bs.length > 1 && bs.all (·.isCaught) then bs.filter (·.site.place.encloses s.place) else bs

/-- Where members of modules are among them, bindings are ordered by line. -/
def inOrder (bs : List Binding) : List Binding :=
  if bs.any (·.isMember) then
    (bs.filter (!·.isMember) ++ bs.filter (·.isMember)).mergeSort fun a b => a.line ≤ b.line
  else bs

/-- All bindings of a name in a scope; stars are asked for the names they provide. -/
def named (provides : Binding → String → Bool) (home : Module) (levels : List Level)
    (name : String) : List Binding :=
  inOrder ((bindings home levels).filter fun b =>
    if b.isMember && b.name == "*" then provides b name else b.name == name)

def seenIn (provides : Binding → String → Bool) (s : Site) (isFirst : Bool) (levels : List Level)
    (name : String) : List Binding :=
  let limit :=
    if s.frame.length == levels.length then s.line - (if isFirst && s.isBefore then 1 else 0) else 0
  visible s limit [] (withinHandlers s (named provides s.home levels name))

/-- The scopes further out, without those of classes. -/
def seenOutside (provides : Binding → String → Bool) (s : Site) (name : String) :
    List Level → List Binding
  | [] => []
  | l :: outer =>
    let seen := if l.isClass then [] else seenIn provides s false (l :: outer) name
    if seen.isEmpty then seenOutside provides s name outer else seen

/-- The bindings of a name seen at a site, from the innermost scope that has any. -/
def Site.lookup (provides : Binding → String → Bool) (s : Site) (name : String) : List Binding :=
  let seen := seenIn provides s true s.levels name
  if seen.isEmpty then seenOutside provides s name (s.levels.drop 1) else seen

end ScenarioCheck.Scope
