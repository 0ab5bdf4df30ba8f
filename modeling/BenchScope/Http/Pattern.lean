import BenchScope.Path

/-!
# Patterns of paths

A pattern tells which paths a route answers. `:name` stands for the characters up to the next slash, and
`*name` at the end of a pattern for all that is left of the path, but not for nothing. A table of routes
is kept as what is left of their patterns at some point of a path, so that following a path is taking
one piece after the other off the patterns.

At every point the character itself is tried first, and a place holder only if that leads nowhere. A
slash that is left over is not tried again: a path with a slash too many at its end is not found.
-/

namespace BenchScope.Http

/-- A piece of a pattern: a character, or a place holder for the rest of a part or of the path. -/
inductive Piece where
  | char (c : Char)
  | part
  | rest
  deriving DecidableEq, Repr

/-- A pattern of paths. -/
abbrev Pattern := List Piece

/-- Why a pattern cannot be added to a table. -/
inductive PatternError where
  | malformed
  | taken
  deriving DecidableEq, Repr

namespace Pattern

/-- Whether a character starts a place holder. -/
def startsHolder (c : Char) : Bool := c == ':' || c == '*'

/-- The pieces of a part of a pattern between slashes. A place holder goes on to the end of the part and
has a name, in which no other one starts. -/
def ofPart? : List Char → Option Pattern
  | [] => some []
  | c :: name =>
    if startsHolder c then
      if name.isEmpty ∨ name.any startsHolder then none
      else some [if c = ':' then .part else .rest]
    else (ofPart? name).map (.char c :: ·)

/-- The most place holders for parts in a pattern. -/
def mostHolders : Nat := 25

/-- Reads a pattern. -/
def ofText? (text : String) : Option Pattern :=
  ((Path.parts text.toList).mapM ofPart?).bind fun parts =>
    let pattern := List.intercalate [.char '/'] parts
    if .rest ∈ pattern.dropLast ∨ mostHolders < pattern.count .part then none else some pattern

end Pattern

/-- What is left of the patterns of routes at some point of a path, with what the routes lead to. -/
abbrev Routes (α : Type) := List (Pattern × α)

/-- What a place holder leads to: the routes behind a part, or what all the rest leads to. -/
inductive Holder (α : Type) where
  | part (inner : Routes α)
  | rest (target : α)

namespace Routes

variable {α : Type}

/-! ## Points of a path -/

/-- The routes that go on with a piece, behind it. -/
def after (routes : Routes α) (piece : Piece) : Routes α :=
  routes.filterMap fun (pattern, target) =>
    match pattern with
    | [] => none
    | first :: left => if first = piece then some (left, target) else none

/-- Behind a piece are exactly the routes that had it in front. -/
theorem mem_after {routes : Routes α} {piece : Piece} {left : Pattern} {target : α} :
    (left, target) ∈ routes.after piece ↔ (piece :: left, target) ∈ routes := by
  simp only [after, List.mem_filterMap, Prod.exists]
  constructor
  · rintro ⟨pattern, other, hmem, h⟩
    cases pattern with
    | nil => simp at h
    | cons first tail =>
      simp only [Option.ite_none_right_eq_some, Option.some.injEq, Prod.mk.injEq] at h
      obtain ⟨rfl, rfl, rfl⟩ := h
      exact hmem
  · intro hmem
    exact ⟨piece :: left, target, hmem, by simp⟩

/-- What the route leads to whose pattern ends here. -/
def target? (routes : Routes α) : Option α :=
  (routes.find? fun route => route.1.isEmpty).map Prod.snd

/-- The place holder that a route goes on with. -/
def holder? (routes : Routes α) : Option (Holder α) :=
  match (routes.after .rest).target?, routes.after .part with
  | some target, _ => some (.rest target)
  | none, [] => none
  | none, inner => some (.part inner)

/-- Whether the routes part here: they do not all go on with the same character. -/
def isFork : Routes α → Bool
  | (.char c :: _, _) :: more => !more.all fun route => route.1.head? == some (.char c)
  | _ => true

/-! ## Adding routes -/

/-- Why a pattern cannot be added, if that is so. At one point there is at most one place holder, and a
place holder for the rest of a path stands behind a slash or where other routes pass. -/
def clash? (routes : Routes α) (afterSlash : Bool) : Pattern → Option PatternError
  | [] => if routes.target?.isSome then some .taken else none
  | .char c :: left => clash? (routes.after (.char c)) (c == '/') left
  | .part :: left =>
    if (routes.after .rest).isEmpty then clash? (routes.after .part) false left else some .taken
  | .rest :: _ =>
    if routes.holder?.isSome then some .taken
    else if routes.isEmpty ∧ ¬ afterSlash then some .malformed
    else none

/-- Adds a route. -/
def add (routes : Routes α) (text : String) (target : α) : Except PatternError (Routes α) :=
  match Pattern.ofText? text with
  | none => .error .malformed
  | some pattern =>
    match routes.clash? false pattern with
    | some error => .error error
    | none => .ok (routes ++ [(pattern, target)])

/-! ## Finding a route -/

/-- What comes of following a path: a route with the parts of the path that its place holders stand for,
nothing on this way, or nothing on any way. -/
inductive Search (α : Type) where
  | found (target : α) (parts : List (List Char))
  | missed
  | lost
  deriving Repr

/-- Nothing on this way; nothing on any way if just a slash was left at the last fork. -/
def Search.giveUp (held : List Char) : Search α := if held = ['/'] then .lost else .missed

/-- Tries another way if there was nothing on the first one. -/
def Search.orElse (first other : Search α) : Search α :=
  match first with
  | .missed => other
  | result => result

/-- Goes on behind the slash that ends a part, if any route does. A path that ends with this slash is
given up. -/
def Search.behindSlash (below : Routes α) (path : List Char) (onward : Search α) : Search α :=
  if !below.isEmpty then onward else if path.isEmpty then .lost else .missed

mutual

/-- Follows a path. `held` is what was left of it at the last fork. -/
def follow (routes : Routes α) (held : List Char) (parts : List (List Char)) :
    List Char → Search α
  | [] =>
    match routes.target? with
    | some target => .found target parts
    | none => .giveUp held
  | c :: path =>
    let ahead := routes.after (.char c)
    if !routes.isFork then
      if ahead.isEmpty then .giveUp held else follow ahead held parts path
    else
      let straight := if ahead.isEmpty then .missed else follow ahead (c :: path) parts path
      match routes.holder? with
      | none => if ahead.isEmpty then .giveUp (c :: path) else straight
      | some (.rest target) => straight.orElse (.found target (parts ++ [c :: path]))
      | some (.part inner) =>
        straight.orElse
          (if c = '/' then
            let below := inner.after (.char '/')
            .behindSlash below path (follow below (c :: path) (parts ++ [[]]) path)
          else followPart inner parts [c] path)

/-- Follows a path to the end of the part that a place holder stands for. -/
def followPart (inner : Routes α) (parts : List (List Char)) (part : List Char) :
    List Char → Search α
  | [] =>
    match inner.target? with
    | some target => .found target (parts ++ [part])
    | none => if (inner.after (.char '/')).target?.isSome then .lost else .missed
  | c :: path =>
    if c = '/' then
      let below := inner.after (.char '/')
      .behindSlash below path (follow below (c :: path) (parts ++ [part]) path)
    else followPart inner parts (part ++ [c]) path

end

/-- What a path leads to, with the parts of it that place holders stand for. -/
def find? (routes : Routes α) (path : List Char) : Option (α × List (List Char)) :=
  match routes.follow path [] path with
  | .found target parts => some (target, parts)
  | _ => none

end Routes

end BenchScope.Http
