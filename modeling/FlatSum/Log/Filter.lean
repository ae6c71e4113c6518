import FlatSum.Log.Level

namespace FlatSum

/-! Which events a log keeps. A directive speaks for every target that begins with its own; the
longest one that does so decides, and the fallback where there is none. -/

structure Directive where
  target : String
  level : Level
deriving DecidableEq, Repr

def Directive.covers (directive : Directive) (target : String) : Bool :=
  directive.target.toList.isPrefixOf target.toList

structure Filter where
  fallback : Level
  directives : List Directive
deriving DecidableEq, Repr

namespace Filter

/-- The longest of the directives; of two as long, the earlier. -/
def longest? : List Directive → Option Directive
  | [] => none
  | directive :: rest =>
      match longest? rest with
      | some other =>
          if directive.target.length < other.target.length then some other else some directive
      | none => some directive

/-- The most talkative level kept for a target. -/
def threshold (filter : Filter) (target : String) : Level :=
  match longest? (filter.directives.filter (·.covers target)) with
  | some directive => directive.level
  | none => filter.fallback

def enables (filter : Filter) (target : String) (level : Level) : Bool :=
  decide (level ≤ filter.threshold target)

end Filter

theorem Directive.covers_iff {directive : Directive} {target : String} :
    directive.covers target = true ↔ directive.target.toList <+: target.toList :=
  List.isPrefixOf_iff_prefix

end FlatSum
