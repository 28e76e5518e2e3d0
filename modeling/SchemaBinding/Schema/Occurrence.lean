import SchemaBinding.Schema.Basic

/-! # Occurrences in content
A content model nests particles in model groups. What it says about elements is the sequence of
their occurrences, group by group in the order of the document. -/

namespace SchemaBinding.SchemaSet

/-- The occurrences of elements in a particle, through at most `steps` levels of groups; none if
there are more. Terms that are no elements and no groups contribute nothing. -/
def particleOccurrences (set : SchemaSet) : Nat → Particle → Option (List Particle)
  | 0, _ => none
  | steps + 1, particle =>
    match (set.component particle.term).kind with
    | .element _ => some [particle]
    | .group group =>
      (group.particles.mapM (set.particleOccurrences steps)).map List.flatten
    | _ => some []

/-- The **occurrences** of elements in a content, in order. A chain of distinct groups is no longer
than the set, so only a content that contains itself has none. -/
def occurrences? (set : SchemaSet) (content : List Particle) : Option (List Particle) :=
  (content.mapM (set.particleOccurrences (set.size + 1))).map List.flatten

end SchemaBinding.SchemaSet
