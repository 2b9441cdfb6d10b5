import LabelExpansion.Artifact.Basic
import LabelExpansion.Label.Basic
import Std.Data.HashMap
import Std.Data.TreeMap

/-!
# Mappings from labels to artifacts

A rule knows the artifacts of the labels it depends on. A label may stand for none, one or several,
which is not the same as not being a key. Whatever looks labels up asks for no more than this class,
so a hash table, a search tree and a plain table of entries serve equally, and each of them serves
where it is only lent. Expansion asks for less still: of an artifact it sees the path alone, which
may be any text.
-/
namespace LabelExpansion

class ArtifactMapping (μ : Type) where
  /-- The artifacts of a label, in their order; `none` if the label is not a key. -/
  artifacts? : μ → Label → Option (List Artifact)

/-- What expansion sees of a mapping, whatever its artifacts are. -/
class PathMapping (μ : Type) where
  /-- The paths of the artifacts of a label, in their order; `none` if the label is not a key. -/
  paths? : μ → Label → Option (List Text)

instance {μ : Type} [ArtifactMapping μ] : PathMapping μ where
  paths? mapping label := (ArtifactMapping.artifacts? mapping label).map (List.map Artifact.path)

/-- A mapping that someone else owns and that is only looked up in. -/
structure Lent (μ : Type) where
  mapping : μ

instance {μ : Type} [ArtifactMapping μ] : ArtifactMapping (Lent μ) where
  artifacts? lent label := ArtifactMapping.artifacts? lent.mapping label

/-- One key of a mapping with its artifacts. -/
abbrev Entry := Label × List Artifact

/-- A mapping that finds keys by their hash and equality. -/
abbrev HashedMapping := Std.HashMap Label (List Artifact)

instance : ArtifactMapping HashedMapping where
  artifacts? mapping label := mapping[label]?

/-- A mapping that finds keys by their order alone. -/
abbrev OrderedMapping := Std.TreeMap Label (List Artifact) Label.order

instance : ArtifactMapping OrderedMapping where
  artifacts? mapping label := mapping[label]?

/-- Inserts entries one after another, so that of two with equal labels the later stays. -/
def HashedMapping.ofEntries (entries : List Entry) : HashedMapping :=
  entries.foldl (fun mapping (label, artifacts) => mapping.insert label artifacts) ∅

/-- Inserts entries one after another, so that of two with equal labels the later stays. -/
def OrderedMapping.ofEntries (entries : List Entry) : OrderedMapping :=
  entries.foldl (fun mapping (label, artifacts) => mapping.insert label artifacts) ∅

/-! ## Tables -/

/-- Entries in the order in which their labels first came. A table needs nothing but the equality of
labels. -/
structure Table where
  entries : List Entry
  deriving DecidableEq

namespace Table

/-- Replaces the entry of an equal label, or adds one at the end. -/
def insertEntry (label : Label) (artifacts : List Artifact) : List Entry → List Entry
  | [] => [(label, artifacts)]
  | (key, old) :: rest =>
    if key = label then (key, artifacts) :: rest
    else (key, old) :: insertEntry label artifacts rest

def insert (table : Table) (label : Label) (artifacts : List Artifact) : Table :=
  ⟨insertEntry label artifacts table.entries⟩

def ofEntries (entries : List Entry) : Table :=
  entries.foldl (fun table (label, artifacts) => table.insert label artifacts) ⟨[]⟩

instance : ArtifactMapping Table where
  artifacts? table label := table.entries.lookup label

end Table

end LabelExpansion
