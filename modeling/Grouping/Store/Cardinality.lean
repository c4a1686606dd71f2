import Grouping.Distinct
import Grouping.Store.Write
import Grouping.Violation

/-! # Limits on relations

An installation may limit in how many groups an entity is through it, and how often an entity is in
one group. A relation whose plugin, group or target is gone is not checked.
-/

namespace Grouping

inductive Saving where
  | saved (relation : Relation)
  | refused (violations : List Violation)
  deriving DecidableEq, Inhabited

namespace Store

/-- The groups other than the relation's own that have its target through its relation bundle. -/
def otherGroups (s : Store) (r : Relation) : List Int64 :=
  distinct (((s.relations.select
    { RelationQuery.ofTarget r.key with contentTypes := some [r.contentType] }).map
      Relation.group).filter fun g => g ≠ r.group)

/-- The relations in the group through the relation's plugin to its target, itself left out. -/
def sameGroup (s : Store) (r : Relation) (group : Entity) : Except Failure (List Relation) :=
  match s.byTargetId group r.plugin r.key.id with
  | .error f => .error f
  | .ok rs => .ok (rs.filter fun o => o.key.type = r.key.type && (r.id.isNone || o.id ≠ r.id))

def groupViolation (r : Relation) (fieldLabel : String) (target : Entity) : Violation :=
  { limit := .group
    path := r.target.column.path
    message := fieldLabel ++ ": " ++ target.displayLabel ++
      " has reached the maximum amount of groups it can be added to" }

def entityViolation (r : Relation) (fieldLabel : String) (target group : Entity) : Violation :=
  { limit := .entity
    path := r.target.column.path
    message := fieldLabel ++ ": " ++ target.displayLabel ++
      " has reached the maximum amount of times it can be added to " ++ group.displayLabel }

/-- The violation of the limit on groups, if it is reached. -/
def checkGroups (s : Store) (i : Installation) (r : Relation) (fieldLabel : String)
    (target : Entity) : List Violation :=
  if 0 < i.groupLimit ∧ i.groupLimit ≤ (s.otherGroups r).length then
    [groupViolation r fieldLabel target]
  else []

/-- The violation of the limit in one group, if it is reached. -/
def checkGroup (s : Store) (i : Installation) (r : Relation) (fieldLabel : String)
    (target group : Entity) : Except Failure (List Violation) :=
  if 0 < i.entityLimit then
    match s.sameGroup r group with
    | .error f => .error f
    | .ok rs =>
      .ok (if i.entityLimit ≤ rs.length then [entityViolation r fieldLabel target group] else [])
  else .ok []

/-- The limits that the relation would break. -/
def violations (s : Store) (r : Relation) : Outcome Store (List Violation) :=
  let s := s.warm
  match s.registry.ofContentType? r.contentType, s.loadGroup r, s.loadTarget r with
  | some i, some group, some target =>
    if i.configuration.isUnlimited then (.ok [], s)
    else
      let (column, s) := s.columnFor i.enabler.entityType
      let fieldLabel := (i.enabler.referenceField column).label
      ((s.checkGroup i r fieldLabel target group).map
        (s.checkGroups i r fieldLabel target ++ ·), s)
  | _, _, _ => (.ok [], s)

/-- Saves a relation unless it would break a limit. -/
def saveValidated (s : Store) (r : Relation) : Outcome Store Saving :=
  match s.violations r with
  | (.error f, s) => (.error f, s)
  | (.ok [], s) =>
    match s.save r with
    | (.error f, s) => (.error f, s)
    | (.ok r, s) => (.ok (.saved r), s)
  | (.ok vs, s) => (.ok (.refused vs), s)

end Store

end Grouping
