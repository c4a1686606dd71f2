import Grouping.Hook

/-! # Receivers given by rules

A receiver can be given as data: a tag and rules. It notes down its tag and what it sees, and then acts
by every rule whose conditions agree with the facts, as they were before its first rule acted.
-/

namespace Grouping

/-- What a rule does: it works on what the receivers work on, or changes the receivers. -/
inductive RuleAct (α β : Type) where
  | work (f : β → β)
  | edit (e : HookEdit (Receiver α β))

structure Rule (α β : Type) where
  /-- The facts, by name, that the rule asks for. -/
  conditions : List (String × Json)
  act : RuleAct α β

/-- The facts and the notes of the receivers of a hook. -/
structure RuleForm (α β : Type) where
  facts : α → β → List (String × Json)
  sees : α → β → List String

namespace Rule

variable {α β : Type}

def holds (r : Rule α β) (facts : List (String × Json)) : Bool :=
  r.conditions.all fun c => (Json.lookup c.1 facts).any fun v => v.same c.2

def work (b : β) (r : Rule α β) : β :=
  match r.act with
  | .work f => f b
  | .edit _ => b

def edit? (r : Rule α β) : Option (HookEdit (Receiver α β)) :=
  match r.act with
  | .work _ => none
  | .edit e => some e

end Rule

/-- The receiver that acts by rules. -/
def Receiver.ofRules {α β : Type} (form : RuleForm α β) (tag : String) (rules : List (Rule α β)) :
    Receiver α β :=
  .of fun a b =>
    let active := rules.filter fun r => r.holds (form.facts a b)
    { result := active.foldl Rule.work b
      notes := ["|".intercalate (tag :: form.sees a b)]
      edits := active.filterMap Rule.edit? }

def AttachQuestion.ruleForm : RuleForm AttachQuestion Ballot where
  facts q b :=
    [("media_label", .str q.media.label), ("media_bundle", .str q.media.bundle),
      ("group_label", .str q.group.label), ("group_type", .str q.group.bundle),
      ("empty", .bool b.votes.isEmpty)]
  sees q b := [q.media.label, q.group.label, toString b.votes.length]

def IncludeQuestion.ruleForm : RuleForm IncludeQuestion Ballot where
  facts q b :=
    [("media_label", .str q.media.label), ("media_bundle", .str q.media.bundle),
      ("host_label", .str q.host.label), ("host_type", .str q.host.type), ("field", .str q.field),
      ("empty", .bool b.votes.isEmpty)]
  sees q b := [q.media.label, q.host.label, q.field, toString b.votes.length]

/-- The form of receivers that edit the groups of an entity. -/
def groupRuleForm : RuleForm Entity (List Entity) where
  facts e l :=
    [("entity_type", .str e.type), ("entity_label", .str e.label), ("count", .int l.length)]
  sees e l := [e.label, toString l.length]

end Grouping
