import Grouping.Entity

/-! # Hooks

Receivers of a hook are called in the order in which they were connected. A receiver connected under
a name replaces the earlier receiver of that name in its place. A call is answered by the receivers
connected when it starts; they may leave notes, and connect or disconnect receivers of the same hook
for later calls.

Receivers that vote do so on a ballot. A ballot without votes allows, a single `false` or a spoilt
ballot forbids.
-/

namespace Grouping

structure Ballot where
  votes : List Bool := []
  malformed : Bool := false
  deriving DecidableEq, Inhabited

namespace Ballot

def vote (b : Ballot) (v : Bool) : Ballot := { b with votes := b.votes ++ [v] }

def deny (b : Ballot) : Ballot := b.vote false

def spoil (b : Ballot) : Ballot := { b with malformed := true }

def allows (b : Ballot) : Bool := ! b.malformed && b.votes.all id

end Ballot

/-- A change of the receivers of a hook. -/
inductive HookEdit (ρ : Type) where
  | connect (name : Option String) (receiver : ρ)
  /-- Disconnects the receivers of a name, or all. -/
  | disconnect (name : Option String)

structure Reply (ρ β : Type) where
  /-- What becomes of the thing that the receivers work on. -/
  result : β
  notes : List String := []
  edits : List (HookEdit ρ) := []

/-- A receiver answers to a fixed context `α` and the work `β` of the receivers before it. -/
inductive Receiver (α β : Type) where
  | of (respond : α → β → Reply (Receiver α β) β)

namespace Receiver

variable {α β : Type}

def respond : Receiver α β → α → β → Reply (Receiver α β) β
  | of f => f

/-- A receiver that only works on its argument. -/
def plain (f : α → β → β) : Receiver α β := of fun a b => { result := f a b }

end Receiver

/-- The receivers with the names they were connected under. -/
abbrev Hook (α β : Type) := List (Option String × Receiver α β)

namespace Hook

variable {α β : Type}

def replaceNamed (name : String) (r : Receiver α β) : Hook α β → Option (Hook α β)
  | [] => none
  | e :: rest =>
    if e.1 = some name then some ((e.1, r) :: rest) else (replaceNamed name r rest).map (e :: ·)

def connect (h : Hook α β) (name : Option String) (r : Receiver α β) : Hook α β :=
  match name with
  | none => h ++ [(none, r)]
  | some n => (replaceNamed n r h).getD (h ++ [(some n, r)])

def disconnect (h : Hook α β) (name : Option String) : Hook α β :=
  match name with
  | none => []
  | some n => h.filter fun e => e.1 ≠ some n

def edit (h : Hook α β) : HookEdit (Receiver α β) → Hook α β
  | .connect name r => h.connect name r
  | .disconnect name => h.disconnect name

/-- What a call leaves behind. -/
structure Call (α β : Type) where
  result : β
  hook : Hook α β
  notes : List String

/-- Calls one receiver. -/
def step (a : α) (c : Call α β) (r : Receiver α β) : Call α β :=
  let reply := r.respond a c.result
  ⟨reply.result, reply.edits.foldl edit c.hook, c.notes ++ reply.notes⟩

def call (h : Hook α β) (a : α) (b : β) : Call α β :=
  (h.map Prod.snd).foldl (step a) ⟨b, h, []⟩

/-- No receiver edits the hook or leaves notes. -/
def IsPlain (h : Hook α β) : Prop :=
  ∀ r ∈ h.map Prod.snd, ∀ a b, (r.respond a b).edits = [] ∧ (r.respond a b).notes = []

end Hook

/-- A media item and a group it might be added to. -/
structure AttachQuestion where
  media : Entity
  group : Entity

/-- A media item and the field of the host it was found in. -/
structure IncludeQuestion where
  media : Entity
  host : Entity
  field : String

structure Hooks where
  /-- Edits the groups that media of an entity are added to. -/
  groups : Hook Entity (List Entity) := []
  /-- Votes on adding a media item to a group. -/
  attach : Hook AttachQuestion Ballot := []
  /-- Votes on keeping a media item found in a host. -/
  inclusion : Hook IncludeQuestion Ballot := []
  /-- The notes of all calls, the oldest first. -/
  notes : List String := []

namespace Hooks

def alterGroups (h : Hooks) (groups : List Entity) (e : Entity) : List Entity × Hooks :=
  let c := h.groups.call e groups
  (c.result, { h with groups := c.hook, notes := h.notes ++ c.notes })

def shouldAttach (h : Hooks) (media group : Entity) : Bool × Hooks :=
  let c := h.attach.call ⟨media, group⟩ {}
  (c.result.allows, { h with attach := c.hook, notes := h.notes ++ c.notes })

def shouldInclude (h : Hooks) (media host : Entity) (field : String) : Bool × Hooks :=
  let c := h.inclusion.call ⟨media, host, field⟩ {}
  (c.result.allows, { h with inclusion := c.hook, notes := h.notes ++ c.notes })

end Hooks

end Grouping
